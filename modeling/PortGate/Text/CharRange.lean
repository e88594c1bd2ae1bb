/-! Closed intervals of code points, and the sets that a table of them denotes. -/

namespace PortGate.Text

/-- The characters whose code point lies between `first` and `last`, both included. -/
structure CharRange where
  first : Nat
  last : Nat
  deriving DecidableEq, Repr

namespace CharRange

def single (c : Char) : CharRange := ⟨c.toNat, c.toNat⟩

def contains (r : CharRange) (c : Char) : Bool :=
  decide (r.first ≤ c.toNat) && decide (c.toNat ≤ r.last)

instance : Membership Char CharRange where
  mem r c := r.first ≤ c.toNat ∧ c.toNat ≤ r.last

theorem mem_iff {r : CharRange} {c : Char} : c ∈ r ↔ r.first ≤ c.toNat ∧ c.toNat ≤ r.last := Iff.rfl

@[simp] theorem contains_iff (r : CharRange) (c : Char) : r.contains c = true ↔ c ∈ r := by
  simp [contains, mem_iff]

theorem mem_single (c d : Char) : d ∈ single c ↔ d.toNat = c.toNat := by
  simp only [single, mem_iff]
  omega

end CharRange

def inTable (table : List CharRange) (c : Char) : Bool :=
  table.any (·.contains c)

end PortGate.Text
