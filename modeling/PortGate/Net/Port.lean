import PortGate.Text.Decimal
import PortGate.Text.Split

/-! Ports and inclusive ranges of them, with their text: one port, or the lowest and the highest
joined by a dash. -/

namespace PortGate
open Text

abbrev Port := UInt16

/-- The ports from `lo` to `hi`, both included. -/
structure PortRange where
  lo : Port
  hi : Port
  lo_le_hi : lo ≤ hi
  deriving DecidableEq

inductive PortRangeError where
  /-- The text holds more than one dash. -/
  | malformed (text : String)
  | invalidPort (text : String)
  | reversed (lo hi : Port)
  deriving DecidableEq, Repr

namespace PortRange

instance : Membership Port PortRange where
  mem r p := r.lo ≤ p ∧ p ≤ r.hi

theorem mem_iff {r : PortRange} {p : Port} : p ∈ r ↔ r.lo ≤ p ∧ p ≤ r.hi := Iff.rfl

theorem ext_toNat {r t : PortRange} (hlo : r.lo.toNat = t.lo.toNat) (hhi : r.hi.toNat = t.hi.toNat) :
    r = t := by
  obtain ⟨lo, hi, hle⟩ := r
  obtain ⟨lo', hi', hle'⟩ := t
  obtain rfl : lo = lo' := UInt16.toNat_inj.1 hlo
  obtain rfl : hi = hi' := UInt16.toNat_inj.1 hhi
  rfl

instance (p : Port) (r : PortRange) : Decidable (p ∈ r) :=
  inferInstanceAs (Decidable (r.lo ≤ p ∧ p ≤ r.hi))

def single (p : Port) : PortRange := ⟨p, p, UInt16.le_refl p⟩

def ofBounds (lo hi : Port) : Except PortRangeError PortRange :=
  if h : lo ≤ hi then .ok ⟨lo, hi, h⟩ else .error (.reversed lo hi)

@[simp] theorem ofBounds_self (r : PortRange) : ofBounds r.lo r.hi = .ok r := by
  simp [ofBounds, r.lo_le_hi]

def size (r : PortRange) : Nat := r.hi.toNat - r.lo.toNat + 1

def render (r : PortRange) : String :=
  if r.lo = r.hi then Decimal.render r.lo.toNat
  else Decimal.render r.lo.toNat ++ "-" ++ Decimal.render r.hi.toNat

/-- Both ends, even when they are the same. -/
def renderBounds (r : PortRange) : String :=
  Decimal.render r.lo.toNat ++ "-" ++ Decimal.render r.hi.toNat

end PortRange

namespace PortRangeError

def message : PortRangeError → String
  | malformed text => "malformed permission rule near \"" ++ text ++ "\""
  | invalidPort text => "invalid port \"" ++ text ++ "\""
  | reversed lo hi =>
    "invalid port range " ++ Decimal.render lo.toNat ++ "-" ++ Decimal.render hi.toNat

end PortRangeError

def readPort (text : List Char) : Except PortRangeError Port :=
  match Decimal.read? text with
  | some n => if n < 65536 then .ok (UInt16.ofNat n) else .error (.invalidPort (String.ofList text))
  | none => .error (.invalidPort (String.ofList text))

/-- The ends of a range. The left port is looked at before the right one, and their order last. -/
def readBounds (text : String) : Except PortRangeError (Port × Port) := do
  if 1 < text.toList.count '-' then throw (.malformed text)
  let (lo, hi) ← match splitOnce '-' text.toList with
    | some (left, right) => do
      let lo ← readPort left
      let hi ← readPort right
      pure (lo, hi)
    | none => do
      let p ← readPort text.toList
      pure (p, p)
  if hi < lo then throw (.reversed lo hi)
  return (lo, hi)

end PortGate
