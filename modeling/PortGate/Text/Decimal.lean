/-! Numerals. A decimal reads back to the number it writes. -/

namespace PortGate.Text.Decimal

/-- The value of a run of digits; characters that are no digits count by their distance to zero. -/
def value (digits : List Char) : Nat :=
  Nat.ofDigitChars 10 digits 0

/-- The value of a text that holds digits and nothing else, and at least one of them. -/
def read? (text : List Char) : Option Nat :=
  if text ≠ [] ∧ text.all Char.isDigit then some (value text) else none

def render (n : Nat) : String :=
  String.ofList (Nat.toDigits 10 n)

def renderTwo (n : Nat) : String :=
  if n < 10 then "0" ++ render n else render n

@[simp] theorem value_toDigits (n : Nat) : value (Nat.toDigits 10 n) = n :=
  Nat.ofDigitChars_toDigits (by decide) (by decide)

theorem read?_eq_some_iff {text : List Char} {n : Nat} :
    read? text = some n ↔ text ≠ [] ∧ text.all Char.isDigit = true ∧ value text = n := by
  grind [read?]

theorem read?_render (n : Nat) : read? (render n).toList = some n := by
  rw [read?_eq_some_iff, render, String.toList_ofList]
  refine ⟨Nat.toDigits_ne_nil, List.all_eq_true.2 fun c hc => ?_, value_toDigits n⟩
  exact Nat.isDigit_of_mem_toDigits (by decide) (by decide) hc

end PortGate.Text.Decimal

namespace PortGate.Text.Hexadecimal

/-- Eight lower case hexadecimal digits, the low 32 bits of a number. -/
def renderEight (n : Nat) : String :=
  String.ofList ([28, 24, 20, 16, 12, 8, 4, 0].map fun shift => Nat.digitChar ((n >>> shift) % 16))

def render (n : Nat) : String :=
  String.ofList (Nat.toDigits 16 n)

def digitValue (c : Char) : Nat :=
  if c.isDigit then c.toNat - '0'.toNat
  else if 'a' ≤ c then c.toNat - 'a'.toNat + 10
  else c.toNat - 'A'.toNat + 10

def isDigit (c : Char) : Bool :=
  c.isDigit || ('a' ≤ c && c ≤ 'f') || ('A' ≤ c && c ≤ 'F')

def value (digits : List Char) : Nat :=
  digits.foldl (fun n c => 16 * n + digitValue c) 0

end PortGate.Text.Hexadecimal
