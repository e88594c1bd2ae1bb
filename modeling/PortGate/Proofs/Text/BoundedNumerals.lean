import PortGate.Text.Decimal

/-! Numerals read into a machine number. One digit after the other is taken, and reading gives up at the
first digit that takes the number past the largest one. Behind any number of zeros, and however many
digits follow, that refuses just the numerals whose value is too large. -/

namespace PortGate.Text.Decimal

def pushDigit? (largest n : Nat) (c : Char) : Option Nat :=
  if 10 * n + (c.toNat - '0'.toNat) ≤ largest then some (10 * n + (c.toNat - '0'.toNat)) else none

def readUpTo? (largest : Nat) (text : List Char) : Option Nat :=
  if text ≠ [] ∧ text.all Char.isDigit then text.foldlM (pushDigit? largest) 0 else none

variable {largest n : Nat}

theorem le_ofDigitChars (digits : List Char) (n : Nat) : n ≤ Nat.ofDigitChars 10 digits n := by
  induction digits generalizing n with
  | nil => exact Nat.le_of_eq Nat.ofDigitChars_nil.symm
  | cons c digits ih =>
    rw [Nat.ofDigitChars_cons]
    have hrest := ih (10 * n + (c.toNat - '0'.toNat))
    omega

theorem foldlM_pushDigit? (digits : List Char) (hn : n ≤ largest) :
    digits.foldlM (pushDigit? largest) n =
      if Nat.ofDigitChars 10 digits n ≤ largest then some (Nat.ofDigitChars 10 digits n) else none := by
  induction digits generalizing n with
  | nil => rw [List.foldlM_nil, Nat.ofDigitChars_nil, if_pos hn, Option.pure_def]
  | cons c digits ih =>
    rw [List.foldlM_cons, Nat.ofDigitChars_cons, pushDigit?]
    by_cases hnext : 10 * n + (c.toNat - '0'.toNat) ≤ largest
    · rw [if_pos hnext, Option.bind_eq_bind, Option.bind_some, ih hnext]
    · -- the digits that were not looked at cannot bring the number back
      have hrest := le_ofDigitChars digits (10 * n + (c.toNat - '0'.toNat))
      have hvalue : ¬Nat.ofDigitChars 10 digits (10 * n + (c.toNat - '0'.toNat)) ≤ largest := by omega
      rw [if_neg hnext, Option.bind_eq_bind, Option.bind_none, if_neg hvalue]

theorem readUpTo?_eq (largest : Nat) (text : List Char) :
    readUpTo? largest text = (read? text).filter fun n => n ≤ largest := by
  unfold readUpTo? read?
  by_cases hdigits : text ≠ [] ∧ text.all Char.isDigit = true
  · have hfold : text.foldlM (pushDigit? largest) 0 =
        if value text ≤ largest then some (value text) else none :=
      foldlM_pushDigit? text (Nat.zero_le largest)
    rw [if_pos hdigits, if_pos hdigits, hfold, Option.filter_some]
    simp only [decide_eq_true_eq]
  · rw [if_neg hdigits, if_neg hdigits, Option.filter_none]

/-- Twenty zeros in front are nothing, and the fourth nine is one digit too many for three. -/
example : readUpTo? 255 "00000000000000000000255".toList = some 255 ∧
    readUpTo? 255 "9999".toList = none := by
  decide +kernel

end PortGate.Text.Decimal
