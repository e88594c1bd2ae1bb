import Mathlib.Data.List.Basic
import PortGate.Pattern.CharSet

/-! Which characters the operations on sets put in, and what folding a single letter amounts to. Two
characters are the same but for the case of ASCII letters when `Char.toLower` sends them to one
character: it changes the upper case ASCII letters and nothing else. -/

namespace PortGate.Pattern
open Text (CharRange)

namespace CharSet
variable {r : CharRange} {s : CharSet} {c d : Char}

theorem mem_insertRange {l : List CharRange} :
    (∃ t ∈ insertRange r l, c ∈ t) ↔ c ∈ r ∨ ∃ t ∈ l, c ∈ t := by
  induction l generalizing r with
  | nil => simp only [insertRange, List.exists_mem_cons_iff, List.not_mem_nil, false_and]
  | cons s rest ih =>
    rw [insertRange]
    split
    · exact List.exists_mem_cons_iff ..
    · next hbefore =>
      split
      · simp only [List.exists_mem_cons_iff, ih]
        exact or_left_comm
      · next hafter =>
        have hjoined : c ∈ (⟨min r.first s.first, max r.last s.last⟩ : CharRange) ↔
            c ∈ r ∨ c ∈ s := by
          simp only [CharRange.mem_iff]
          omega
        rw [ih, hjoined, List.exists_mem_cons_iff, or_assoc]

theorem mem_insert : c ∈ s.insert r ↔ c ∈ s ∨ c ∈ r :=
  mem_insertRange.trans or_comm

theorem mem_insertAll {ranges : List CharRange} :
    c ∈ s.insertAll ranges ↔ c ∈ s ∨ ∃ r ∈ ranges, c ∈ r := by
  induction ranges generalizing s with
  | nil => simp only [insertAll, List.foldl_nil, List.not_mem_nil, false_and, exists_false, or_false]
  | cons r rest ih =>
    rw [insertAll, List.foldl_cons, ← insertAll, ih, mem_insert, List.exists_mem_cons_iff, or_assoc]

theorem mem_fold : c ∈ s.fold ↔ c ∈ s ∨ ∃ r ∈ s.ranges, ∃ t ∈ otherCase? r, c ∈ t := by
  simp only [fold, mem_insertAll, List.mem_filterMap, Option.mem_def]
  grind

theorem length_insertRange_le {l : List CharRange} : (insertRange r l).length ≤ l.length + 1 := by
  induction l generalizing r with
  | nil => exact Nat.le_refl 1
  | cons s rest ih =>
    rw [insertRange]
    split
    · exact Nat.le_refl _
    · split
      · exact Nat.succ_le_succ ih
      · exact Nat.le_succ_of_le ih

theorem length_insertAll_le {ranges : List CharRange} :
    (s.insertAll ranges).ranges.length ≤ s.ranges.length + ranges.length := by
  induction ranges generalizing s with
  | nil => exact Nat.le_refl _
  | cons r rest ih =>
    have hinsert : (s.insert r).ranges.length ≤ s.ranges.length + 1 := length_insertRange_le
    have hrest := ih (s := s.insert r)
    rw [insertAll, List.foldl_cons, ← insertAll, List.length_cons]
    omega

theorem length_fold_le : s.fold.ranges.length ≤ 2 * s.ranges.length := by
  have hfold : s.fold.ranges.length ≤ _ := length_insertAll_le
  have hothers := List.length_filterMap_le otherCase? s.ranges
  omega

theorem mem_otherCase?_iff :
    (∃ t ∈ otherCase? r, c ∈ t) ↔
      if r.first ≤ 122 ∧ 97 ≤ r.last then
        (65 ≤ c.toNat ∧ c.toNat ≤ 90) ∧ r.first ≤ c.toNat + 32 ∧ c.toNat + 32 ≤ r.last
      else (97 ≤ c.toNat ∧ c.toNat ≤ 122) ∧ r.first + 32 ≤ c.toNat ∧ c.toNat ≤ r.last + 32 := by
  have hz : 'z'.toNat = 122 := rfl
  have ha : 'a'.toNat = 97 := rfl
  have hZ : 'Z'.toNat = 90 := rfl
  have hA : 'A'.toNat = 65 := rfl
  rw [otherCase?, hz, ha, hZ, hA]
  split
  · simp only [Option.mem_some, exists_eq_left', CharRange.mem_iff]
    omega
  · split
    · simp only [Option.mem_some, exists_eq_left', CharRange.mem_iff]
      omega
    · simp only [Option.mem_def, reduceCtorEq, false_and, exists_false, false_iff]
      omega

end CharSet

section
variable {c d : Char}

theorem isUpper_iff_toNat : c.isUpper = true ↔ 65 ≤ c.toNat ∧ c.toNat ≤ 90 := by
  have hbetween : c.isUpper = true ↔ 'A'.val ≤ c.val ∧ c.val ≤ 'Z'.val := decide_eq_true_iff
  exact hbetween.trans (and_congr UInt32.le_iff_toNat_le UInt32.le_iff_toNat_le)

theorem isLower_iff_toNat : c.isLower = true ↔ 97 ≤ c.toNat ∧ c.toNat ≤ 122 := by
  have hbetween : c.isLower = true ↔ 'a'.val ≤ c.val ∧ c.val ≤ 'z'.val :=
    Bool.and_eq_true_iff.trans (and_congr decide_eq_true_iff decide_eq_true_iff)
  exact hbetween.trans (and_congr UInt32.le_iff_toNat_le UInt32.le_iff_toNat_le)

theorem isAlpha_iff_toNat :
    c.isAlpha = true ↔ (65 ≤ c.toNat ∧ c.toNat ≤ 90) ∨ (97 ≤ c.toNat ∧ c.toNat ≤ 122) := by
  have heither : c.isAlpha = (c.isUpper || c.isLower) := rfl
  rw [heither, Bool.or_eq_true, isUpper_iff_toNat, isLower_iff_toNat]

theorem toNat_toLower :
    c.toLower.toNat = if 65 ≤ c.toNat ∧ c.toNat ≤ 90 then c.toNat + 32 else c.toNat := by
  have hbetween : 'A'.val ≤ c.val ∧ c.val ≤ 'Z'.val ↔ 65 ≤ c.toNat ∧ c.toNat ≤ 90 :=
    and_congr UInt32.le_iff_toNat_le UInt32.le_iff_toNat_le
  split
  · next h =>
    have hupper : c.toLower.val = c.val + 32 := congrArg Char.val (dif_pos (hbetween.2 h))
    rw [← Char.toNat_val, hupper, UInt32.toNat_add, Char.toNat_val]
    exact Nat.mod_eq_of_lt (Nat.lt_of_le_of_lt (Nat.add_le_add_right h.2 32) (by decide))
  · next h =>
    have hother : c.toLower = c := dif_neg (mt hbetween.1 h)
    rw [hother]

theorem toNat_toLower_of_isUpper (hc : c.isUpper = true) : c.toLower.toNat = c.toNat + 32 := by
  rw [toNat_toLower, if_pos (isUpper_iff_toNat.1 hc)]

theorem CharSet.mem_fold_single : d ∈ (single c).fold ↔ d.toLower = c.toLower := by
  rw [mem_fold, mem_single, ← Char.toNat_inj, toNat_toLower, toNat_toLower]
  simp only [single, List.exists_mem_cons_iff, List.not_mem_nil, false_and, exists_false, or_false,
    mem_otherCase?_iff, CharRange.single]
  split <;> split <;> split <;> omega

theorem toLower_eq_iff_of_not_alpha (hc : ¬c.isAlpha = true) : d.toLower = c.toLower ↔ d = c := by
  rw [← Char.toNat_inj, ← Char.toNat_inj, toNat_toLower, toNat_toLower]
  rw [isAlpha_iff_toNat] at hc
  split <;> split <;> omega

end

end PortGate.Pattern
