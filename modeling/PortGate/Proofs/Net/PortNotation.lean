import PortGate.Net.Port
import PortGate.Proofs.Success

/-! How ports and ranges of ports are written. A notation is a relation between texts and values, and
the reader gives a value exactly for the texts that write it. -/

namespace PortGate
open Text

/-- A run of digits and its value; any number of zeros may lead. -/
structure NumeralText (text : List Char) (n : Nat) : Prop where
  ne_nil : text ≠ []
  digits : ∀ c ∈ text, c.isDigit = true
  value_eq : Decimal.value text = n

def PortText (text : List Char) (p : Port) : Prop := NumeralText text p.toNat

def RangeText (text : List Char) (r : PortRange) : Prop :=
  (PortText text r.lo ∧ r.hi = r.lo) ∨
    ∃ left right, text = left ++ '-' :: right ∧ PortText left r.lo ∧ PortText right r.hi

theorem readNumeral?_eq_some_iff {text : List Char} {n : Nat} :
    Decimal.read? text = some n ↔ NumeralText text n := by
  rw [Decimal.read?_eq_some_iff, List.all_eq_true]
  exact ⟨fun ⟨hne, hdigits, hvalue⟩ => ⟨hne, hdigits, hvalue⟩,
    fun ⟨hne, hdigits, hvalue⟩ => ⟨hne, hdigits, hvalue⟩⟩

theorem NumeralText.not_mem {text : List Char} {n : Nat} (h : NumeralText text n) {mark : Char}
    (hmark : mark.isDigit = false) : mark ∉ text := by
  intro hmem
  rw [h.digits mark hmem] at hmark
  exact absurd hmark (by decide)

theorem numeralText_render (n : Nat) : NumeralText (Decimal.render n).toList n :=
  readNumeral?_eq_some_iff.1 (Decimal.read?_render n)

theorem readPort_eq_ok_iff {text : List Char} {p : Port} :
    readPort text = .ok p ↔ PortText text p := by
  rw [PortText, ← readNumeral?_eq_some_iff]
  unfold readPort
  cases h : Decimal.read? text with
  | none => simp
  | some n =>
    by_cases hn : n < 65536
    · have hto : (UInt16.ofNat n).toNat = n := UInt16.toNat_ofNat_of_lt' hn
      simp only [if_pos hn, Except.ok.injEq, Option.some.injEq, ← UInt16.toNat_inj, hto]
    · have hp := p.toNat_lt
      simp only [if_neg hn, reduceCtorEq, Option.some.injEq, false_iff]
      omega

theorem PortText.dash_not_mem {text : List Char} {p : Port} (h : PortText text p) : '-' ∉ text :=
  NumeralText.not_mem h (by decide)

theorem mark_cases (mark : Char) (text : List Char) :
    mark ∉ text ∨ (∃ left right, mark ∉ left ∧ mark ∉ right ∧ text = left ++ mark :: right) ∨
      1 < text.count mark := by
  cases h : splitOnce mark text with
  | none => exact .inl (splitOnce_eq_none_iff.1 h)
  | some parts =>
    obtain ⟨hleft, htext⟩ := splitOnce_eq_some_iff.1 h
    by_cases hright : mark ∈ parts.2
    · have hcount := List.count_pos_iff.2 hright
      refine .inr (.inr ?_)
      rw [htext, List.count_append, List.count_cons_self]
      omega
    · exact .inr (.inl ⟨parts.1, parts.2, hleft, hright, htext⟩)

theorem count_mark_once {mark : Char} {left right : List Char} (hleft : mark ∉ left)
    (hright : mark ∉ right) : (left ++ mark :: right).count mark = 1 := by
  rw [List.count_append, List.count_cons_self, List.count_eq_zero.2 hleft,
    List.count_eq_zero.2 hright]

theorem readBounds_of_count {text : String} (h : 1 < text.toList.count '-') :
    readBounds text = .error (.malformed text) := by
  unfold readBounds
  rw [if_pos h]
  rfl

theorem readBounds_of_not_mem {text : String} (h : '-' ∉ text.toList) :
    readBounds text = (readPort text.toList).map fun p => (p, p) := by
  have hcount : ¬ 1 < text.toList.count '-' := by rw [List.count_eq_zero.2 h]; decide
  unfold readBounds
  rw [if_neg hcount, splitOnce_eq_none_iff.2 h]
  cases readPort text.toList with
  | error e => rfl
  | ok p => exact if_neg (UInt16.lt_irrefl p)

theorem readBounds_of_split {text : String} {left right : List Char} (hleft : '-' ∉ left)
    (hright : '-' ∉ right) (htext : text.toList = left ++ '-' :: right) :
    readBounds text =
      (readPort left >>= fun lo => readPort right >>= fun hi =>
        if hi < lo then .error (.reversed lo hi) else .ok (lo, hi)) := by
  have hcount : ¬ 1 < text.toList.count '-' := by rw [htext, count_mark_once hleft hright]; decide
  unfold readBounds
  rw [if_neg hcount, splitOnce_eq_some_iff.2 ⟨hleft, htext⟩]
  dsimp only
  cases readPort left with
  | error e => rfl
  | ok lo =>
    cases readPort right with
    | error e => rfl
    | ok hi =>
      by_cases h : hi < lo
      · exact (if_pos h).trans (if_pos h).symm
      · exact (if_neg h).trans (if_neg h).symm

theorem readBounds_eq_ok_iff {text : String} {bounds : Port × Port} :
    readBounds text = .ok bounds ↔
      ∃ r : PortRange, RangeText text.toList r ∧ bounds = (r.lo, r.hi) := by
  constructor
  · intro h
    rcases mark_cases '-' text.toList with hmem | ⟨left, right, hleft, hright, htext⟩ | hcount
    · rw [readBounds_of_not_mem hmem] at h
      cases hp : readPort text.toList with
      | error e => simp [hp, Except.map] at h
      | ok p =>
        rw [hp] at h
        cases h
        exact ⟨.single p, .inl ⟨readPort_eq_ok_iff.1 hp, rfl⟩, rfl⟩
    · rw [readBounds_of_split hleft hright htext, bind_eq_ok_iff] at h
      obtain ⟨lo, hlo, h⟩ := h
      obtain ⟨hi, hhi, h⟩ := bind_eq_ok_iff.1 h
      split at h
      · cases h
      · rename_i hle
        cases h
        exact ⟨⟨lo, hi, UInt16.not_lt.1 hle⟩, .inr ⟨left, right, htext,
          readPort_eq_ok_iff.1 hlo, readPort_eq_ok_iff.1 hhi⟩, rfl⟩
    · rw [readBounds_of_count hcount] at h
      cases h
  · rintro ⟨r, ⟨hlo, hhi⟩ | ⟨left, right, htext, hlo, hhi⟩, rfl⟩
    · rw [readBounds_of_not_mem hlo.dash_not_mem, readPort_eq_ok_iff.2 hlo, hhi]
      rfl
    · rw [readBounds_of_split hlo.dash_not_mem hhi.dash_not_mem htext, readPort_eq_ok_iff.2 hlo,
        readPort_eq_ok_iff.2 hhi]
      exact if_neg (UInt16.not_lt.2 r.lo_le_hi)

theorem rangeText_render (r : PortRange) : RangeText r.render.toList r := by
  unfold PortRange.render
  by_cases h : r.lo = r.hi
  · rw [if_pos h]
    exact .inl ⟨numeralText_render _, h.symm⟩
  · rw [if_neg h]
    refine .inr ⟨(Decimal.render r.lo.toNat).toList, (Decimal.render r.hi.toNat).toList, ?_,
      numeralText_render _, numeralText_render _⟩
    simp

end PortGate
