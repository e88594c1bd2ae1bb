import Mathlib
import PortGate.Proofs.Pattern.CaseFolding

/-! Sets that hold a letter in both cases or in neither. The complement of such a set is one too. A set
is turned into one by folding, unless an interval reaches from the capital letters into the small ones:
of such an interval only the small letters are folded, so its capital letters must have their small
forms in the set already. -/

namespace PortGate.Pattern
open Text (CharRange)

namespace CharSet
variable {r : CharRange} {l ranges : List CharRange} {s : CharSet} {c d : Char}

/-- No interval is empty, and a gap is left between each two. -/
def Canonical (s : CharSet) : Prop :=
  (∀ r ∈ s.ranges, r.first ≤ r.last) ∧ s.ranges.Pairwise fun r t => r.last + 1 < t.first

theorem canonical_empty : empty.Canonical := ⟨fun _ h => absurd h List.not_mem_nil, .nil⟩

theorem canonical_single (c : Char) : (single c).Canonical :=
  ⟨fun _ h => List.mem_singleton.1 h ▸ Nat.le_refl _, List.pairwise_singleton _ _⟩

theorem lt_first_of_mem_insertRange {n : Nat} (hr : n < r.first) (hl : ∀ t ∈ l, n < t.first) :
    ∀ t ∈ insertRange r l, n < t.first := by
  induction l generalizing r with
  | nil => simpa [insertRange] using hr
  | cons s rest ih =>
    obtain ⟨hs, hrest⟩ := List.forall_mem_cons.1 hl
    rw [insertRange]
    split
    · exact List.forall_mem_cons.2 ⟨hr, hl⟩
    · split
      · exact List.forall_mem_cons.2 ⟨hs, ih hr hrest⟩
      · exact ih (Nat.lt_min.2 ⟨hr, hs⟩) hrest

theorem canonical_insertRange (h : Canonical ⟨l⟩) (hr : r.first ≤ r.last) :
    Canonical ⟨insertRange r l⟩ := by
  induction l generalizing r with
  | nil => exact ⟨by simpa [insertRange] using hr, List.pairwise_singleton _ _⟩
  | cons s rest ih =>
    obtain ⟨hs, hrest⟩ := List.forall_mem_cons.1 h.1
    obtain ⟨hafter, hapart⟩ := List.pairwise_cons.1 h.2
    rw [insertRange]
    split
    · next hbefore =>
      refine ⟨List.forall_mem_cons.2 ⟨hr, h.1⟩, List.pairwise_cons.2 ⟨?_, h.2⟩⟩
      refine List.forall_mem_cons.2 ⟨hbefore, fun t ht => ?_⟩
      have hlater := hafter t ht
      omega
    · split
      · next hbehind =>
        obtain ⟨hfirst, hgaps⟩ := ih ⟨hrest, hapart⟩ hr
        exact ⟨List.forall_mem_cons.2 ⟨hs, hfirst⟩,
          List.pairwise_cons.2 ⟨lt_first_of_mem_insertRange hbehind hafter, hgaps⟩⟩
      · exact ih ⟨hrest, hapart⟩ (by simp only; omega)

theorem Canonical.insertAll (h : s.Canonical) (hranges : ∀ r ∈ ranges, r.first ≤ r.last) :
    (s.insertAll ranges).Canonical := by
  induction ranges generalizing s with
  | nil => exact h
  | cons r rest ih =>
    obtain ⟨hr, hrest⟩ := List.forall_mem_cons.1 hranges
    exact ih (canonical_insertRange h hr) hrest

theorem first_le_last_of_otherCase? {t : CharRange} (h : t ∈ otherCase? r)
    (hr : r.first ≤ r.last) : t.first ≤ t.last := by
  have hz : 'z'.toNat = 122 := rfl
  have ha : 'a'.toNat = 97 := rfl
  have hZ : 'Z'.toNat = 90 := rfl
  have hA : 'A'.toNat = 65 := rfl
  rw [otherCase?, hz, ha, hZ, hA] at h
  split at h
  · cases h
    simp only
    omega
  · split at h
    · cases h
      simp only
      omega
    · cases h

theorem Canonical.fold (h : s.Canonical) : s.fold.Canonical := by
  refine h.insertAll fun t ht => ?_
  obtain ⟨r, hr, hother⟩ := List.mem_filterMap.1 ht
  exact first_le_last_of_otherCase? hother (h.1 r hr)

theorem first_le_last_of_mem_gaps {start : Nat} :
    ∀ t ∈ gaps start l, t.first ≤ t.last := by
  induction l generalizing start with
  | nil =>
    rw [gaps]
    split
    · next hstart => simpa using hstart
    · simp
  | cons r rest ih =>
    rw [gaps]
    split
    · exact List.forall_mem_cons.2 ⟨by simp only; omega, ih⟩
    · exact ih

theorem toNat_le_maxCodePoint (c : Char) : c.toNat ≤ maxCodePoint := by
  have hvalid := c.valid
  rw [UInt32.isValidChar, Nat.isValidChar, Char.toNat_val] at hvalid
  rw [maxCodePoint]
  omega

theorem mem_gaps {start : Nat} (h : Canonical ⟨l⟩) (hstart : ∀ r ∈ l, start ≤ r.first) :
    (∃ t ∈ gaps start l, c ∈ t) ↔ start ≤ c.toNat ∧ ∀ r ∈ l, c ∉ r := by
  induction l generalizing start with
  | nil =>
    have hmax := toNat_le_maxCodePoint c
    rw [gaps]
    split
    · simp [CharRange.mem_iff, hmax]
    · simp only [List.not_mem_nil, false_and, exists_false, false_implies, implies_true, and_true,
        false_iff]
      omega
  | cons r rest ih =>
    obtain ⟨hr, hrest⟩ := List.forall_mem_cons.1 h.1
    obtain ⟨hafter, hapart⟩ := List.pairwise_cons.1 h.2
    have hfirst := hstart r List.mem_cons_self
    have hlater : (∃ t ∈ gaps (r.last + 1) rest, c ∈ t) ↔ _ :=
      ih ⟨hrest, hapart⟩ fun t ht => Nat.le_of_lt (hafter t ht)
    -- what lies before the interval lies before the later ones as well
    have hbefore (hlt : c.toNat < r.first) : ∀ t ∈ rest, c ∉ t := by
      intro t ht hc
      have hgap := hafter t ht
      have hin := CharRange.mem_iff.1 hc
      omega
    rw [gaps, List.forall_mem_cons]
    split
    · rw [List.exists_mem_cons_iff, hlater]
      simp only [CharRange.mem_iff] at hbefore ⊢
      constructor
      · rintro (hgap | ⟨hle, hnot⟩)
        · exact ⟨hgap.1, by omega, hbefore (by omega)⟩
        · exact ⟨by omega, by omega, hnot⟩
      · rintro ⟨hle, hout, hnot⟩
        by_cases hlt : c.toNat < r.first
        · exact .inl ⟨hle, by omega⟩
        · exact .inr ⟨by omega, hnot⟩
    · rw [hlater]
      simp only [CharRange.mem_iff] at hbefore ⊢
      constructor
      · rintro ⟨hle, hnot⟩
        exact ⟨by omega, by omega, hnot⟩
      · rintro ⟨hle, hout, hnot⟩
        exact ⟨by omega, hnot⟩

theorem mem_negate (h : s.Canonical) : c ∈ s.negate ↔ c ∉ s := by
  rw [mem_iff, negate, mem_gaps h fun _ _ => Nat.zero_le _, mem_iff]
  simp

def CaseClosed (s : CharSet) : Prop :=
  ∀ c d : Char, c.toLower = d.toLower → (c ∈ s ↔ d ∈ s)

theorem caseClosed_iff_upper :
    s.CaseClosed ↔ ∀ c : Char, c.isUpper = true → (c ∈ s ↔ c.toLower ∈ s) := by
  constructor
  · intro h c hc
    have hsmall : ¬c.toLower.isUpper = true := by
      rw [isUpper_iff_toNat, toNat_toLower_of_isUpper hc]
      rw [isUpper_iff_toNat] at hc
      omega
    exact h c c.toLower (Char.toLower_eq_of_not_isUpper hsmall).symm
  · intro h c d hlike
    have hany (c : Char) : c ∈ s ↔ c.toLower ∈ s := by
      by_cases hc : c.isUpper = true
      · exact h c hc
      · rw [Char.toLower_eq_of_not_isUpper hc]
    rw [hany c, hlike, ← hany d]

theorem CaseClosed.negate (h : s.CaseClosed) (hs : s.Canonical) : s.negate.CaseClosed := by
  intro c d hlike
  rw [mem_negate hs, mem_negate hs, h c d hlike]

theorem caseClosed_empty : empty.CaseClosed := fun c d _ => by simp

theorem caseClosed_fold_single (c : Char) : (single c).fold.CaseClosed := by
  intro d e hlike
  rw [mem_fold_single, mem_fold_single, hlike]

theorem caseClosed_single (hc : ¬c.isAlpha = true) : (single c).CaseClosed := by
  intro d e hlike
  rw [mem_single, mem_single, Char.toNat_inj, Char.toNat_inj, ← toLower_eq_iff_of_not_alpha hc,
    ← toLower_eq_iff_of_not_alpha hc, hlike]

/-! Membership by code point, which can be computed. -/

def hasCode (s : CharSet) (n : Nat) : Bool :=
  s.ranges.any fun r => decide (r.first ≤ n) && decide (n ≤ r.last)

theorem hasCode_toNat : s.hasCode c.toNat = true ↔ c ∈ s := contains_iff s c

theorem exists_code_of_isUpper (hc : c.isUpper = true) : ∃ k < 26, c.toNat = 65 + k := by
  have hbetween := isUpper_iff_toNat.1 hc
  exact ⟨c.toNat - 65, by omega, by omega⟩

theorem caseClosed_of_codes (h : ∀ k < 26, s.hasCode (65 + k) = s.hasCode (97 + k)) :
    s.CaseClosed := by
  refine caseClosed_iff_upper.2 fun c hc => ?_
  obtain ⟨k, hk, hcode⟩ := exists_code_of_isUpper hc
  have hlower : c.toLower.toNat = 97 + k := by
    rw [toNat_toLower_of_isUpper hc]
    omega
  rw [← hasCode_toNat, ← hasCode_toNat, hcode, hlower, h k hk]

/-- An interval that holds capital letters and reaches to the small ones has the first of these. All its
capital letters then have their small forms in the set. -/
def FoldsWhole (s : CharSet) : Prop :=
  ∀ r ∈ s.ranges, 'a' ∈ r → ∀ c ∈ r, c.isUpper = true → c.toLower ∈ s

theorem foldsWhole_iff_codes :
    s.FoldsWhole ↔ ∀ r ∈ s.ranges, r.first ≤ 97 ∧ 97 ≤ r.last →
      ∀ k < 26, r.first ≤ 65 + k → s.hasCode (97 + k) = true := by
  constructor
  · intro h r hr hreaches k hk hfirst
    have hcode : (Char.ofNat (65 + k)).toNat = 65 + k :=
      (by decide : ∀ k < 26, (Char.ofNat (65 + k)).toNat = 65 + k) k hk
    have hupper : (Char.ofNat (65 + k)).isUpper = true := isUpper_iff_toNat.2 (by omega)
    have hsmall := h r hr hreaches (Char.ofNat (65 + k)) ⟨by omega, by omega⟩ hupper
    rw [← hasCode_toNat, toNat_toLower_of_isUpper hupper, hcode] at hsmall
    rwa [show 97 + k = 65 + k + 32 by omega]
  · intro h r hr hreaches c hc hupper
    obtain ⟨k, hk, hcode⟩ := exists_code_of_isUpper hupper
    have hsmall := h r hr hreaches k hk (hcode ▸ hc.1)
    rw [← hasCode_toNat, toNat_toLower_of_isUpper hupper, hcode]
    rwa [show 65 + k + 32 = 97 + k by omega]

instance (s : CharSet) : Decidable s.FoldsWhole :=
  decidable_of_iff _ foldsWhole_iff_codes.symm

theorem mem_fold_of_isUpper (hc : c.isUpper = true) : c ∈ s.fold ↔ c ∈ s ∨ c.toLower ∈ s := by
  have hcode := toNat_toLower_of_isUpper hc
  rw [isUpper_iff_toNat] at hc
  rw [mem_fold]
  refine or_congr_right (exists_congr fun r => and_congr_right fun _ => ?_)
  rw [mem_otherCase?_iff, CharRange.mem_iff, hcode]
  split <;> omega

theorem toLower_mem_fold (hc : c.isUpper = true) :
    c.toLower ∈ s.fold ↔ c.toLower ∈ s ∨ ∃ r ∈ s.ranges, c ∈ r ∧ 'a' ∉ r := by
  have hcode := toNat_toLower_of_isUpper hc
  have ha : 'a'.toNat = 97 := rfl
  rw [isUpper_iff_toNat] at hc
  rw [mem_fold]
  refine or_congr_right (exists_congr fun r => and_congr_right fun _ => ?_)
  rw [mem_otherCase?_iff, CharRange.mem_iff, CharRange.mem_iff, hcode, ha]
  split <;> omega

theorem Canonical.eq_of_mem (h : s.Canonical) {r t : CharRange} (hr : r ∈ s.ranges)
    (ht : t ∈ s.ranges) (hcr : c ∈ r) (hct : c ∈ t) : r = t := by
  have hgaps := List.pairwise_iff_getElem.1 h.2
  obtain ⟨i, hi, rfl⟩ := List.getElem_of_mem hr
  obtain ⟨j, hj, rfl⟩ := List.getElem_of_mem ht
  rw [CharRange.mem_iff] at hcr hct
  rcases Nat.lt_trichotomy i j with hij | rfl | hji
  · have hgap := hgaps i j hi hj hij
    omega
  · rfl
  · have hgap := hgaps j i hj hi hji
    omega

theorem caseClosed_fold_iff (h : s.Canonical) : s.fold.CaseClosed ↔ s.FoldsWhole := by
  rw [caseClosed_iff_upper]
  constructor
  · intro hclosed r hr hreaches c hc hupper
    have hfold := hclosed c hupper
    rw [mem_fold_of_isUpper hupper, toLower_mem_fold hupper] at hfold
    rcases hfold.1 (.inl ⟨r, hr, hc⟩) with hsmall | ⟨t, ht, hct, hshort⟩
    · exact hsmall
    · exact absurd (h.eq_of_mem hr ht hc hct ▸ hreaches) hshort
  · intro hwhole c hupper
    rw [mem_fold_of_isUpper hupper, toLower_mem_fold hupper]
    constructor
    · rintro (⟨r, hr, hc⟩ | hsmall)
      · by_cases hreaches : 'a' ∈ r
        · exact .inl (hwhole r hr hreaches c hc hupper)
        · exact .inr ⟨r, hr, hc, hreaches⟩
      · exact .inl hsmall
    · rintro (hsmall | ⟨r, hr, hc, -⟩)
      · exact .inr hsmall
      · exact .inl ⟨r, hr, hc⟩

end CharSet

end PortGate.Pattern
