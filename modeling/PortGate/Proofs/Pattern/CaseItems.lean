import PortGate.Pattern.Class
import PortGate.Proofs.Pattern.CaseChange
import PortGate.Proofs.Success

/-! What escapes and classes stand for. An escape means a closed set or a single character, which is no
letter while case is ignored. A class lists intervals that are not empty, so its items are canonical, and
its set is closed if folding closes the items. -/

namespace PortGate.Pattern
open Text (CharRange)

namespace CharSet

def Proper (s : CharSet) : Prop := ∀ r ∈ s.ranges, r.first ≤ r.last

theorem canonical_digit : digit.Canonical := by simp [Canonical, digit]

theorem canonical_space : space.Canonical := by simp [Canonical, space]

theorem canonical_word : word.Canonical := by simp [Canonical, word]

theorem caseClosed_digit : digit.CaseClosed := caseClosed_of_codes (by decide)

theorem caseClosed_space : space.CaseClosed := caseClosed_of_codes (by decide)

theorem caseClosed_word : word.CaseClosed := caseClosed_of_codes (by decide)

theorem caseClosed_all : all.CaseClosed := caseClosed_empty.negate canonical_empty

theorem caseClosed_notLineEnd (crlf : Bool) : (notLineEnd crlf).CaseClosed := by
  cases crlf <;> exact caseClosed_of_codes (by decide)

theorem proper_negate (s : CharSet) : s.negate.Proper := first_le_last_of_mem_gaps

theorem proper_named? {name : String} {s : CharSet} (h : named? name = some s) : s.Proper := by
  unfold named? at h
  split at h <;> cases h <;> simp [Proper, digit, space, word]

end CharSet

inductive Escaped (ignoreCase : Bool) : Node → Prop
  | char {c : Char} (hc : ignoreCase = true → ¬c.isAlpha = true) : Escaped ignoreCase (.char c)
  | oneOf {s : CharSet} (hproper : s.Proper) (hclosed : s.CaseClosed) : Escaped ignoreCase (.oneOf s)
  | assertion (a : Assertion) : Escaped ignoreCase (.assertion a)

theorem Escaped.caseClosed {n : Node} (h : Escaped true n) : n.CaseClosed := by
  cases h with
  | char hc => exact CharSet.caseClosed_single (hc rfl)
  | oneOf _ hclosed => exact hclosed
  | assertion a => exact trivial

theorem escaped_literal (ignoreCase : Bool) (c : Char) :
    Escaped ignoreCase (.literal ignoreCase c) := by
  rw [Node.literal]
  split
  · exact .oneOf (CharSet.canonical_single c).fold.1 (CharSet.caseClosed_fold_single c)
  · next h => exact .char fun hcase halpha => h (Bool.and_eq_true_iff.2 ⟨hcase, halpha⟩)

section
variable {flags : Flags} {text rest : List Char} {n : Node}

theorem escaped_of_readBraced (h : readBracedHexadecimal flags text = .ok (n, rest)) :
    Escaped flags.ignoreCase n := by
  unfold readBracedHexadecimal at h
  repeat' split at h
  all_goals cases h
  exact escaped_literal _ _

theorem escaped_of_readFixed {width : Nat}
    (h : readFixedHexadecimal flags width text = .ok (n, rest)) : Escaped flags.ignoreCase n := by
  unfold readFixedHexadecimal at h
  repeat' split at h
  all_goals cases h
  exact escaped_literal _ _

theorem escaped_of_readHexadecimal {width : Nat}
    (h : readHexadecimal flags width text = .ok (n, rest)) : Escaped flags.ignoreCase n := by
  unfold readHexadecimal at h
  split at h
  · cases h
  · exact escaped_of_readBraced h
  · exact escaped_of_readFixed h

theorem escaped_of_readBoundary (h : readBoundary flags text = .ok (n, rest)) :
    Escaped flags.ignoreCase n := by
  unfold readBoundary at h
  repeat' split at h
  all_goals cases h
  all_goals exact .assertion _

theorem escaped_of_setEscape? {c : Char} {s : CharSet} (h : setEscape? c = some s) :
    Escaped flags.ignoreCase (.oneOf s) := by
  unfold setEscape? at h
  split at h
  · cases h
    exact .oneOf CharSet.canonical_digit.1 CharSet.caseClosed_digit
  · cases h
    exact .oneOf CharSet.canonical_space.1 CharSet.caseClosed_space
  · cases h
    exact .oneOf CharSet.canonical_word.1 CharSet.caseClosed_word
  · cases h
    exact .oneOf (CharSet.proper_negate _)
      (CharSet.caseClosed_digit.negate CharSet.canonical_digit)
  · cases h
    exact .oneOf (CharSet.proper_negate _)
      (CharSet.caseClosed_space.negate CharSet.canonical_space)
  · cases h
    exact .oneOf (CharSet.proper_negate _) (CharSet.caseClosed_word.negate CharSet.canonical_word)
  · cases h

theorem escaped_of_controlEscape? {c d : Char} (h : controlEscape? c = some d) :
    Escaped flags.ignoreCase (.char d) := by
  unfold controlEscape? at h
  split at h <;> cases h <;> exact .char fun _ => by decide

theorem not_isAlpha_of_isSelfEscape {c : Char} (h : isSelfEscape c = true) : ¬c.isAlpha = true := by
  have halphanum : c.isAlphanum = (c.isAlpha || c.isDigit) := rfl
  rw [isSelfEscape, halphanum] at h
  intro halpha
  simp [halpha] at h

theorem escaped_of_readEscape (h : readEscape flags text = .ok (n, rest)) :
    Escaped flags.ignoreCase n := by
  cases text with
  | nil => cases h
  | cons c text =>
    rw [readEscape] at h
    split at h
    · cases h
    · split at h
      · cases h
      · split at h
        · exact escaped_of_readBoundary h
        · split at h
          · next hself =>
            cases h
            exact .char fun _ => not_isAlpha_of_isSelfEscape hself
          · split at h
            · exact escaped_of_readHexadecimal h
            · next hset _ =>
              cases h
              exact escaped_of_setEscape? hset
            · next hcontrol _ _ =>
              cases h
              exact escaped_of_controlEscape? hcontrol
            · cases h
              exact .assertion _
            · cases h

/-! Classes. -/

theorem proper_of_itemRanges {ranges : List CharRange}
    (hn : Escaped flags.ignoreCase n ∨ ∃ c, n = .char c) (h : itemRanges n = .ok ranges) : CharSet.Proper ⟨ranges⟩ := by
  rcases hn with hn | ⟨c, rfl⟩
  · cases hn with
    | char hc =>
      cases h
      exact (CharSet.canonical_single _).1
    | oneOf hproper _ =>
      cases h
      exact hproper
    | assertion a => cases h
  · cases h
    exact (CharSet.canonical_single c).1

theorem first_le_last_of_rangeBetween {m : Node} {r : CharRange} (h : rangeBetween n m = .ok r) :
    r.first ≤ r.last := by
  unfold rangeBetween at h
  split at h
  · split at h
    · cases h
    · next hle =>
      cases h
      exact UInt32.le_iff_toNat_le.1 (Char.not_lt.1 hle)
  · cases h

theorem escaped_or_char_of_readClassItem {c : Char}
    (h : readClassItem flags c text = .ok (n, rest)) :
    Escaped flags.ignoreCase n ∨ ∃ c, n = .char c := by
  rw [readClassItem] at h
  split at h
  · exact .inl (escaped_of_readEscape h)
  · cases h
    exact .inr ⟨c, rfl⟩

theorem proper_of_readClassRange {c : Char} {ranges : List CharRange}
    (h : readClassRange flags c text = .ok (ranges, rest)) : CharSet.Proper ⟨ranges⟩ := by
  rw [readClassRange] at h
  obtain ⟨⟨first, behind⟩, hitem, h⟩ := bind_eq_ok_iff.1 h
  have hfirst := escaped_or_char_of_readClassItem hitem
  simp only at h
  split at h
  · cases h
  · split at h
    · obtain ⟨ranges, hranges, h⟩ := bind_eq_ok_iff.1 h
      cases h
      exact proper_of_itemRanges hfirst hranges
    · split at h
      · cases h
      · obtain ⟨⟨last, behind⟩, -, h⟩ := bind_eq_ok_iff.1 h
        obtain ⟨r, hrange, h⟩ := bind_eq_ok_iff.1 h
        cases h
        exact List.forall_mem_singleton.2 (first_le_last_of_rangeBetween hrange)
  · obtain ⟨ranges, hranges, h⟩ := bind_eq_ok_iff.1 h
    cases h
    exact proper_of_itemRanges hfirst hranges

theorem proper_of_readNamedSet? {s : CharSet} (h : readNamedSet? text = some (s, rest)) :
    s.Proper := by
  unfold readNamedSet? at h
  split at h
  · simp only at h
    split at h
    · obtain ⟨set, hset, h⟩ := Option.map_eq_some_iff.1 h
      cases h
      split
      · exact CharSet.proper_negate _
      · exact CharSet.proper_named? hset
    · cases h
  · cases h

theorem canonical_of_readClassItems {turns : Nat} {found items : CharSet}
    (h : readClassItems flags turns found text = .ok (items, rest)) (hfound : found.Canonical) : items.Canonical := by
  induction turns generalizing found text with
  | zero => cases h
  | succ turns ih =>
    rw [readClassItems] at h
    split at h
    · cases h
    · cases h
      exact hfound
    · split at h
      · next hnamed => exact ih h (hfound.insertAll (proper_of_readNamedSet? hnamed))
      · cases h
    · cases h
    · cases h
    · cases h
    · obtain ⟨⟨ranges, behind⟩, hrange, h⟩ := bind_eq_ok_iff.1 h
      exact ih h (hfound.insertAll (proper_of_readClassRange hrange))

theorem canonical_of_readClassStart {items : CharSet}
    (h : readClassStart flags text = .ok (items, rest)) : items.Canonical := by
  unfold readClassStart at h
  split at h
  · split at h
    · cases h
    · cases h
      exact CharSet.canonical_single _
  · cases h
    exact CharSet.canonical_empty
  · cases h
  · cases h
    exact CharSet.canonical_single _

theorem canonical_of_readClassListing {listing : ClassListing}
    (h : readClassListing flags text = .ok listing) : listing.items.Canonical := by
  obtain ⟨⟨negated, behind⟩, -, h⟩ := bind_eq_ok_iff.1 h
  obtain ⟨⟨start, behind⟩, hstart, h⟩ := bind_eq_ok_iff.1 h
  obtain ⟨⟨items, behind⟩, hitems, h⟩ := bind_eq_ok_iff.1 h
  cases h
  exact canonical_of_readClassItems hitems (canonical_of_readClassStart hstart)

theorem ClassListing.caseClosed_set {listing : ClassListing} (h : listing.items.Canonical)
    (hfolds : listing.items.FoldsWhole) : (listing.set true).CaseClosed := by
  have hclosed := (CharSet.caseClosed_fold_iff h).2 hfolds
  rw [set, if_pos rfl]
  split
  · exact hclosed.negate h.fold
  · exact hclosed

end

end PortGate.Pattern
