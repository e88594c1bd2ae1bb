import PortGate.Proofs.Net.PortNotation
import PortGate.Proofs.Text.BoundedNumerals

/-! Every way in which reading the ends of a range can end. Dashes are counted first. A text with one
dash at most has a part on each side of it, or is one part itself; the leftmost part that is no port is
reported, and the order of the ports is looked at last. -/

namespace PortGate
open Text

structure CutOnce (mark : Char) (text left right : List Char) : Prop where
  text_eq : text = left ++ mark :: right
  left_free : mark ∉ left
  right_free : mark ∉ right

inductive PortDefect : List Char → Prop where
  | empty : PortDefect []
  | nonDigit {text c} (hmem : c ∈ text) (hdigit : c.isDigit = false) : PortDefect text
  | tooLarge {text n} (hnumeral : NumeralText text n) (hlarge : 65535 < n) : PortDefect text

inductive FirstBadPart (text : List Char) : List Char → Prop where
  | whole (hdash : '-' ∉ text) (hbad : PortDefect text) : FirstBadPart text text
  | left {left right} (hcut : CutOnce '-' text left right) (hbad : PortDefect left) :
      FirstBadPart text left
  | right {left right p} (hcut : CutOnce '-' text left right) (hport : PortText left p)
      (hbad : PortDefect right) : FirstBadPart text right

/-- What the ends of a range are read as, one case for each way in which reading can end. -/
inductive BoundsReading (text : String) : Except PortRangeError (Port × Port) → Prop where
  | malformed (hcount : 2 ≤ text.toList.count '-') : BoundsReading text (.error (.malformed text))
  | single {p} (hport : PortText text.toList p) : BoundsReading text (.ok (p, p))
  | ordered {left right lo hi} (htext : text.toList = left ++ '-' :: right) (hlo : PortText left lo)
      (hhi : PortText right hi) (hle : lo ≤ hi) : BoundsReading text (.ok (lo, hi))
  | reversed {left right lo hi} (htext : text.toList = left ++ '-' :: right) (hlo : PortText left lo)
      (hhi : PortText right hi) (hlt : hi < lo) : BoundsReading text (.error (.reversed lo hi))
  | invalidPort {part} (hbad : FirstBadPart text.toList part) :
      BoundsReading text (.error (.invalidPort (String.ofList part)))

section
variable {text left right : List Char} {p lo hi : Port}

theorem NumeralText.unique {m n : Nat} (h : NumeralText text m) (h' : NumeralText text n) : m = n :=
  h.value_eq.symm.trans h'.value_eq

theorem PortDefect.not_portText (h : PortDefect text) : ¬PortText text p := by
  intro hport
  cases h with
  | empty => exact hport.ne_nil rfl
  | nonDigit hmem hdigit =>
    rw [hport.digits _ hmem] at hdigit
    cases hdigit
  | tooLarge hnumeral hlarge =>
    obtain rfl := hnumeral.unique hport
    exact absurd p.toNat_lt (by omega)

theorem numeralText_cases (text : List Char) :
    text = [] ∨ (∃ c ∈ text, c.isDigit = false) ∨ NumeralText text (Decimal.value text) := by
  by_cases hne : text = []
  · exact .inl hne
  by_cases hforeign : ∃ c ∈ text, c.isDigit = false
  · exact .inr (.inl hforeign)
  have hdigits : ∀ c ∈ text, c.isDigit = true := fun c hmem =>
    Bool.of_not_eq_false fun hdigit => hforeign ⟨c, hmem, hdigit⟩
  exact .inr (.inr ⟨hne, hdigits, rfl⟩)

theorem portText_or_portDefect (text : List Char) : (∃ p, PortText text p) ∨ PortDefect text := by
  rcases numeralText_cases text with rfl | ⟨c, hmem, hdigit⟩ | hnumeral
  · exact .inr .empty
  · exact .inr (.nonDigit hmem hdigit)
  by_cases hvalue : Decimal.value text < 65536
  · have hto : (UInt16.ofNat (Decimal.value text)).toNat = Decimal.value text :=
      UInt16.toNat_ofNat_of_lt' hvalue
    exact .inl ⟨UInt16.ofNat (Decimal.value text), by rwa [PortText, hto]⟩
  · exact .inr (.tooLarge hnumeral (by omega))

theorem PortDefect.readPort_eq (h : PortDefect text) :
    readPort text = .error (.invalidPort (String.ofList text)) := by
  cases hread : readPort text with
  | ok p => exact absurd (readPort_eq_ok_iff.1 hread) h.not_portText
  | error e =>
    unfold readPort at hread
    split at hread
    · split at hread
      · cases hread
      · exact hread.symm
    · exact hread.symm

theorem readPort_cases (text : List Char) :
    (∃ p, PortText text p ∧ readPort text = .ok p) ∨
      PortDefect text ∧ readPort text = .error (.invalidPort (String.ofList text)) := by
  rcases portText_or_portDefect text with ⟨p, hport⟩ | hbad
  · exact .inl ⟨p, hport, readPort_eq_ok_iff.2 hport⟩
  · exact .inr ⟨hbad, hbad.readPort_eq⟩

theorem cutOnce_of_ports (htext : text = left ++ '-' :: right) (hlo : PortText left lo)
    (hhi : PortText right hi) : CutOnce '-' text left right :=
  ⟨htext, hlo.dash_not_mem, hhi.dash_not_mem⟩

end

section
variable {text : String} {left right : List Char} {outcome : Except PortRangeError (Port × Port)}

theorem readBounds_of_cutOnce (h : CutOnce '-' text.toList left right) :
    readBounds text =
      (readPort left >>= fun lo => readPort right >>= fun hi =>
        if hi < lo then .error (.reversed lo hi) else .ok (lo, hi)) :=
  readBounds_of_split h.left_free h.right_free h.text_eq

theorem CutOnce.boundsReading (h : CutOnce '-' text.toList left right) :
    BoundsReading text (readBounds text) := by
  rw [readBounds_of_cutOnce h]
  rcases readPort_cases left with ⟨lo, hlo, hleft⟩ | ⟨hbad, hleft⟩
  · rw [hleft, ok_bind]
    rcases readPort_cases right with ⟨hi, hhi, hright⟩ | ⟨hbad, hright⟩
    · rw [hright, ok_bind]
      by_cases hlt : hi < lo
      · rw [if_pos hlt]
        exact .reversed h.text_eq hlo hhi hlt
      · rw [if_neg hlt]
        exact .ordered h.text_eq hlo hhi (UInt16.not_lt.1 hlt)
    · rw [hright, error_bind]
      exact .invalidPort (.right h hlo hbad)
  · rw [hleft, error_bind]
    exact .invalidPort (.left h hbad)

theorem boundsReading_readBounds (text : String) : BoundsReading text (readBounds text) := by
  rcases mark_cases '-' text.toList with hdash | ⟨left, right, hleft, hright, htext⟩ | hcount
  · rw [readBounds_of_not_mem hdash]
    rcases readPort_cases text.toList with ⟨p, hport, hread⟩ | ⟨hbad, hread⟩
    · rw [hread]
      exact .single hport
    · rw [hread]
      exact .invalidPort (.whole hdash hbad)
  · exact CutOnce.boundsReading ⟨htext, hleft, hright⟩
  · rw [readBounds_of_count hcount]
    exact .malformed hcount

theorem FirstBadPart.readBounds_eq {part : List Char} (h : FirstBadPart text.toList part) :
    readBounds text = .error (.invalidPort (String.ofList part)) := by
  cases h with
  | whole hdash hbad =>
    rw [readBounds_of_not_mem hdash, hbad.readPort_eq]
    rfl
  | left hcut hbad => rw [readBounds_of_cutOnce hcut, hbad.readPort_eq, error_bind]
  | right hcut hport hbad =>
    rw [readBounds_of_cutOnce hcut, readPort_eq_ok_iff.2 hport, ok_bind, hbad.readPort_eq, error_bind]

theorem readBounds_eq_iff : readBounds text = outcome ↔ BoundsReading text outcome := by
  constructor
  · rintro rfl
    exact boundsReading_readBounds text
  · intro h
    cases h with
    | malformed hcount => exact readBounds_of_count hcount
    | single hport =>
      rw [readBounds_of_not_mem hport.dash_not_mem, readPort_eq_ok_iff.2 hport]
      rfl
    | ordered htext hlo hhi hle =>
      rw [readBounds_of_cutOnce (cutOnce_of_ports htext hlo hhi), readPort_eq_ok_iff.2 hlo,
        readPort_eq_ok_iff.2 hhi, ok_bind, ok_bind, if_neg (UInt16.not_lt.2 hle)]
    | reversed htext hlo hhi hlt =>
      rw [readBounds_of_cutOnce (cutOnce_of_ports htext hlo hhi), readPort_eq_ok_iff.2 hlo,
        readPort_eq_ok_iff.2 hhi, ok_bind, ok_bind, if_pos hlt]
    | invalidPort hbad => exact hbad.readBounds_eq

end

theorem toOption_readPort (text : List Char) :
    (readPort text).toOption = (Decimal.readUpTo? 65535 text).map UInt16.ofNat := by
  rw [Decimal.readUpTo?_eq]
  unfold readPort
  cases Decimal.read? text with
  | none => rfl
  | some n =>
    by_cases hn : n < 65536
    · have hle : decide (n ≤ 65535) = true := decide_eq_true (by omega)
      rw [Option.filter_some, if_pos hle]
      exact congrArg Except.toOption (if_pos hn)
    · have hle : ¬decide (n ≤ 65535) = true := by rw [decide_eq_true_eq]; omega
      rw [Option.filter_some, if_neg hle]
      exact congrArg Except.toOption (if_neg hn)

/-- The notation of a range decides what is read. Two ports in order are read from two runs of digits with
a dash between them, and one port twice from a run of digits; a run may be of any length. More than one
dash is reported for the whole text, whatever stands between the dashes. Otherwise the leftmost part is
reported that is empty, holds something that is no digit or names more than the largest port, and two
ports in the wrong order are reported as such. -/
theorem range_notation_decides (text : String) :
    (∀ lo hi, readBounds text = .ok (lo, hi) ↔
      (PortText text.toList lo ∧ hi = lo) ∨
        ∃ left right, text.toList = left ++ '-' :: right ∧ PortText left lo ∧ PortText right hi ∧
          lo ≤ hi) ∧
    (∀ near, readBounds text = .error (.malformed near) ↔
      2 ≤ text.toList.count '-' ∧ near = text) ∧
    (∀ part, readBounds text = .error (.invalidPort part) ↔ FirstBadPart text.toList part.toList) ∧
    (∀ lo hi, readBounds text = .error (.reversed lo hi) ↔
      ∃ left right, text.toList = left ++ '-' :: right ∧ PortText left lo ∧ PortText right hi ∧
        hi < lo) ∧
    ∀ part, (readPort part).toOption = (Decimal.readUpTo? 65535 part).map UInt16.ofNat := by
  simp only [readBounds_eq_iff]
  refine ⟨fun lo hi => ?_, fun near => ?_, fun part => ?_, fun lo hi => ?_, toOption_readPort⟩
  · constructor
    · intro h
      cases h with
      | single hport => exact .inl ⟨hport, rfl⟩
      | ordered htext hlo hhi hle => exact .inr ⟨_, _, htext, hlo, hhi, hle⟩
    · rintro (⟨hport, rfl⟩ | ⟨left, right, htext, hlo, hhi, hle⟩)
      · exact .single hport
      · exact .ordered htext hlo hhi hle
  · constructor
    · intro h
      cases h with
      | malformed hcount => exact ⟨hcount, rfl⟩
    · rintro ⟨hcount, rfl⟩
      exact .malformed hcount
  · constructor
    · intro h
      cases h with
      | invalidPort hbad => rwa [String.toList_ofList]
    · intro h
      have hreading := BoundsReading.invalidPort h
      rwa [String.ofList_toList] at hreading
  · constructor
    · intro h
      cases h with
      | reversed htext hlo hhi hlt => exact ⟨_, _, htext, hlo, hhi, hlt⟩
    · rintro ⟨left, right, htext, hlo, hhi, hlt⟩
      exact .reversed htext hlo hhi hlt

end PortGate
