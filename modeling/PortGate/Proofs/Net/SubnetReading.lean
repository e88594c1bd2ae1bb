import PortGate.Proofs.Net.PortReading
import PortGate.Proofs.Net.SubnetNotation

/-! Every way in which reading a subnet can end. Slashes are counted first. The address is looked at before
the mask, and a mask is a number of bits or an address, whichever its characters allow. -/

namespace PortGate
open Text

inductive AddressPart (text : List Char) : List Char → Prop where
  | whole (hslash : '/' ∉ text) : AddressPart text text
  | beforeSlash {left right} (hcut : CutOnce '/' text left right) : AddressPart text left

/-- What keeps a text from being a mask. A sign, or anything else behind the digits, is `foreign`. -/
inductive MaskDefect : List Char → Prop where
  | empty : MaskDefect []
  | tooManyBits {text bits} (hnumeral : NumeralText text bits) (hmany : 32 < bits) : MaskDefect text
  | foreign {text c} (hmem : c ∈ text) (hdigit : c.isDigit = false) (hdot : c ≠ '.') : MaskDefect text
  | notQuad {text} (hdot : '.' ∈ text) (hbad : ∀ mask, ¬AddressText text mask) : MaskDefect text

inductive SubnetReading (text : String) : Except SubnetError Subnet → Prop where
  | malformed (hcount : 2 ≤ text.toList.count '/') : SubnetReading text (.error (.malformed text))
  | invalidAddress {part} (hpart : AddressPart text.toList part) (hbad : ∀ a, ¬AddressText part a) :
      SubnetReading text (.error (.invalidAddress (String.ofList part)))
  | host {a} (haddress : AddressText text.toList a) :
      SubnetReading text (.ok ⟨a, BitVec.allOnes 32⟩)
  | masked {left right a mask} (htext : text.toList = left ++ '/' :: right)
      (haddress : AddressText left a) (hmask : MaskText right mask) :
      SubnetReading text (.ok ⟨a, mask⟩)
  | invalidMask {left right a} (hcut : CutOnce '/' text.toList left right)
      (haddress : AddressText left a) (hbad : MaskDefect right) :
      SubnetReading text (.error (.invalidMask (String.ofList right)))

section
variable {text left right : List Char} {a mask : Address}

theorem AddressText.mem {c : Char} (h : AddressText text a) (hc : c ∈ text) :
    c.isDigit = true ∨ c = '.' := by
  obtain ⟨b₁, b₂, b₃, b₄, _, _, _, _, rfl, h₁, h₂, h₃, h₄, -⟩ := h
  simp only [List.mem_append, List.mem_cons] at hc
  rcases hc with hc | hc | hc | hc | hc | hc | hc
  · exact .inl (h₁.numeral.digits c hc)
  · exact .inr hc
  · exact .inl (h₂.numeral.digits c hc)
  · exact .inr hc
  · exact .inl (h₃.numeral.digits c hc)
  · exact .inr hc
  · exact .inl (h₄.numeral.digits c hc)

theorem MaskDefect.not_maskText (h : MaskDefect text) : ¬MaskText text mask := by
  rintro (⟨bits, hbits, hnumeral, -⟩ | haddress)
  · cases h with
    | empty => exact hnumeral.ne_nil rfl
    | tooManyBits hother hmany =>
      obtain rfl := hother.unique hnumeral
      omega
    | foreign hmem hdigit _ =>
      rw [hnumeral.digits _ hmem] at hdigit
      cases hdigit
    | notQuad hdot _ => exact hnumeral.not_mem (by decide) hdot
  · cases h with
    | empty => cases haddress.dot_mem
    | tooManyBits hnumeral _ => exact hnumeral.not_mem (by decide) haddress.dot_mem
    | foreign hmem hdigit hdot =>
      rcases haddress.mem hmem with hc | hc
      · rw [hc] at hdigit
        cases hdigit
      · exact hdot hc
    | notQuad _ hbad => exact hbad mask haddress

theorem maskText_or_maskDefect (text : List Char) : (∃ mask, MaskText text mask) ∨ MaskDefect text := by
  by_cases hdot : '.' ∈ text
  · by_cases haddress : ∃ mask, AddressText text mask
    · obtain ⟨mask, haddress⟩ := haddress
      exact .inl ⟨mask, .inr haddress⟩
    · exact .inr (.notQuad hdot fun mask h => haddress ⟨mask, h⟩)
  rcases numeralText_cases text with rfl | ⟨c, hmem, hdigit⟩ | hnumeral
  · exact .inr .empty
  · exact .inr (.foreign hmem hdigit fun h => hdot (h ▸ hmem))
  by_cases hbits : Decimal.value text ≤ 32
  · exact .inl ⟨_, .inl ⟨_, hbits, hnumeral, rfl⟩⟩
  · exact .inr (.tooManyBits hnumeral (by omega))

theorem maskText_iff : MaskText text mask ↔
    (∃ bits ≤ 32, NumeralText text bits ∧ ∀ i < 32, mask.getMsbD i = decide (i < bits)) ∨
      AddressText text mask := by
  refine or_congr (exists_congr fun bits => and_congr_right fun hbits => and_congr_right fun _ => ?_)
    Iff.rfl
  constructor
  · rintro rfl i _
    exact getMsbD_maskOfBits hbits
  · exact eq_maskOfBits hbits

theorem eq_allOnes_iff : mask = BitVec.allOnes 32 ↔ ∀ i < 32, mask.getMsbD i = true := by
  constructor
  · rintro rfl i hi
    rw [BitVec.getMsbD_allOnes, decide_eq_true hi]
  · intro h
    apply BitVec.eq_of_getMsbD_eq
    intro i hi
    rw [h i hi, BitVec.getMsbD_allOnes, decide_eq_true hi]

theorem maskDefect_iff : MaskDefect text ↔ ∀ mask, ¬MaskText text mask := by
  constructor
  · intro h mask
    exact h.not_maskText
  · intro h
    rcases maskText_or_maskDefect text with ⟨mask, hmask⟩ | hbad
    · exact absurd hmask (h mask)
    · exact hbad

theorem readAddress?_eq_none (h : ∀ a, ¬AddressText text a) : Address.read? text = none := by
  rw [Option.eq_none_iff_forall_ne_some]
  intro a hread
  exact h a (readAddress?_eq_some_iff.1 hread)

theorem readAddress?_cases (text : List Char) :
    (∃ a, AddressText text a ∧ Address.read? text = some a) ∨
      (∀ a, ¬AddressText text a) ∧ Address.read? text = none := by
  by_cases haddress : ∃ a, AddressText text a
  · obtain ⟨a, ha⟩ := haddress
    exact .inl ⟨a, ha, readAddress?_eq_some_iff.2 ha⟩
  · have hbad : ∀ a, ¬AddressText text a := fun a ha => haddress ⟨a, ha⟩
    exact .inr ⟨hbad, readAddress?_eq_none hbad⟩

theorem MaskDefect.readMask?_eq (h : MaskDefect text) : Subnet.readMask? text = none := by
  rw [Option.eq_none_iff_forall_ne_some]
  intro mask hread
  exact h.not_maskText (readMask?_eq_some_iff.1 hread)

end

section
variable {text : String} {left right : List Char} {outcome : Except SubnetError Subnet}

theorem readSubnet_of_cutOnce (h : CutOnce '/' text.toList left right) :
    Subnet.read text =
      match Address.read? left, Subnet.readMask? right with
      | some address, some mask => .ok ⟨address, mask⟩
      | some _, none => .error (.invalidMask (String.ofList right))
      | none, _ => .error (.invalidAddress (String.ofList left)) :=
  readSubnet_of_split h.left_free h.right_free h.text_eq

theorem CutOnce.subnetReading (h : CutOnce '/' text.toList left right) :
    SubnetReading text (Subnet.read text) := by
  rw [readSubnet_of_cutOnce h]
  rcases readAddress?_cases left with ⟨a, ha, hread⟩ | ⟨hbad, hread⟩
  · rw [hread]
    rcases maskText_or_maskDefect right with ⟨mask, hmask⟩ | hbad
    · rw [readMask?_eq_some_iff.2 hmask]
      exact .masked h.text_eq ha hmask
    · rw [hbad.readMask?_eq]
      exact .invalidMask h ha hbad
  · rw [hread]
    exact .invalidAddress (.beforeSlash h) hbad

theorem subnetReading_read (text : String) : SubnetReading text (Subnet.read text) := by
  rcases mark_cases '/' text.toList with hslash | ⟨left, right, hleft, hright, htext⟩ | hcount
  · rw [readSubnet_of_not_mem hslash]
    rcases readAddress?_cases text.toList with ⟨a, ha, hread⟩ | ⟨hbad, hread⟩
    · rw [hread]
      exact .host ha
    · have hreading := SubnetReading.invalidAddress (.whole hslash) hbad
      rw [hread]
      rwa [String.ofList_toList] at hreading
  · exact CutOnce.subnetReading ⟨htext, hleft, hright⟩
  · rw [readSubnet_of_count hcount]
    exact .malformed hcount

theorem AddressPart.read_eq {part : List Char} (h : AddressPart text.toList part)
    (hbad : ∀ a, ¬AddressText part a) :
    Subnet.read text = .error (.invalidAddress (String.ofList part)) := by
  cases h with
  | whole hslash =>
    rw [readSubnet_of_not_mem hslash, readAddress?_eq_none hbad, String.ofList_toList]
  | beforeSlash hcut => rw [readSubnet_of_cutOnce hcut, readAddress?_eq_none hbad]

theorem readSubnet_eq_iff : Subnet.read text = outcome ↔ SubnetReading text outcome := by
  constructor
  · rintro rfl
    exact subnetReading_read text
  · intro h
    cases h with
    | malformed hcount => exact readSubnet_of_count hcount
    | invalidAddress hpart hbad => exact hpart.read_eq hbad
    | host haddress => exact readSubnet_eq_ok_iff.2 (.inl ⟨haddress, rfl⟩)
    | masked htext haddress hmask =>
      exact readSubnet_eq_ok_iff.2 (.inr ⟨_, _, htext, haddress, hmask⟩)
    | invalidMask hcut haddress hbad =>
      rw [readSubnet_of_cutOnce hcut, readAddress?_eq_some_iff.2 haddress, hbad.readMask?_eq]

end

theorem readMask?_eq_branches (text : List Char) :
    Subnet.readMask? text =
      if text ≠ [] ∧ text.all Char.isDigit then
        ((Decimal.readUpTo? 255 text).filter fun bits => bits ≤ 32).map Subnet.maskOfBits
      else if '.' ∈ text then Address.read? text else none := by
  rw [Decimal.readUpTo?_eq]
  unfold Subnet.readMask? Decimal.read?
  by_cases hdigits : text ≠ [] ∧ text.all Char.isDigit = true
  · rw [if_pos hdigits, if_pos hdigits]
    -- what eight bits still hold beyond 32 is refused by the second look
    have hboth : (Decimal.value text ≤ 255 ∧ Decimal.value text ≤ 32) ↔ Decimal.value text ≤ 32 := by
      omega
    rw [Option.filter_filter]
    simp only [Option.filter_some, Bool.and_eq_true, decide_eq_true_eq, hboth]
    split <;> rfl
  · rw [if_neg hdigits, if_neg hdigits]
    by_cases hdot : '.' ∈ text
    · exact (if_pos hdot).symm
    · have hbad : ∀ a, ¬AddressText text a := fun a ha => hdot ha.dot_mem
      exact (readAddress?_eq_none hbad).trans (if_neg hdot).symm

/-- The notation of a subnet decides what is read. More than one slash is reported for the whole text.
Otherwise the part in front of the slash, or all of the text, has to be a dotted quad, and if it is not it
is reported, whatever the mask is. An address alone stands for itself. Behind an address a mask is taken
that is a run of digits of any length with a value up to 32, for as many leading ones, or a dotted quad,
as it is written; any other text behind the slash is reported. -/
theorem subnet_notation_decides (text : String) :
    (∀ near, Subnet.read text = .error (.malformed near) ↔
      2 ≤ text.toList.count '/' ∧ near = text) ∧
    (∀ part, Subnet.read text = .error (.invalidAddress part) ↔
      AddressPart text.toList part.toList ∧ ∀ a, ¬AddressText part.toList a) ∧
    (∀ s, Subnet.read text = .ok s ↔
      (AddressText text.toList s.address ∧ ∀ i < 32, s.mask.getMsbD i = true) ∨
        ∃ left right, text.toList = left ++ '/' :: right ∧ AddressText left s.address ∧
          ((∃ bits ≤ 32, NumeralText right bits ∧ ∀ i < 32, s.mask.getMsbD i = decide (i < bits)) ∨
            AddressText right s.mask)) ∧
    (∀ part, Subnet.read text = .error (.invalidMask part) ↔
      ∃ left a, CutOnce '/' text.toList left part.toList ∧ AddressText left a ∧
        MaskDefect part.toList) ∧
    (∀ part, MaskDefect part ↔ ∀ mask, ¬MaskText part mask) ∧
    ∀ part, Subnet.readMask? part =
      if part ≠ [] ∧ part.all Char.isDigit then
        ((Decimal.readUpTo? 255 part).filter fun bits => bits ≤ 32).map Subnet.maskOfBits
      else if '.' ∈ part then Address.read? part else none := by
  refine ⟨fun near => ?_, fun part => ?_, fun s => ?_, fun part => ?_, fun _ => maskDefect_iff,
    readMask?_eq_branches⟩
  · rw [readSubnet_eq_iff]
    constructor
    · intro h
      cases h with
      | malformed hcount => exact ⟨hcount, rfl⟩
    · rintro ⟨hcount, rfl⟩
      exact .malformed hcount
  · constructor
    · intro h
      cases readSubnet_eq_iff.1 h with
      | invalidAddress hpart hbad =>
        rw [String.toList_ofList]
        exact ⟨hpart, hbad⟩
    · rintro ⟨hpart, hbad⟩
      rw [hpart.read_eq hbad, String.ofList_toList]
  · rw [readSubnet_eq_ok_iff, SubnetText]
    simp only [eq_allOnes_iff, maskText_iff]
  · constructor
    · intro h
      cases readSubnet_eq_iff.1 h with
      | invalidMask hcut haddress hbad =>
        rw [String.toList_ofList]
        exact ⟨_, _, hcut, haddress, hbad⟩
    · rintro ⟨left, a, hcut, haddress, hbad⟩
      have hreading := SubnetReading.invalidMask hcut haddress hbad
      rw [String.ofList_toList] at hreading
      exact readSubnet_eq_iff.2 hreading

end PortGate
