import PortGate.Net.Subnet
import PortGate.Proofs.Net.PortNotation

/-! How addresses, masks and subnets are written, as relations between texts and values. The readers
give a value exactly for the texts that write it. -/

namespace PortGate
open Text

structure OctetText (text : List Char) (n : Nat) : Prop where
  numeral : NumeralText text n
  lt_256 : n < 256
  length_le : text.length ≤ 3
  shortest : text.head? = some '0' → text.length = 1

def AddressText (text : List Char) (address : Address) : Prop :=
  ∃ a b c d k l m n, text = a ++ '.' :: (b ++ '.' :: (c ++ '.' :: d)) ∧
    OctetText a k ∧ OctetText b l ∧ OctetText c m ∧ OctetText d n ∧
    address.toNat = 16777216 * k + 65536 * l + 256 * m + n

/-- The number of leading ones, at most 32, or the mask itself in dotted form. -/
def MaskText (text : List Char) (mask : Address) : Prop :=
  (∃ bits ≤ 32, NumeralText text bits ∧ mask = Subnet.maskOfBits bits) ∨ AddressText text mask

def SubnetText (text : List Char) (s : Subnet) : Prop :=
  (AddressText text s.address ∧ s.mask = BitVec.allOnes 32) ∨
    ∃ left right, text = left ++ '/' :: right ∧ AddressText left s.address ∧
      MaskText right s.mask

theorem readOctet?_eq_some_iff {text : List Char} {n : Nat} :
    Address.readOctet? text = some n ↔ OctetText text n := by
  unfold Address.readOctet?
  constructor
  · intro h
    cases hn : Decimal.read? text with
    | none => simp [hn] at h
    | some k =>
      simp only [hn, Option.bind_eq_bind, Option.bind_some] at h
      split at h
      · rename_i hk
        cases h
        exact ⟨readNumeral?_eq_some_iff.1 hn, hk.2.2, hk.1, hk.2.1⟩
      · cases h
  · intro h
    simp only [readNumeral?_eq_some_iff.2 h.numeral, Option.bind_eq_bind, Option.bind_some]
    exact if_pos ⟨h.length_le, h.shortest, h.lt_256⟩

theorem OctetText.dot_not_mem {text : List Char} {n : Nat} (h : OctetText text n) : '.' ∉ text :=
  h.numeral.not_mem (by decide)

theorem toNat_ofOctets {k l m n : Nat} (hk : k < 256) (hl : l < 256) (hm : m < 256)
    (hn : n < 256) :
    (Address.ofOctets k l m n).toNat = 16777216 * k + 65536 * l + 256 * m + n := by
  rw [Address.ofOctets, BitVec.toNat_ofNat]
  omega

theorem readAddress?_eq_some_iff {text : List Char} {address : Address} :
    Address.read? text = some address ↔ AddressText text address := by
  constructor
  · intro h
    unfold Address.read? at h
    split at h
    · rename_i a b c d hsplit
      have htext : text = a ++ '.' :: (b ++ '.' :: (c ++ '.' :: d)) := by
        have hjoin : ['.'].intercalate (split '.' text) = text := List.intercalate_splitOn '.'
        rw [← hjoin, hsplit]
        simp [List.intercalate_cons_cons]
      simp only [Option.bind_eq_bind, Option.bind_eq_some_iff, readOctet?_eq_some_iff,
        Option.pure_def, Option.some.injEq] at h
      obtain ⟨k, hk, l, hl, m, hm, n, hn, rfl⟩ := h
      exact ⟨a, b, c, d, k, l, m, n, htext, hk, hl, hm, hn,
        toNat_ofOctets hk.lt_256 hl.lt_256 hm.lt_256 hn.lt_256⟩
    · cases h
  · rintro ⟨a, b, c, d, k, l, m, n, rfl, hk, hl, hm, hn, haddress⟩
    have heq : Address.ofOctets k l m n = address := by
      apply BitVec.eq_of_toNat_eq
      rw [toNat_ofOctets hk.lt_256 hl.lt_256 hm.lt_256 hn.lt_256, haddress]
    rw [Address.read?, split, List.splitOn_append_cons_self_of_not_mem hk.dot_not_mem,
      List.splitOn_append_cons_self_of_not_mem hl.dot_not_mem,
      List.splitOn_append_cons_self_of_not_mem hm.dot_not_mem,
      List.splitOn_eq_singleton hn.dot_not_mem]
    simp only [readOctet?_eq_some_iff.2 hk, readOctet?_eq_some_iff.2 hl,
      readOctet?_eq_some_iff.2 hm, readOctet?_eq_some_iff.2 hn, Option.bind_eq_bind,
      Option.bind_some, Option.pure_def, heq]

theorem addressText_render (address : Address) : AddressText address.render.toList address :=
  readAddress?_eq_some_iff.1 (Address.read?_render address)

theorem AddressText.dot_mem {text : List Char} {address : Address} (h : AddressText text address) :
    '.' ∈ text := by
  obtain ⟨a, b, c, d, _, _, _, _, rfl, _⟩ := h
  exact List.mem_append_right a List.mem_cons_self

theorem AddressText.slash_not_mem {text : List Char} {address : Address}
    (h : AddressText text address) : '/' ∉ text := by
  obtain ⟨a, b, c, d, k, l, m, n, rfl, ha, hb, hc, hd, _⟩ := h
  have hslash : ('/' : Char).isDigit = false := by decide
  simp [ha.numeral.not_mem hslash, hb.numeral.not_mem hslash, hc.numeral.not_mem hslash,
    hd.numeral.not_mem hslash]

theorem readMask?_eq_some_iff {text : List Char} {mask : Address} :
    Subnet.readMask? text = some mask ↔ MaskText text mask := by
  unfold Subnet.readMask? MaskText
  cases h : Decimal.read? text with
  | none =>
    have hno (bits : Nat) : ¬ NumeralText text bits := by
      intro hbits
      rw [readNumeral?_eq_some_iff.2 hbits] at h
      cases h
    simp [hno, readAddress?_eq_some_iff]
  | some n =>
    have hn := readNumeral?_eq_some_iff.1 h
    -- an address has a dot and a numeral has none, so the two notations exclude each other
    have hno : ¬ AddressText text mask := fun ha => hn.not_mem (by decide) ha.dot_mem
    have heq (bits : Nat) : NumeralText text bits ↔ bits = n := by
      rw [← readNumeral?_eq_some_iff, h, Option.some.injEq, eq_comm]
    simp only [hno, heq, or_false]
    constructor
    · intro hmask
      split at hmask
      · rename_i hbits
        cases hmask
        exact ⟨n, hbits, rfl, rfl⟩
      · cases hmask
    · rintro ⟨_, hbits, rfl, rfl⟩
      exact if_pos hbits

theorem MaskText.slash_not_mem {text : List Char} {mask : Address} (h : MaskText text mask) :
    '/' ∉ text := by
  rcases h with ⟨bits, _, hbits, _⟩ | h
  · exact hbits.not_mem (by decide)
  · exact h.slash_not_mem

theorem maskOfBits_inj {m n : Nat} (hm : m ≤ 32) (hn : n ≤ 32)
    (h : Subnet.maskOfBits m = Subnet.maskOfBits n) : m = n := by
  have all : ∀ m < 33, ∀ n < 33, Subnet.maskOfBits m = Subnet.maskOfBits n → m = n := by
    decide +kernel
  exact all m (by omega) n (by omega) h

theorem getMsbD_maskOfBits {bits i : Nat} (hbits : bits ≤ 32) :
    (Subnet.maskOfBits bits).getMsbD i = decide (i < bits) := by
  rw [Subnet.maskOfBits, BitVec.getMsbD_shiftLeft, BitVec.getMsbD_allOnes]
  exact decide_eq_decide.2 (by omega)

theorem eq_maskOfBits {bits : Nat} (hbits : bits ≤ 32) {mask : Address}
    (h : ∀ i < 32, mask.getMsbD i = decide (i < bits)) : mask = Subnet.maskOfBits bits := by
  apply BitVec.eq_of_getMsbD_eq
  intro i hi
  rw [h i hi, getMsbD_maskOfBits hbits]

theorem bitsOfMask?_eq_some_iff {mask : Address} {bits : Nat} :
    Subnet.bitsOfMask? mask = some bits ↔ bits ≤ 32 ∧ mask = Subnet.maskOfBits bits := by
  unfold Subnet.bitsOfMask?
  constructor
  · intro h
    have hmem := List.mem_range.1 (List.mem_of_find?_eq_some h)
    have hmask := List.find?_some h
    exact ⟨by omega, (of_decide_eq_true hmask).symm⟩
  · rintro ⟨hbits, rfl⟩
    cases h : (List.range 33).find? fun n => decide (Subnet.maskOfBits n = Subnet.maskOfBits bits) with
    | none =>
      have hno := List.find?_eq_none.1 h bits (List.mem_range.2 (by omega))
      exact absurd (decide_eq_true rfl) hno
    | some n =>
      have hmem := List.mem_range.1 (List.mem_of_find?_eq_some h)
      have hmask := List.find?_some h
      rw [maskOfBits_inj (by omega) hbits (of_decide_eq_true hmask)]

theorem maskText_render (mask : Address) : MaskText (Subnet.renderMask mask).toList mask := by
  unfold Subnet.renderMask
  cases h : Subnet.bitsOfMask? mask with
  | none => exact .inr (addressText_render mask)
  | some bits =>
    obtain ⟨hbits, hmask⟩ := bitsOfMask?_eq_some_iff.1 h
    exact .inl ⟨bits, hbits, numeralText_render bits, hmask⟩

theorem readSubnet_of_count {text : String} (h : 1 < text.toList.count '/') :
    Subnet.read text = .error (.malformed text) := by
  unfold Subnet.read
  rw [if_pos h]
  rfl

theorem readSubnet_of_not_mem {text : String} (h : '/' ∉ text.toList) :
    Subnet.read text =
      match Address.read? text.toList with
      | some address => .ok ⟨address, BitVec.allOnes 32⟩
      | none => .error (.invalidAddress text) := by
  have hcount : ¬ 1 < text.toList.count '/' := by rw [List.count_eq_zero.2 h]; decide
  unfold Subnet.read
  rw [if_neg hcount, splitOnce_eq_none_iff.2 h]
  dsimp only
  cases Address.read? text.toList with
  | none => rw [String.ofList_toList]; rfl
  | some address => rfl

theorem readSubnet_of_split {text : String} {left right : List Char} (hleft : '/' ∉ left)
    (hright : '/' ∉ right) (htext : text.toList = left ++ '/' :: right) :
    Subnet.read text =
      match Address.read? left, Subnet.readMask? right with
      | some address, some mask => .ok ⟨address, mask⟩
      | some _, none => .error (.invalidMask (String.ofList right))
      | none, _ => .error (.invalidAddress (String.ofList left)) := by
  have hcount : ¬ 1 < text.toList.count '/' := by rw [htext, count_mark_once hleft hright]; decide
  unfold Subnet.read
  rw [if_neg hcount, splitOnce_eq_some_iff.2 ⟨hleft, htext⟩]
  dsimp only
  cases Address.read? left with
  | none => rfl
  | some address =>
    cases Subnet.readMask? right with
    | none => rfl
    | some mask => rfl

theorem readSubnet_eq_ok_iff {text : String} {s : Subnet} :
    Subnet.read text = .ok s ↔ SubnetText text.toList s := by
  constructor
  · intro h
    rcases mark_cases '/' text.toList with hmem | ⟨left, right, hleft, hright, htext⟩ | hcount
    · rw [readSubnet_of_not_mem hmem] at h
      split at h
      · rename_i address haddress
        cases h
        exact .inl ⟨readAddress?_eq_some_iff.1 haddress, rfl⟩
      · cases h
    · rw [readSubnet_of_split hleft hright htext] at h
      split at h
      · rename_i address mask haddress hmask
        cases h
        exact .inr ⟨left, right, htext, readAddress?_eq_some_iff.1 haddress,
          readMask?_eq_some_iff.1 hmask⟩
      · cases h
      · cases h
    · rw [readSubnet_of_count hcount] at h
      cases h
  · rintro (⟨haddress, hmask⟩ | ⟨left, right, htext, haddress, hmask⟩)
    · rw [readSubnet_of_not_mem haddress.slash_not_mem, readAddress?_eq_some_iff.2 haddress,
        ← hmask]
    · rw [readSubnet_of_split haddress.slash_not_mem hmask.slash_not_mem htext,
        readAddress?_eq_some_iff.2 haddress, readMask?_eq_some_iff.2 hmask]

theorem subnetText_render (s : Subnet) : SubnetText s.render.toList s :=
  .inr ⟨s.address.render.toList, (Subnet.renderMask s.mask).toList, by simp [Subnet.render],
    addressText_render s.address, maskText_render s.mask⟩

end PortGate
