import Mathlib.Algebra.Ring.Nat
import PortGate.Proofs.Rule.LeftmostDefect
import PortGate.Proofs.Rule.Reading
import PortGate.Proofs.RuleList.DeadRules

/-! The addresses that a rule takes, told from the text of its subnet. A number of bits counts the bits
from the top that have to agree, and these are the addresses of one aligned interval. A dotted mask
says bit by bit what counts, with gaps or without. -/

namespace PortGate
open Text

/-! ### Bits and intervals -/

/-- Some interval of `size` numbers that begins at a multiple of `size` holds both addresses. -/
def ShareInterval (size : Nat) (a b : Address) : Prop :=
  ∃ first, size ∣ first ∧ (first ≤ a.toNat ∧ a.toNat < first + size) ∧
    first ≤ b.toNat ∧ b.toNat < first + size

theorem shareInterval_iff_div_eq {size : Nat} (hsize : 0 < size) {a b : Address} :
    ShareInterval size a b ↔ a.toNat / size = b.toNat / size := by
  constructor
  · rintro ⟨first, ⟨k, rfl⟩, ha, hb⟩
    have hquotient (x : Nat) (hx : size * k ≤ x ∧ x < size * k + size) : x / size = k := by
      rw [Nat.mul_comm] at hx
      exact Nat.div_eq_of_lt_le hx.1 (by rw [Nat.succ_mul]; exact hx.2)
    rw [hquotient _ ha, hquotient _ hb]
  · intro h
    have hbounds (x : Nat) : size * (x / size) ≤ x ∧ x < size * (x / size) + size :=
      ⟨Nat.mul_div_le x size, Nat.lt_mul_div_succ x hsize⟩
    refine ⟨size * (a.toNat / size), Nat.dvd_mul_right _ _, hbounds _, ?_⟩
    rw [h]
    exact hbounds _

theorem shareInterval_iff_getMsbD {bits : Nat} (hbits : bits ≤ 32) {a b : Address} :
    ShareInterval (2 ^ (32 - bits)) a b ↔ ∀ i < bits, a.getMsbD i = b.getMsbD i := by
  have hquotient (x : Address) : x.toNat / 2 ^ (32 - bits) = (x >>> (32 - bits)).toNat := by
    rw [BitVec.toNat_ushiftRight, Nat.shiftRight_eq_div_pow]
  have hbit (x : Address) {i : Nat} (hi : i < bits) :
      (x >>> (32 - bits)).getMsbD (i + (32 - bits)) = x.getMsbD i := by
    have hlt : i + (32 - bits) < 32 := by omega
    have hge : ¬i + (32 - bits) < 32 - bits := by omega
    rw [BitVec.getMsbD_ushiftRight, Nat.add_sub_cancel]
    simp only [hlt, hge, decide_true, decide_false, Bool.not_false, Bool.true_and]
  rw [shareInterval_iff_div_eq (Nat.two_pow_pos _), hquotient, hquotient, BitVec.toNat_inj]
  constructor
  · intro h i hi
    rw [← hbit a hi, ← hbit b hi, h]
  · intro h
    apply BitVec.eq_of_getMsbD_eq
    intro i _
    by_cases hlow : i < 32 - bits
    · simp only [BitVec.getMsbD_ushiftRight, hlow, decide_true, Bool.not_true, Bool.false_and,
        Bool.and_false]
    · have hplace : i - (32 - bits) + (32 - bits) = i := by omega
      have htop : i - (32 - bits) < bits := by omega
      rw [← hplace, hbit a htop, hbit b htop]
      exact h _ htop

theorem forall_getMsbD_iff {a b : Address} :
    (∀ i < 32, a.getMsbD i = b.getMsbD i) ↔ a = b :=
  ⟨BitVec.eq_of_getMsbD_eq, fun h i _ => by rw [h]⟩

namespace Subnet

theorem contains_iff_getMsbD {s : Subnet} {address : Address} :
    s.contains address = true ↔
      ∀ i < 32, s.mask.getMsbD i = true → address.getMsbD i = s.address.getMsbD i := by
  rw [contains_eq_true_iff]
  constructor
  · intro h i _ hselected
    have hbit := congrArg (BitVec.getMsbD · i) h
    simpa only [BitVec.getMsbD_and, hselected, Bool.and_true] using hbit
  · intro h
    apply BitVec.eq_of_getMsbD_eq
    intro i hi
    rw [BitVec.getMsbD_and, BitVec.getMsbD_and]
    cases hselected : s.mask.getMsbD i with
    | true => rw [h i hi hselected]
    | false => rw [Bool.and_false, Bool.and_false]

theorem contains_maskOfBits_iff {bits : Nat} (hbits : bits ≤ 32) {a address : Address} :
    contains ⟨a, maskOfBits bits⟩ address = true ↔
      ∀ i < bits, address.getMsbD i = a.getMsbD i := by
  rw [contains_iff_getMsbD]
  constructor
  · intro h i hi
    have hlt : i < 32 := Nat.lt_of_lt_of_le hi hbits
    exact h i hlt (by rw [getMsbD_maskOfBits hbits, decide_eq_true hi])
  · intro h i _ hselected
    rw [getMsbD_maskOfBits hbits] at hselected
    exact h i (of_decide_eq_true hselected)

theorem contains_congr {a a' mask address address' : Address}
    (h : ∀ i < 32, mask.getMsbD i = true →
      a.getMsbD i = a'.getMsbD i ∧ address.getMsbD i = address'.getMsbD i) :
    contains ⟨a, mask⟩ address = contains ⟨a', mask⟩ address' := by
  have hselect (x y : Address)
      (hxy : ∀ i < 32, mask.getMsbD i = true → x.getMsbD i = y.getMsbD i) :
      x &&& mask = y &&& mask := by
    have hsame : contains ⟨y, mask⟩ x = true := contains_iff_getMsbD.2 hxy
    exact contains_eq_true_iff.1 hsame
  have haddress := hselect a a' fun i hi hbit => (h i hi hbit).1
  have hcandidate := hselect address address' fun i hi hbit => (h i hi hbit).2
  rw [contains, contains, haddress, hcandidate]

end Subnet

/-! ### From the text of a subnet -/

theorem toList_append_slash (left right : String) :
    (left ++ "/" ++ right).toList = left.toList ++ '/' :: right.toList := by
  simp only [String.toList_append, List.append_assoc]
  rfl

theorem readSubnet_masked {left right : String} {address mask : Address}
    (haddress : AddressText left.toList address) (hmask : MaskText right.toList mask) :
    Subnet.read (left ++ "/" ++ right) = .ok ⟨address, mask⟩ :=
  readSubnet_eq_ok_iff.2 (.inr ⟨_, _, toList_append_slash left right, haddress, hmask⟩)

theorem readSubnet_plain {text : String} {address : Address}
    (haddress : AddressText text.toList address) :
    Subnet.read text = .ok ⟨address, BitVec.allOnes 32⟩ :=
  readSubnet_eq_ok_iff.2 (.inl ⟨haddress, rfl⟩)

theorem maskOfBits_all : Subnet.maskOfBits 32 = BitVec.allOnes 32 := by decide

namespace Rule

def HasSubnetToken (r : Rule) (token : String) : Prop :=
  ∃ line, read line = .ok r ∧ tokenOf? line .subnet = some token

theorem Layout.tokensOf_eq {line : String} (l : Layout line) :
    tokensOf line.toList = l.action :: l.eports :: l.subnet :: l.iports :: tokensOf l.rest := by
  rw [l.cut_action.tokensOf_eq, l.cut_eports.tokensOf_eq, l.cut_subnet.tokensOf_eq,
    l.cut_iports.tokensOf_eq]

theorem HasSubnetToken.read_eq {r : Rule} {token : String} (h : r.HasSubnetToken token) :
    Subnet.read token = .ok r.subnet := by
  obtain ⟨line, hread, htoken⟩ := h
  obtain ⟨l, hl⟩ := read_eq_ok_iff_denotes.1 hread
  rw [tokenOf?, l.tokensOf_eq] at htoken
  obtain rfl : String.ofList l.subnet = token := Option.some.inj htoken
  exact readSubnet_eq_ok_iff.2 (by rw [String.toList_ofList]; exact hl.subnet)

theorem HasSubnetToken.subnet_eq {r : Rule} {token : String} {s : Subnet}
    (h : r.HasSubnetToken token) (hread : Subnet.read token = .ok s) : r.subnet = s := by
  rw [h.read_eq] at hread
  exact Except.ok.inj hread

theorem matchesInternal_of_mem {r : Rule} {c : Endpoint} (h : c.port ∈ r.iports) :
    r.matchesInternal c = r.subnet.contains c.address := by
  rw [matchesInternal, decide_eq_true h, Bool.true_and]

variable {r r' : Rule} {text text' digits dotted : String} {a a' mask : Address} {c c' : Endpoint}

theorem HasSubnetToken.matches_bits_iff {bits : Nat}
    (hr : r.HasSubnetToken (text ++ "/" ++ digits)) (ha : AddressText text.toList a)
    (hbits : bits ≤ 32) (hdigits : NumeralText digits.toList bits) (hc : c.port ∈ r.iports) :
    r.matchesInternal c = true ↔ ∀ i < bits, c.address.getMsbD i = a.getMsbD i := by
  have hsubnet := hr.subnet_eq (readSubnet_masked ha (.inl ⟨bits, hbits, hdigits, rfl⟩))
  rw [matchesInternal_of_mem hc, hsubnet]
  exact Subnet.contains_maskOfBits_iff hbits

theorem HasSubnetToken.matches_plain_iff (hr : r.HasSubnetToken text)
    (ha : AddressText text.toList a) (hc : c.port ∈ r.iports) :
    r.matchesInternal c = true ↔ c.address = a := by
  rw [matchesInternal_of_mem hc, hr.subnet_eq (readSubnet_plain ha), ← maskOfBits_all,
    Subnet.contains_maskOfBits_iff (Nat.le_refl 32)]
  exact forall_getMsbD_iff

theorem HasSubnetToken.matches_dotted_congr (hr : r.HasSubnetToken (text ++ "/" ++ dotted))
    (hr' : r'.HasSubnetToken (text' ++ "/" ++ dotted)) (ha : AddressText text.toList a)
    (ha' : AddressText text'.toList a') (hmask : AddressText dotted.toList mask)
    (hc : c.port ∈ r.iports) (hc' : c'.port ∈ r'.iports)
    (hsame : ∀ i < 32, mask.getMsbD i = true →
      a.getMsbD i = a'.getMsbD i ∧ c.address.getMsbD i = c'.address.getMsbD i) :
    r.matchesInternal c = r'.matchesInternal c' := by
  rw [matchesInternal_of_mem hc, matchesInternal_of_mem hc',
    hr.subnet_eq (readSubnet_masked ha (.inr hmask)),
    hr'.subnet_eq (readSubnet_masked ha' (.inr hmask))]
  exact Subnet.contains_congr hsame

end Rule

/-- A rule with an address and a number of bits for its subnet takes the addresses that agree with it in
that many bits from the top, which are those of the aligned interval around it: all of them for no
bits, and that address alone for 32 bits or without a mask. The dotted form of the mask reads the
same. With any dotted mask nothing but the bits that it selects counts, in the rule and in the
address that is asked about. -/
theorem subnet_token_denotes_block {text : String} {a : Address} (ha : AddressText text.toList a) :
    (∀ bits ≤ 32, ∀ digits : String, NumeralText digits.toList bits →
      (∃ s, Subnet.read (text ++ "/" ++ digits) = .ok s ∧
        ∀ (dotted : String) (mask : Address), AddressText dotted.toList mask →
          (∀ i < 32, mask.getMsbD i = decide (i < bits)) →
          Subnet.read (text ++ "/" ++ dotted) = .ok s) ∧
      ∀ r : Rule, r.HasSubnetToken (text ++ "/" ++ digits) →
        ∀ c : Endpoint, c.port ∈ r.iports →
          (r.matchesInternal c = true ↔ ∀ i < bits, c.address.getMsbD i = a.getMsbD i) ∧
          (r.matchesInternal c = true ↔ ShareInterval (2 ^ (32 - bits)) c.address a) ∧
          (bits = 0 → r.matchesInternal c = true) ∧
          (bits = 32 → (r.matchesInternal c = true ↔ c.address = a))) ∧
    ((∃ s, Subnet.read text = .ok s ∧ ∀ digits : String, NumeralText digits.toList 32 →
        Subnet.read (text ++ "/" ++ digits) = .ok s) ∧
      ∀ r : Rule, r.HasSubnetToken text → ∀ c : Endpoint, c.port ∈ r.iports →
        (r.matchesInternal c = true ↔ c.address = a)) ∧
    ∀ (dotted : String) (mask : Address), AddressText dotted.toList mask →
      ∀ (text' : String) (a' : Address), AddressText text'.toList a' →
      ∀ r r' : Rule, r.HasSubnetToken (text ++ "/" ++ dotted) →
        r'.HasSubnetToken (text' ++ "/" ++ dotted) →
      ∀ c c' : Endpoint, c.port ∈ r.iports → c'.port ∈ r'.iports →
        (∀ i < 32, mask.getMsbD i = true →
          a.getMsbD i = a'.getMsbD i ∧ c.address.getMsbD i = c'.address.getMsbD i) →
        r.matchesInternal c = r'.matchesInternal c' := by
  refine ⟨?_, ⟨⟨_, readSubnet_plain ha, ?_⟩, ?_⟩, ?_⟩
  · intro bits hbits digits hdigits
    refine ⟨⟨_, readSubnet_masked ha (.inl ⟨bits, hbits, hdigits, rfl⟩), ?_⟩, ?_⟩
    · intro dotted mask hdotted hmask
      rw [← eq_maskOfBits hbits hmask]
      exact readSubnet_masked ha (.inr hdotted)
    · intro r hr c hc
      have hmatch := hr.matches_bits_iff ha hbits hdigits hc
      refine ⟨hmatch, ?_, ?_, ?_⟩
      · rw [hmatch, shareInterval_iff_getMsbD hbits]
      · rintro rfl
        exact hmatch.2 fun i hi => absurd hi (Nat.not_lt_zero i)
      · rintro rfl
        rw [hmatch, forall_getMsbD_iff]
  · intro digits hdigits
    rw [← maskOfBits_all]
    exact readSubnet_masked ha (.inl ⟨32, Nat.le_refl 32, hdigits, rfl⟩)
  · intro r hr c hc
    exact hr.matches_plain_iff ha hc
  · intro dotted mask hmask text' a' ha' r r' hr hr' c c' hc hc' hsame
    exact hr.matches_dotted_congr hr' ha ha' hmask hc hc' hsame

theorem subnet_token_denotes_block_twenty_bits :
    AddressText "192.168.77.1".toList 0xC0A84D01 ∧ NumeralText "0020".toList 20 ∧
      ∃ r, Rule.read "deny 80 192.168.77.1/0020 1-9" = .ok r ∧
        ∀ c : Endpoint, c.port ∈ r.iports →
          (r.matchesInternal c = true ↔ ShareInterval 4096 c.address 0xC0A84D01) := by
  have ha : AddressText "192.168.77.1".toList 0xC0A84D01 :=
    readAddress?_eq_some_iff.1 (by decide +kernel)
  have hdigits : NumeralText "0020".toList 20 := readNumeral?_eq_some_iff.1 (by decide +kernel)
  obtain ⟨r, hr⟩ : Rule.Readable "deny 80 192.168.77.1/0020 1-9" := by decide +kernel
  have htoken : r.HasSubnetToken ("192.168.77.1" ++ "/" ++ "0020") := ⟨_, hr, by decide +kernel⟩
  obtain ⟨hbits, -⟩ := subnet_token_denotes_block ha
  refine ⟨ha, hdigits, r, hr, fun c hc => ?_⟩
  exact ((hbits 20 (by decide) "0020" hdigits).2 r htoken c hc).2.1

end PortGate
