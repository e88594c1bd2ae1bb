import PortGate.Net.Port

/-! Sets of ports, one bit for each of the 65536 ports in words of 32. `PortSet.get` is the view
that every operation is described by: setting and clearing touch one port, a block touches the 32
ports of a word, and two sets are equal exactly when they hold the same ports. -/

namespace PortGate

/-- Bit `p % 32` of word `p / 32` tells whether port `p` is allowed. -/
structure PortSet where
  words : Vector UInt32 2048
  deriving DecidableEq

namespace PortSet

def all : PortSet := ⟨.replicate 2048 0xFFFFFFFF⟩

def empty : PortSet := ⟨.replicate 2048 0⟩

def wordIndex (p : Port) : Fin 2048 := ⟨p.toNat / 32, by have := p.toNat_lt; omega⟩

def bit (p : Port) : UInt32 := 1 <<< UInt32.ofNat (p.toNat % 32)

def word (s : PortSet) (p : Port) : UInt32 := s.words[(wordIndex p).val]

def get (s : PortSet) (p : Port) : Bool :=
  (s.word p).toBitVec.getLsbD (p.toNat % 32)

instance : Membership Port PortSet where
  mem s p := s.get p = true

theorem mem_iff {s : PortSet} {p : Port} : p ∈ s ↔ s.get p = true := Iff.rfl

def setWord (s : PortSet) (p : Port) (word : UInt32) : PortSet :=
  ⟨s.words.set (wordIndex p).val word (wordIndex p).isLt⟩

def allow (s : PortSet) (p : Port) : PortSet :=
  s.setWord p (s.word p ||| bit p)

def deny (s : PortSet) (p : Port) : PortSet :=
  s.setWord p (s.word p &&& ~~~bit p)

/-- Allows the 32 ports from `base`, a multiple of 32. -/
def allowBlock (s : PortSet) (base : Port) : PortSet :=
  s.setWord base 0xFFFFFFFF

def denyBlock (s : PortSet) (base : Port) : PortSet :=
  s.setWord base 0

def allPorts : List Port := (List.range 65536).map UInt16.ofNat

def toList (s : PortSet) : List Port := allPorts.filter s.get

def popCount (word : UInt32) : Nat :=
  (List.range 32).countP word.toNat.testBit

/-- How many ports the set holds, counted word by word. -/
def size (s : PortSet) : Nat := s.words.toList.foldr (fun word n => popCount word + n) 0

def describe (s : PortSet) : String :=
  "AllowBitMap \x7b allowed: " ++ Text.Decimal.render s.size ++ " \x7d"

theorem mod_lt_wordSize (p : Port) : p.toNat % 32 < 32 := Nat.mod_lt _ (by decide)

theorem eq_iff_wordIndex_eq (p q : Port) :
    p = q ↔ wordIndex p = wordIndex q ∧ p.toNat % 32 = q.toNat % 32 := by
  constructor
  · rintro rfl
    exact ⟨rfl, rfl⟩
  · rintro ⟨h, hm⟩
    have hd : p.toNat / 32 = q.toNat / 32 := congrArg Fin.val h
    exact UInt16.toNat_inj.1 (by omega)

theorem wordIndex_eq_iff {base : Port} (haligned : base.toNat % 32 = 0) (p : Port) :
    wordIndex base = wordIndex p ↔ base.toNat ≤ p.toNat ∧ p.toNat < base.toNat + 32 := by
  simp only [wordIndex, Fin.mk.injEq]
  omega

theorem getLsbD_bit (p : Port) (i : Nat) :
    (bit p).toBitVec.getLsbD i = decide (p.toNat % 32 = i) := by
  have hm : (UInt32.ofNat (p.toNat % 32)).toNat = p.toNat % 32 :=
    UInt32.toNat_ofNat_of_lt' (show p.toNat % 32 < 4294967296 by omega)
  have hlt : 2 ^ (p.toNat % 32) < 2 ^ 32 := Nat.pow_lt_pow_right (by decide) (mod_lt_wordSize p)
  have hbit : (bit p).toNat = 2 ^ (p.toNat % 32) := by
    rw [bit, UInt32.toNat_shiftLeft, hm]
    simp only [UInt32.toNat_one, Nat.shiftLeft_eq, Nat.one_mul, Nat.mod_mod]
    exact Nat.mod_eq_of_lt hlt
  rw [BitVec.getLsbD, UInt32.toNat_toBitVec, hbit, Nat.testBit_two_pow]

theorem get_setWord (s : PortSet) (p q : Port) (word : UInt32) :
    (s.setWord p word).get q =
      if wordIndex p = wordIndex q then word.toBitVec.getLsbD (q.toNat % 32) else s.get q := by
  simp only [get, PortSet.word, setWord, Vector.getElem_set, Fin.ext_iff]
  split <;> rfl

theorem get_allow (s : PortSet) (p q : Port) :
    (s.allow p).get q = (decide (p = q) || s.get q) := by
  rw [allow, get_setWord, UInt32.toBitVec_or, BitVec.getLsbD_or, getLsbD_bit]
  by_cases h : wordIndex p = wordIndex q
  · simp only [h, if_true, eq_iff_wordIndex_eq, true_and, Bool.or_comm, get, word]
  · simp [h, eq_iff_wordIndex_eq]

theorem get_deny (s : PortSet) (p q : Port) :
    (s.deny p).get q = (!decide (p = q) && s.get q) := by
  rw [deny, get_setWord, UInt32.toBitVec_and, UInt32.toBitVec_not, BitVec.getLsbD_and,
    BitVec.getLsbD_not, getLsbD_bit]
  by_cases h : wordIndex p = wordIndex q
  · simp [h, eq_iff_wordIndex_eq, mod_lt_wordSize, Bool.and_comm, get, word]
  · simp [h, eq_iff_wordIndex_eq]

theorem get_allowBlock (s : PortSet) (base q : Port) :
    (s.allowBlock base).get q = (decide (wordIndex base = wordIndex q) || s.get q) := by
  have ones : (0xFFFFFFFF : UInt32).toBitVec = BitVec.allOnes 32 := rfl
  rw [allowBlock, get_setWord, ones, BitVec.getLsbD_allOnes]
  by_cases h : wordIndex base = wordIndex q <;> simp [h, mod_lt_wordSize]

theorem get_denyBlock (s : PortSet) (base q : Port) :
    (s.denyBlock base).get q = (!decide (wordIndex base = wordIndex q) && s.get q) := by
  have zeros : (0 : UInt32).toBitVec = 0#32 := rfl
  rw [denyBlock, get_setWord, zeros, BitVec.getLsbD_zero]
  by_cases h : wordIndex base = wordIndex q <;> simp [h]

@[simp] theorem get_all (p : Port) : all.get p = true := by
  have ones : (0xFFFFFFFF : UInt32).toBitVec = BitVec.allOnes 32 := rfl
  rw [get, word, all, Vector.getElem_replicate, ones, BitVec.getLsbD_allOnes]
  exact decide_eq_true (mod_lt_wordSize p)

@[simp] theorem get_empty (p : Port) : empty.get p = false := by
  have zeros : (0 : UInt32).toBitVec = 0#32 := rfl
  rw [get, word, empty, Vector.getElem_replicate, zeros, BitVec.getLsbD_zero]

theorem get_ofNat (s : PortSet) {i j : Nat} (hi : i < 2048) (hj : j < 32) :
    s.get (UInt16.ofNat (32 * i + j)) = s.words[i].toBitVec.getLsbD j := by
  have hp : (UInt16.ofNat (32 * i + j)).toNat = 32 * i + j :=
    UInt16.toNat_ofNat_of_lt' (show 32 * i + j < 65536 by omega)
  have hword : (wordIndex (UInt16.ofNat (32 * i + j))).val = i := by
    change (UInt16.ofNat (32 * i + j)).toNat / 32 = i
    omega
  have hbit : (32 * i + j) % 32 = j := by omega
  simp only [get, word, hword, hp, hbit]

theorem eq_of_get_eq {s t : PortSet} (h : ∀ p, s.get p = t.get p) : s = t := by
  obtain ⟨v⟩ := s
  obtain ⟨w⟩ := t
  congr
  apply Vector.ext
  intro i hi
  apply UInt32.toBitVec_inj.1
  apply BitVec.eq_of_getLsbD_eq
  intro j hj
  have hbit := h (UInt16.ofNat (32 * i + j))
  rwa [get_ofNat ⟨v⟩ hi hj, get_ofNat ⟨w⟩ hi hj] at hbit

theorem mem_toList {s : PortSet} {p : Port} : p ∈ s.toList ↔ p ∈ s := by
  simp only [toList, List.mem_filter, mem_iff, and_iff_right_iff_imp]
  intro _
  exact List.mem_map.2 ⟨p.toNat, List.mem_range.2 p.toNat_lt, by simp⟩

end PortSet

end PortGate
