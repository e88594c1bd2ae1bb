import PortGate.Text.Blank
import PortGate.Text.Bytes

/-! Characters and their bytes. A kind of bytes follows a kind of characters when each byte of a
character is of the kind that the character is. Separators are such a kind, because a character
beyond ASCII has no ASCII byte, and scanning bytes by such a kind is scanning characters. -/

namespace PortGate.Text

/-- A byte of an ASCII character is its code, and a byte of another character is no ASCII code. -/
theorem mem_utf8EncodeChar {c : Char} {b : UInt8} (h : b ∈ String.utf8EncodeChar c) :
    (c.toNat < 128 ∧ b.toNat = c.toNat) ∨ (128 ≤ c.toNat ∧ 128 ≤ b.toNat) := by
  have hc : c.toNat = c.val.toNat := rfl
  unfold String.utf8EncodeChar at h
  dsimp only at h
  split at h
  · simp only [List.mem_singleton] at h
    subst h
    rw [UInt8.toNat_ofNat']
    omega
  · -- a byte of a longer character is its six bits or so on top of a marker from 128 up
    have hb : 128 ≤ b.toNat := by
      split at h
      · simp only [List.mem_cons, List.not_mem_nil, or_false] at h
        rcases h with rfl | rfl <;> rw [UInt8.toNat_ofNat'] <;> omega
      · split at h
        · simp only [List.mem_cons, List.not_mem_nil, or_false] at h
          rcases h with rfl | rfl | rfl <;> rw [UInt8.toNat_ofNat'] <;> omega
        · simp only [List.mem_cons, List.not_mem_nil, or_false] at h
          rcases h with rfl | rfl | rfl | rfl <;> rw [UInt8.toNat_ofNat'] <;> omega
    omega

theorem isSeparatorByte_iff (b : UInt8) :
    isSeparatorByte b = true ↔
      b.toNat = 9 ∨ b.toNat = 10 ∨ b.toNat = 12 ∨ b.toNat = 13 ∨ b.toNat = 32 := by
  simp only [isSeparatorByte, Bool.or_eq_true, beq_iff_eq, ← UInt8.toNat_inj, or_assoc]
  rfl

theorem isSeparator_iff (c : Char) :
    isSeparator c = true ↔
      c.toNat = 9 ∨ c.toNat = 10 ∨ c.toNat = 12 ∨ c.toNat = 13 ∨ c.toNat = 32 := by
  simp only [isSeparator, Bool.or_eq_true, beq_iff_eq, ← Char.toNat_inj, or_assoc]
  rfl

/-- Every byte of a character is of the kind exactly when the character is. -/
def Follows (kind : UInt8 → Bool) (p : Char → Bool) : Prop :=
  ∀ c, ∀ b ∈ String.utf8EncodeChar c, kind b = p c

theorem isSeparatorByte_follows : Follows isSeparatorByte isSeparator := by
  intro c b hb
  rw [Bool.eq_iff_iff, isSeparatorByte_iff, isSeparator_iff]
  rcases mem_utf8EncodeChar hb with ⟨hc, h⟩ | ⟨hc, h⟩ <;> omega

theorem Follows.not {kind : UInt8 → Bool} {p : Char → Bool} (h : Follows kind p) :
    Follows (fun b => !kind b) (fun c => !p c) := by
  intro c b hb
  simp only [h c b hb]

theorem encode_append (s t : String) : encode (s ++ t) = encode s ++ encode t := by
  simp [encode]

@[simp] theorem length_encode (text : String) : (encode text).length = text.utf8ByteSize := rfl

theorem takeWhile_encode {kind : UInt8 → Bool} {p : Char → Bool} (h : Follows kind p)
    (chars : List Char) :
    (encode (String.ofList chars)).takeWhile kind = encode (String.ofList (chars.takeWhile p)) := by
  simp only [encode_ofList]
  induction chars with
  | nil => rfl
  | cons c chars ih =>
    by_cases hc : p c = true
    · have hall : ∀ b ∈ String.utf8EncodeChar c, kind b = true := fun b hb => (h c b hb).trans hc
      rw [List.flatMap_cons, List.takeWhile_append_of_pos hall, ih, List.takeWhile_cons_of_pos hc,
        List.flatMap_cons]
    · -- the first byte of the character stops the scan
      obtain ⟨b, bytes, hb⟩ := List.exists_cons_of_ne_nil (String.utf8EncodeChar_ne_nil (c := c))
      have hfirst : ¬ kind b = true := by
        rw [h c b (hb ▸ List.mem_cons_self)]
        exact hc
      rw [List.flatMap_cons, hb, List.cons_append, List.takeWhile_cons_of_neg hfirst,
        List.takeWhile_cons_of_neg hc, List.flatMap_nil]

end PortGate.Text
