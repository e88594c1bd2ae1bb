import PortGate.Proofs.Text.Encoding
import PortGate.Proofs.Text.Tokens

/-! The tokens of a text told from its bytes. A separator is one byte, and no byte of another character is
a separator, so cutting the bytes at separator bytes gives the bytes of the tokens. -/

namespace PortGate.Text

def byteTokensOf (bytes : List UInt8) : List (List UInt8) :=
  (bytes.splitOnP isSeparatorByte).filter (· ≠ [])

theorem splitOnP_append_of_forall {α : Type} {p : α → Bool} {front : List α}
    (h : ∀ x ∈ front, p x = false) (rest : List α) :
    (front ++ rest).splitOnP p = (rest.splitOnP p).modifyHead (front ++ ·) := by
  induction front with
  | nil => exact (congrFun List.modifyHead_id _).symm
  | cons x front ih =>
    obtain ⟨hx, hfront⟩ := List.forall_mem_cons.1 h
    obtain ⟨part, parts, hsplit⟩ := List.exists_cons_of_ne_nil (List.splitOnP_ne_nil p rest)
    rw [List.cons_append, List.splitOnP_cons_eq_if_modifyHead, if_neg (by simp [hx]), ih hfront,
      hsplit]
    rfl

theorem utf8EncodeChar_of_isSeparator {c : Char} (h : isSeparator c = true) :
    ∃ b, String.utf8EncodeChar c = [b] ∧ isSeparatorByte b = true := by
  simp only [isSeparator, Bool.or_eq_true, beq_iff_eq] at h
  rcases h with (((rfl | rfl) | rfl) | rfl) | rfl <;> exact ⟨_, rfl, by decide⟩

theorem splitOnP_encode (chars : List Char) :
    (encode (String.ofList chars)).splitOnP isSeparatorByte =
      (chars.splitOnP isSeparator).map fun part => encode (String.ofList part) := by
  simp only [encode_ofList]
  induction chars with
  | nil => rfl
  | cons c chars ih =>
    rw [List.flatMap_cons]
    cases hc : isSeparator c with
    | true =>
      obtain ⟨b, hbyte, hb⟩ := utf8EncodeChar_of_isSeparator hc
      rw [hbyte, List.singleton_append, List.splitOnP_cons_eq_if_modifyHead, if_pos hb,
        List.splitOnP_cons_eq_if_modifyHead, if_pos hc, ih]
      rfl
    | false =>
      have hbytes : ∀ b ∈ String.utf8EncodeChar c, isSeparatorByte b = false := fun b hb =>
        (isSeparatorByte_follows c b hb).trans hc
      obtain ⟨part, parts, hsplit⟩ :=
        List.exists_cons_of_ne_nil (List.splitOnP_ne_nil isSeparator chars)
      rw [splitOnP_append_of_forall hbytes, ih, List.splitOnP_cons_eq_if_modifyHead,
        if_neg (by simp [hc]), hsplit]
      rfl

theorem encode_eq_nil_iff {chars : List Char} : encode (String.ofList chars) = [] ↔ chars = [] := by
  rw [encode_ofList, List.flatMap_eq_nil_iff]
  constructor
  · intro h
    exact List.eq_nil_iff_forall_not_mem.2 fun c hc => String.utf8EncodeChar_ne_nil (h c hc)
  · rintro rfl c hc
    cases hc

theorem byteTokensOf_encode (chars : List Char) :
    byteTokensOf (encode (String.ofList chars)) =
      (tokensOf chars).map fun token => encode (String.ofList token) := by
  rw [byteTokensOf, tokensOf, splitOnP_encode, List.filter_map]
  refine congrArg _ (List.filter_congr fun part _ => ?_)
  exact decide_eq_decide.2 (not_congr encode_eq_nil_iff)

end PortGate.Text
