import PortGate.Proofs.Success
import PortGate.Proofs.Text.Encoding
import PortGate.Proofs.Text.Token
import PortGate.Rule.Reader

/-! The cursor as a place between characters. It counts bytes, but every step takes it from a place
between two characters to another one, so each step is described by the characters before it and
those after it. -/

namespace PortGate.Cursor
open Text

/-- The cursor behind `before` and in front of `after` on the line that they make up. -/
def between (before after : List Char) : Cursor :=
  ⟨String.ofList (before ++ after), (String.ofList before).utf8ByteSize⟩

theorem start_eq_between (line : String) : start line = between [] line.toList := by
  simp [start, between]

theorem utf8ByteSize_ofList_append (l m : List Char) :
    (String.ofList (l ++ m)).utf8ByteSize =
      (String.ofList l).utf8ByteSize + (String.ofList m).utf8ByteSize := by
  rw [String.ofList_append, String.utf8ByteSize_append]

theorem encode_ofList_append (l m : List Char) :
    encode (String.ofList (l ++ m)) = encode (String.ofList l) ++ encode (String.ofList m) := by
  rw [String.ofList_append, encode_append]

variable (before after : List Char)

theorem remaining_between : (between before after).remaining = encode (String.ofList after) := by
  rw [remaining, between, encode_ofList_append]
  exact List.drop_left

theorem decode?_between (part : List Char) :
    decode? (((encode (String.ofList (before ++ (part ++ after)))).drop
      (String.ofList before).utf8ByteSize).take (String.ofList part).utf8ByteSize) =
    some (String.ofList part) := by
  have hdrop : (encode (String.ofList (before ++ (part ++ after)))).drop
      (String.ofList before).utf8ByteSize =
        encode (String.ofList part) ++ encode (String.ofList after) := by
    rw [encode_ofList_append, encode_ofList_append]
    exact List.drop_left
  have htake : (encode (String.ofList part) ++ encode (String.ofList after)).take
      (String.ofList part).utf8ByteSize = encode (String.ofList part) := List.take_left
  rw [hdrop, htake, decode?_encode]

theorem slice_between (part : List Char) :
    slice (String.ofList (before ++ (part ++ after))) (String.ofList before).utf8ByteSize
      ((String.ofList before).utf8ByteSize + (String.ofList part).utf8ByteSize) =
    String.ofList part := by
  rw [slice, Nat.add_sub_cancel_left, decode?_between, Option.getD_some]

theorem takeWhile_between {kind : UInt8 → Bool} {p : Char → Bool} (h : Follows kind p) :
    (between before after).takeWhile kind =
      (String.ofList (after.takeWhile p),
        between (before ++ after.takeWhile p) (after.dropWhile p)) := by
  have hsplit : after.takeWhile p ++ after.dropWhile p = after := List.takeWhile_append_dropWhile
  have hlength : ((between before after).remaining.takeWhile kind).length =
      (String.ofList (after.takeWhile p)).utf8ByteSize := by
    rw [remaining_between, takeWhile_encode h, length_encode]
  have hslice := slice_between before (after.dropWhile p) (after.takeWhile p)
  rw [hsplit] at hslice
  simp only [Cursor.takeWhile, hlength]
  refine Prod.ext hslice ?_
  simp only [between, utf8ByteSize_ofList_append, List.append_assoc, hsplit]

theorem rest_between : (between before after).rest = String.ofList after := by
  have hslice := slice_between before [] after
  rwa [List.append_nil, ← utf8ByteSize_ofList_append] at hslice

theorem skipSeparators_between :
    (between before after).skipSeparators =
      between (before ++ after.takeWhile isSeparator) (after.dropWhile isSeparator) := by
  rw [skipSeparators, takeWhile_between before after isSeparatorByte_follows]

theorem token_between (field : Field) :
    (between before after).token field =
      if firstToken after = [] then .error (.missing field)
      else .ok (String.ofList (firstToken after),
        between (before ++ after.takeWhile isSeparator ++ firstToken after) (afterToken after)) := by
  rw [token, skipSeparators_between, takeWhile_between _ _ isSeparatorByte_follows.not]
  by_cases h : firstToken after = []
  · have hempty : (String.ofList (firstToken after)).isEmpty = true := by simp [h]
    rw [if_pos h]
    exact if_pos hempty
  · have hempty : ¬ (String.ofList (firstToken after)).isEmpty = true := by simp [h]
    rw [if_neg h]
    exact if_neg hempty

variable {before after}

theorem token_between_eq_ok_iff {field : Field} {text : String} {c : Cursor} :
    (between before after).token field = .ok (text, c) ↔
      ∃ gap token rest, Cut after gap token rest ∧ text = String.ofList token ∧
        c = between (before ++ gap ++ token) rest := by
  rw [token_between]
  constructor
  · intro h
    split at h
    · cases h
    · rename_i hne
      cases h
      exact ⟨_, _, _, cut_firstToken hne, rfl, rfl⟩
  · rintro ⟨gap, token, rest, hcut, rfl, rfl⟩
    have hne := hcut.firstToken_ne_nil
    obtain ⟨rfl, rfl, rfl⟩ := hcut.eq_firstToken
    rw [if_neg hne]

end PortGate.Cursor
