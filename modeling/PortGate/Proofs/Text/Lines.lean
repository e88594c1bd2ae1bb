import PortGate.Proofs.Text.Encoding

/-! The lines of a text, taken from the front. A text that ends with a line feed can be put in front of
any other without a line of one of them being changed. A line feed is never part of a longer
character, so a text is well encoded exactly when each of its lines is. -/

namespace PortGate.Text
variable {line rest bytes first second : List UInt8}

theorem cutLines_of_not_mem (hne : line ≠ []) (h : 10 ∉ line) : cutLines line = [(line, false)] := by
  induction line with
  | nil => exact absurd rfl hne
  | cons b line ih =>
    have hb : b ≠ 10 := fun e => h (e ▸ List.mem_cons_self)
    have hline : 10 ∉ line := fun hm => h (.tail b hm)
    rw [cutLines, if_neg hb]
    cases line with
    | nil => rfl
    | cons c line => rw [ih (List.cons_ne_nil c line) hline]

theorem cutLines_append_newline (h : 10 ∉ line) (rest : List UInt8) :
    cutLines (line ++ 10 :: rest) = (line, true) :: cutLines rest := by
  induction line with
  | nil => rfl
  | cons b line ih =>
    have hb : b ≠ 10 := fun e => h (e ▸ List.mem_cons_self)
    have hline : 10 ∉ line := fun hm => h (.tail b hm)
    rw [List.cons_append, cutLines, if_neg hb, ih hline]

theorem lines_of_not_mem (h : 10 ∉ line) : lines line = if line = [] then [] else [line] := by
  by_cases hne : line = []
  · rw [if_pos hne, hne]
    rfl
  · rw [if_neg hne, lines, cutLines_of_not_mem hne h]
    rfl

theorem lines_append_newline (h : 10 ∉ line) (rest : List UInt8) :
    lines (line ++ 10 :: rest) = dropReturn line :: lines rest := by
  rw [lines, cutLines_append_newline h]
  rfl

/-- A text is a line without a line feed, or such a line with its line feed in front of a text. -/
@[elab_as_elim]
theorem lines_induction {motive : List UInt8 → Prop} (last : ∀ line, 10 ∉ line → motive line)
    (ended : ∀ line rest, 10 ∉ line → motive rest → motive (line ++ 10 :: rest))
    (bytes : List UInt8) : motive bytes := by
  by_cases h : 10 ∈ bytes
  · obtain ⟨line, rest, heq, hline⟩ := List.eq_append_cons_of_mem h
    have hshorter : rest.length < bytes.length := by
      rw [heq, List.length_append, List.length_cons]
      omega
    exact heq ▸ ended line rest hline (lines_induction last ended rest)
  · exact last bytes h
termination_by bytes.length

theorem newline_not_mem_of_mem_lines (h : line ∈ lines bytes) : 10 ∉ line := by
  induction bytes using lines_induction with
  | last whole hwhole =>
    rw [lines_of_not_mem hwhole] at h
    split at h
    · exact absurd h List.not_mem_nil
    · rwa [List.mem_singleton.1 h]
  | ended first rest hfirst ih =>
    rw [lines_append_newline hfirst] at h
    rcases List.mem_cons.1 h with rfl | h
    · rw [dropReturn]
      split
      · exact fun hmem => hfirst (List.dropLast_subset first hmem)
      · exact hfirst
    · exact ih h

theorem getLast?_of_append_newline (h : (line ++ 10 :: rest).getLast? = some 10) :
    rest = [] ∨ rest.getLast? = some 10 := by
  cases rest with
  | nil => exact .inl rfl
  | cons b rest => exact .inr (by simpa [List.getLast?_append] using h)

theorem eq_nil_of_ends_of_not_mem (hend : line = [] ∨ line.getLast? = some 10) (h : 10 ∉ line) :
    line = [] := by
  rcases hend with hnil | hlast
  · exact hnil
  · exact absurd (List.mem_of_getLast? hlast) h

theorem lines_append (hend : first = [] ∨ first.getLast? = some 10) (second : List UInt8) :
    lines (first ++ second) = lines first ++ lines second := by
  induction first using lines_induction with
  | last line hline =>
    rw [eq_nil_of_ends_of_not_mem hend hline]
    rfl
  | ended line rest hline ih =>
    have hrest := getLast?_of_append_newline (hend.resolve_left (by simp))
    rw [List.append_assoc, List.cons_append, lines_append_newline hline, lines_append_newline hline,
      ih hrest, List.cons_append]

theorem length_lines (hend : bytes = [] ∨ bytes.getLast? = some 10) :
    (lines bytes).length = bytes.count 10 := by
  induction bytes using lines_induction with
  | last line hline =>
    rw [eq_nil_of_ends_of_not_mem hend hline]
    rfl
  | ended line rest hline ih =>
    have hrest := getLast?_of_append_newline (hend.resolve_left (by simp))
    rw [lines_append_newline hline, List.length_cons, ih hrest, List.count_append,
      List.count_eq_zero.2 hline, List.count_cons_self, Nat.zero_add]

theorem utf8EncodeChar_of_mem {c : Char} {b : UInt8} (hb : b.toNat < 128)
    (h : b ∈ String.utf8EncodeChar c) : String.utf8EncodeChar c = [b] := by
  rcases mem_utf8EncodeChar h with ⟨hc, -⟩ | ⟨-, hlong⟩
  · have hval : c.val.toNat ≤ 127 := Nat.le_of_lt_succ hc
    have hone : String.utf8EncodeChar c = [UInt8.ofNat c.val.toNat] := by
      rw [String.utf8EncodeChar, if_pos hval]
    rw [hone] at h ⊢
    rw [List.mem_singleton.1 h]
  · omega

theorem exists_utf8EncodeChar_eq {b : UInt8} (hb : b.toNat < 128) :
    ∃ c, String.utf8EncodeChar c = [b] := by
  have hall : ∀ n < 128, String.utf8EncodeChar (Char.ofNat n) = [UInt8.ofNat n] := by
    decide +kernel
  exact ⟨Char.ofNat b.toNat, by rw [hall b.toNat hb, UInt8.ofNat_toNat]⟩

theorem isSome_decode?_iff :
    (decode? bytes).isSome = true ↔ ∃ chars, encode (String.ofList chars) = bytes := by
  rw [Option.isSome_iff_exists]
  constructor
  · rintro ⟨text, h⟩
    exact ⟨text.toList, by rw [String.ofList_toList, decode?_eq_some_iff.1 h]⟩
  · rintro ⟨chars, h⟩
    exact ⟨String.ofList chars, decode?_eq_some_iff.2 h⟩

theorem exists_encode_of_append_ascii {b : UInt8} (hb : b.toNat < 128) {chars : List Char}
    (h : encode (String.ofList chars) = first ++ b :: second) :
    (∃ l, encode (String.ofList l) = first) ∧ ∃ r, encode (String.ofList r) = second := by
  simp only [encode_ofList] at h ⊢
  induction chars generalizing first with
  | nil => simp at h
  | cons c chars ih =>
    rw [List.flatMap_cons] at h
    rcases List.append_eq_append_iff.1 h with ⟨more, rfl, hmore⟩ | ⟨part, hc, hpart⟩
    · -- the byte lies behind the first character
      obtain ⟨⟨l, hl⟩, hr⟩ := ih hmore
      exact ⟨⟨c :: l, by rw [List.flatMap_cons, hl]⟩, hr⟩
    · cases part with
      | nil =>
        have hrest : chars.flatMap String.utf8EncodeChar = [] ++ b :: second := hpart.symm
        obtain ⟨-, hr⟩ := ih hrest
        exact ⟨⟨[c], by simpa using hc⟩, hr⟩
      | cons b' part =>
        -- the byte is of the first character, which then is the byte alone
        obtain ⟨rfl, hrest⟩ := List.cons.inj hpart
        have hmem : b ∈ String.utf8EncodeChar c := by simp [hc]
        rw [utf8EncodeChar_of_mem hb hmem] at hc
        have hfirst : first = [] := by
          cases first with
          | nil => rfl
          | cons d first => simp at hc
        have hnone : part = [] := by simpa [hfirst] using hc
        exact ⟨⟨[], by rw [hfirst]; rfl⟩, ⟨chars, by simpa [hnone] using hrest.symm⟩⟩

theorem newline_not_mem_encode {text : String} (h : '\n' ∉ text.toList) : 10 ∉ encode text := by
  rw [← String.ofList_toList (s := text), encode_ofList]
  intro hmem
  obtain ⟨c, hc, hb⟩ := List.mem_flatMap.1 hmem
  have hcode : c.toNat = 10 := by
    rcases mem_utf8EncodeChar hb with ⟨-, heq⟩ | ⟨-, hlong⟩
    · exact heq.symm
    · exact absurd hlong (by decide)
  have hchar : c = '\n' := Char.toNat_inj.1 hcode
  exact h (hchar ▸ hc)

theorem newline_mem_encode {text : String} (h : '\n' ∈ text.toList) : 10 ∈ encode text := by
  have hcode : (10 : UInt8) ∈ String.utf8EncodeChar '\n' := by decide
  rw [← String.ofList_toList (s := text), encode_ofList]
  exact List.mem_flatMap.2 ⟨'\n', h, hcode⟩

theorem encode_inj {s t : String} (h : encode s = encode t) : s = t := by
  have hs := decode?_encode s
  rw [h, decode?_encode] at hs
  exact (Option.some.inj hs).symm

theorem isSome_decode?_append_ascii {b : UInt8} (hb : b.toNat < 128) (first second : List UInt8) :
    (decode? (first ++ b :: second)).isSome = true ↔
      (decode? first).isSome = true ∧ (decode? second).isSome = true := by
  simp only [isSome_decode?_iff]
  constructor
  · rintro ⟨chars, h⟩
    exact exists_encode_of_append_ascii hb h
  · rintro ⟨⟨l, hl⟩, ⟨r, hr⟩⟩
    obtain ⟨c, hc⟩ := exists_utf8EncodeChar_eq hb
    refine ⟨l ++ c :: r, ?_⟩
    rw [encode_ofList] at hl hr ⊢
    rw [List.flatMap_append, List.flatMap_cons, hc, hl, hr]
    rfl

@[simp] theorem isSome_decode?_nil : (decode? []).isSome = true :=
  isSome_decode?_iff.2 ⟨[], rfl⟩

@[simp] theorem isSome_decode?_dropReturn :
    (decode? (dropReturn line)).isSome = (decode? line).isSome := by
  rw [dropReturn]
  split
  · rename_i hlast
    obtain ⟨start, rfl⟩ := List.getLast?_eq_some_iff.1 hlast
    rw [List.dropLast_concat, Bool.eq_iff_iff, isSome_decode?_append_ascii (by decide)]
    simp
  · rfl

theorem dropReturn_concat (line : List UInt8) : dropReturn (line ++ [13]) = line := by
  rw [dropReturn, if_pos (by simp), List.dropLast_concat]

theorem encode_return (chars : List Char) :
    encode (String.ofList (chars ++ ['\r'])) = encode (String.ofList chars) ++ [13] := by
  rw [String.ofList_append, encode_append]
  rfl

theorem dropReturn_encode {text : String} (h : text.toList.getLast? ≠ some '\r') :
    dropReturn (encode text) = encode text := by
  rw [dropReturn, if_neg]
  intro hlast
  obtain ⟨start, hstart⟩ := List.getLast?_eq_some_iff.1 hlast
  have htext : encode (String.ofList text.toList) = start ++ 13 :: [] := by
    rw [String.ofList_toList, hstart]
  obtain ⟨⟨chars, rfl⟩, -⟩ := exists_encode_of_append_ascii (by decide) htext
  rw [← encode_return] at hstart
  rw [encode_inj hstart, String.toList_ofList] at h
  exact h (by simp)

theorem isSome_decode?_iff_lines :
    (decode? bytes).isSome = true ↔ ∀ line ∈ lines bytes, (decode? line).isSome = true := by
  induction bytes using lines_induction with
  | last line hline =>
    rw [lines_of_not_mem hline]
    by_cases hne : line = []
    · simp [hne]
    · simp [hne]
  | ended line rest hline ih =>
    rw [lines_append_newline hline, isSome_decode?_append_ascii (by decide), ih]
    simp

end PortGate.Text
