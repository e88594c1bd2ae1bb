import PortGate.Proofs.Text.Token

/-! All tokens of a text: it is cut at every separator, and empty parts are dropped. Its first token and
what follows it are the head and the tail of that list, and a text that is replaced behind a token leaves
the tokens before it alone. -/

namespace PortGate.Text

def tokensOf (text : List Char) : List (List Char) :=
  (text.splitOnP isSeparator).filter (· ≠ [])

@[simp] theorem tokensOf_nil : tokensOf [] = [] := rfl

theorem tokensOf_append_cons {c : Char} (hc : isSeparator c = true) (front rest : List Char) :
    tokensOf (front ++ c :: rest) = tokensOf front ++ tokensOf rest := by
  rw [tokensOf, List.splitOnP_append_cons front rest hc, List.filter_append]
  rfl

variable {text gap token front rest : List Char}

theorem tokensOf_append (front : List Char) (h : EndsToken rest) :
    tokensOf (front ++ rest) = tokensOf front ++ tokensOf rest := by
  cases rest with
  | nil => rw [List.append_nil]; exact (List.append_nil _).symm
  | cons c rest =>
    have hc : isSeparator c = true := h c rfl
    have hrest : tokensOf (c :: rest) = tokensOf rest := tokensOf_append_cons hc [] rest
    rw [tokensOf_append_cons hc, hrest]

theorem IsGap.tokensOf_append (h : IsGap gap) (text : List Char) :
    tokensOf (gap ++ text) = tokensOf text := by
  induction gap with
  | nil => rfl
  | cons c gap ih =>
    obtain ⟨hc, hgap⟩ := List.forall_mem_cons.1 h
    exact (tokensOf_append_cons hc [] (gap ++ text)).trans (ih hgap)

theorem IsGap.tokensOf_eq (h : IsGap gap) : tokensOf gap = [] := by
  have hbare := h.tokensOf_append []
  rwa [List.append_nil] at hbare

theorem IsToken.tokensOf_eq (h : IsToken token) : tokensOf token = [token] := by
  have hwhole : token.splitOnP isSeparator = [token] := List.splitOnP_eq_singleton h.2
  rw [tokensOf, hwhole, List.filter_cons_of_pos (by simpa using h.1), List.filter_nil]

theorem Cut.tokensOf_eq (h : Cut text gap token rest) :
    tokensOf text = token :: tokensOf rest := by
  rw [h.text_eq, h.gap_isGap.tokensOf_append, tokensOf_append token h.rest_ends,
    h.token_isToken.tokensOf_eq, List.singleton_append]

theorem tokensOf_dropWhile (text : List Char) :
    tokensOf (text.dropWhile isSeparator) = tokensOf text := by
  have hgap : IsGap (text.takeWhile isSeparator) := fun c hc => List.mem_takeWhile_imp hc
  have hwhole := hgap.tokensOf_append (text.dropWhile isSeparator)
  rwa [List.takeWhile_append_dropWhile, eq_comm] at hwhole

theorem isGap_of_firstToken (h : firstToken text = []) : IsGap text := by
  cases hrest : text.dropWhile isSeparator with
  | nil => exact List.dropWhile_eq_nil_iff.1 hrest
  | cons c rest =>
    have hc : isSeparator c = false := head?_dropWhile_false (by rw [hrest]; rfl)
    rw [firstToken, hrest, List.takeWhile_cons_of_pos (by simp [hc])] at h
    cases h

theorem isGap_or_cut (text : List Char) :
    IsGap text ∨ Cut text (text.takeWhile isSeparator) (firstToken text) (afterToken text) := by
  by_cases h : firstToken text = []
  · exact .inl (isGap_of_firstToken h)
  · exact .inr (cut_firstToken h)

theorem cut_of_tokensOf_ne_nil (h : tokensOf text ≠ []) :
    Cut text (text.takeWhile isSeparator) (firstToken text) (afterToken text) :=
  (isGap_or_cut text).resolve_left fun hgap => h hgap.tokensOf_eq

theorem EndsToken.append (hfront : EndsToken front) (hrest : EndsToken rest) :
    EndsToken (front ++ rest) := by
  cases front with
  | nil => exact hrest
  | cons c front => exact hfront

theorem EndsToken.of_append (h : EndsToken (front ++ rest)) : EndsToken front := by
  cases front with
  | nil => intro c hc; cases hc
  | cons c front => exact h

theorem Cut.append (h : Cut text gap token rest) {more : List Char} (hmore : EndsToken more) :
    Cut (text ++ more) gap token (rest ++ more) where
  text_eq := by rw [h.text_eq, List.append_assoc, List.append_assoc]
  gap_isGap := h.gap_isGap
  token_isToken := h.token_isToken
  rest_ends := h.rest_ends.append hmore

/-! ### One token after another -/

def afterTokens : Nat → List Char → List Char
  | 0, text => text
  | n + 1, text => afterTokens n (afterToken text)

theorem afterTokens_succ (n : Nat) (text : List Char) :
    afterTokens (n + 1) text = afterToken (afterTokens n text) := by
  induction n generalizing text with
  | zero => rfl
  | succ n ih => exact ih (afterToken text)

theorem head?_tokensOf (text : List Char) :
    (tokensOf text).head? = if firstToken text = [] then none else some (firstToken text) := by
  split
  · rename_i h
    rw [(isGap_of_firstToken h).tokensOf_eq, List.head?_nil]
  · rename_i h
    rw [(cut_firstToken h).tokensOf_eq, List.head?_cons]

theorem tokensOf_afterToken (text : List Char) : tokensOf (afterToken text) = (tokensOf text).tail := by
  rcases isGap_or_cut text with hgap | hcut
  · have hnone : afterToken text = [] := by
      rw [afterToken, List.dropWhile_eq_nil_iff.2 hgap, List.dropWhile_nil]
    rw [hnone, hgap.tokensOf_eq]
    rfl
  · rw [hcut.tokensOf_eq, List.tail_cons]

theorem tokensOf_afterTokens (n : Nat) (text : List Char) :
    tokensOf (afterTokens n text) = (tokensOf text).drop n := by
  induction n generalizing text with
  | zero => rfl
  | succ n ih => rw [afterTokens, ih, tokensOf_afterToken, List.drop_tail]

theorem head?_tokensOf_afterTokens (n : Nat) (text : List Char) :
    (tokensOf (afterTokens n text)).head? = (tokensOf text)[n]? := by
  rw [tokensOf_afterTokens, List.head?_drop]

/-! ### Replacing what stands behind a token -/

/-- `front` holds the first `n` tokens of a text, and `rest` stands behind the last of them. -/
structure SplitBehind (n : Nat) (text front rest : List Char) : Prop where
  text_eq : text = front ++ rest
  length_front : (tokensOf front).length = n
  rest_ends : EndsToken rest

variable {n : Nat} {other rest' : List Char}

theorem SplitBehind.zero (h : EndsToken text) : SplitBehind 0 text [] text where
  text_eq := rfl
  length_front := congrArg List.length tokensOf_nil
  rest_ends := h

theorem Cut.splitBehind (h : Cut text gap token other) (h' : SplitBehind n other front rest) :
    SplitBehind (n + 1) text (gap ++ (token ++ front)) rest := by
  have hends : EndsToken (front ++ rest) := h'.text_eq ▸ h.rest_ends
  have hfront : Cut (gap ++ (token ++ front)) gap token front :=
    ⟨rfl, h.gap_isGap, h.token_isToken, hends.of_append⟩
  refine ⟨?_, ?_, h'.rest_ends⟩
  · rw [h.text_eq, h'.text_eq, List.append_assoc, List.append_assoc]
  · rw [hfront.tokensOf_eq, List.length_cons, h'.length_front]

theorem exists_splitBehind (h : n < (tokensOf text).length) :
    ∃ front rest, SplitBehind (n + 1) text front rest := by
  induction n generalizing text with
  | zero =>
    have hcut := cut_of_tokensOf_ne_nil (List.ne_nil_of_length_pos h)
    exact ⟨_, _, hcut.splitBehind (.zero hcut.rest_ends)⟩
  | succ n ih =>
    have hcut := cut_of_tokensOf_ne_nil (List.ne_nil_of_length_pos (Nat.zero_lt_of_lt h))
    rw [hcut.tokensOf_eq, List.length_cons] at h
    obtain ⟨front, rest, hlater⟩ := ih (Nat.lt_of_succ_lt_succ h)
    exact ⟨_, _, hcut.splitBehind hlater⟩

theorem SplitBehind.replace (h : SplitBehind n text front rest) (hrest' : EndsToken rest') :
    SplitBehind n (front ++ rest') front rest' :=
  ⟨rfl, h.length_front, hrest'⟩

theorem SplitBehind.getElem?_tokensOf (h : SplitBehind n text front rest) {j : Nat} (hj : j < n) :
    (tokensOf text)[j]? = (tokensOf front)[j]? := by
  rw [h.text_eq, tokensOf_append front h.rest_ends,
    List.getElem?_append_left (h.length_front ▸ hj)]

theorem SplitBehind.afterTokens_eq (h : SplitBehind n text front rest) :
    ∃ gap, IsGap gap ∧ afterTokens n text = gap ++ rest := by
  induction n generalizing text front with
  | zero =>
    rcases isGap_or_cut front with hgap | hcut
    · exact ⟨front, hgap, h.text_eq⟩
    · have hlength := h.length_front
      rw [hcut.tokensOf_eq] at hlength
      cases hlength
  | succ n ih =>
    have hlength := h.length_front
    have hcut := cut_of_tokensOf_ne_nil (List.ne_nil_of_length_eq_add_one hlength)
    rw [hcut.tokensOf_eq, List.length_cons, Nat.add_right_cancel_iff] at hlength
    obtain ⟨-, -, hafter⟩ := (hcut.append h.rest_ends).eq_firstToken
    rw [afterTokens, h.text_eq, ← hafter]
    exact ih ⟨rfl, hlength, h.rest_ends⟩

end PortGate.Text
