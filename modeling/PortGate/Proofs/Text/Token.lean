import Mathlib.Data.List.TakeWhile
import PortGate.Text.Blank

/-! The first token of a text. There is one way at most to cut a text into a gap of separators, a
token without any, and a rest that nothing could be added to the token from. -/

namespace PortGate.Text

def firstToken (text : List Char) : List Char :=
  (text.dropWhile isSeparator).takeWhile fun c => !isSeparator c

def afterToken (text : List Char) : List Char :=
  (text.dropWhile isSeparator).dropWhile fun c => !isSeparator c

theorem firstToken_append_afterToken (text : List Char) :
    firstToken text ++ afterToken text = text.dropWhile isSeparator :=
  List.takeWhile_append_dropWhile

def IsGap (chars : List Char) : Prop := ∀ c ∈ chars, isSeparator c = true

def IsToken (chars : List Char) : Prop := chars ≠ [] ∧ ∀ c ∈ chars, isSeparator c = false

theorem isGap_iff_all {chars : List Char} : IsGap chars ↔ chars.all isSeparator = true :=
  List.all_eq_true.symm

theorem isToken_iff_all {chars : List Char} :
    IsToken chars ↔ chars ≠ [] ∧ chars.all (fun c => !isSeparator c) = true := by
  simp [IsToken]

instance (chars : List Char) : Decidable (IsGap chars) := decidable_of_iff' _ isGap_iff_all

instance (chars : List Char) : Decidable (IsToken chars) := decidable_of_iff' _ isToken_iff_all

/-- Empty, or with a separator in front. -/
def EndsToken (rest : List Char) : Prop := ∀ c ∈ rest.head?, isSeparator c = true

structure Cut (text gap token rest : List Char) : Prop where
  text_eq : text = gap ++ (token ++ rest)
  gap_isGap : IsGap gap
  token_isToken : IsToken token
  rest_ends : EndsToken rest

theorem head?_dropWhile_false {p : Char → Bool} {text : List Char} {c : Char}
    (h : c ∈ (text.dropWhile p).head?) : p c = false := by
  have hnot := List.head?_dropWhile_not p text
  rw [Option.mem_def] at h
  rwa [h] at hnot

theorem takeWhile_append_of_head? {p : Char → Bool} {l rest : List Char}
    (hl : ∀ c ∈ l, p c = true) (hrest : ∀ c ∈ rest.head?, p c = false) :
    (l ++ rest).takeWhile p = l ∧ (l ++ rest).dropWhile p = rest := by
  rw [List.takeWhile_append_of_pos hl, List.dropWhile_append_of_pos hl]
  cases rest with
  | nil => exact ⟨List.append_nil l, rfl⟩
  | cons c rest =>
    have hc : ¬ p c = true := by simp [hrest c rfl]
    rw [List.takeWhile_cons_of_neg hc, List.dropWhile_cons_of_neg hc]
    exact ⟨List.append_nil l, rfl⟩

theorem cut_firstToken {text : List Char} (h : firstToken text ≠ []) :
    Cut text (text.takeWhile isSeparator) (firstToken text) (afterToken text) where
  text_eq := by rw [firstToken_append_afterToken, List.takeWhile_append_dropWhile]
  gap_isGap c hc := List.mem_takeWhile_imp hc
  token_isToken := ⟨h, fun c hc => by simpa using List.mem_takeWhile_imp hc⟩
  rest_ends c hc := by simpa using head?_dropWhile_false hc

variable {text gap token rest : List Char}

theorem Cut.eq_firstToken (h : Cut text gap token rest) :
    gap = text.takeWhile isSeparator ∧ token = firstToken text ∧ rest = afterToken text := by
  have hhead : ∀ c ∈ (token ++ rest).head?, isSeparator c = false := by
    intro c hc
    obtain ⟨d, token, rfl⟩ := List.exists_cons_of_ne_nil h.token_isToken.1
    obtain rfl : d = c := by simpa using hc
    exact h.token_isToken.2 d List.mem_cons_self
  have hgap := takeWhile_append_of_head? h.gap_isGap hhead
  have hwhole : ∀ c ∈ token, (!isSeparator c) = true := fun c hc => by
    simp [h.token_isToken.2 c hc]
  have hrest : ∀ c ∈ rest.head?, (!isSeparator c) = false := fun c hc => by
    simp [h.rest_ends c hc]
  have htoken := takeWhile_append_of_head? (p := fun c => !isSeparator c) hwhole hrest
  rw [firstToken, afterToken, h.text_eq, hgap.1, hgap.2, htoken.1, htoken.2]
  exact ⟨rfl, rfl, rfl⟩

theorem Cut.firstToken_ne_nil (h : Cut text gap token rest) : firstToken text ≠ [] :=
  h.eq_firstToken.2.1 ▸ h.token_isToken.1

theorem Cut.unique {gap' token' rest' : List Char} (h : Cut text gap token rest)
    (h' : Cut text gap' token' rest') : gap = gap' ∧ token = token' ∧ rest = rest' := by
  obtain ⟨hgap, htoken, hrest⟩ := h.eq_firstToken
  obtain ⟨hgap', htoken', hrest'⟩ := h'.eq_firstToken
  exact ⟨hgap.trans hgap'.symm, htoken.trans htoken'.symm, hrest.trans hrest'.symm⟩

theorem Cut.gap_ne_nil (h : Cut text gap token rest) (htext : EndsToken text) : gap ≠ [] := by
  rintro rfl
  obtain ⟨c, token, rfl⟩ := List.exists_cons_of_ne_nil h.token_isToken.1
  have hc := htext c (by rw [h.text_eq]; rfl)
  rw [h.token_isToken.2 c List.mem_cons_self] at hc
  exact Bool.false_ne_true hc

theorem IsGap.endsToken_append (hgap : IsGap gap) (hne : gap ≠ []) (rest : List Char) :
    EndsToken (gap ++ rest) := by
  obtain ⟨c, gap, rfl⟩ := List.exists_cons_of_ne_nil hne
  intro d hd
  obtain rfl : c = d := by simpa using hd
  exact hgap c List.mem_cons_self

theorem isSeparator_of_isDigit {c : Char} (h : c.isDigit = true) : isSeparator c = false := by
  cases hs : isSeparator c with
  | false => rfl
  | true =>
    simp only [isSeparator, Bool.or_eq_true, beq_iff_eq] at hs
    rcases hs with (((rfl | rfl) | rfl) | rfl) | rfl <;> exact absurd h (by decide)

theorem IsToken.append_mark {left right : List Char} {mark : Char} (hleft : IsToken left)
    (hmark : isSeparator mark = false) (hright : IsToken right) :
    IsToken (left ++ mark :: right) := by
  refine ⟨by simp, fun c hc => ?_⟩
  rcases List.mem_append.1 hc with hc | hc
  · exact hleft.2 c hc
  · rcases List.mem_cons.1 hc with rfl | hc
    · exact hmark
    · exact hright.2 c hc

end PortGate.Text
