/-! Cutting a text at a character. `splitOnce` cuts at the first one and `split` at each, which is
undone by putting the character between the parts again. -/

namespace PortGate.Text

/-- The text before the first `mark` and the text after it. -/
def splitOnce (mark : Char) : List Char → Option (List Char × List Char)
  | [] => none
  | c :: rest =>
    if c = mark then some ([], rest)
    else (splitOnce mark rest).map fun (before, after) => (c :: before, after)

/-- The parts between the marks, one more than there are marks. -/
abbrev split (mark : Char) (text : List Char) : List (List Char) := text.splitOn mark

theorem splitOnce_eq_none_iff {mark : Char} {text : List Char} :
    splitOnce mark text = none ↔ mark ∉ text := by
  induction text with
  | nil => simp [splitOnce]
  | cons c rest ih =>
    by_cases h : c = mark
    · simp [splitOnce, h]
    · simp [splitOnce, h, ih, Ne.symm h]

theorem splitOnce_eq_some_iff {mark : Char} {text before after : List Char} :
    splitOnce mark text = some (before, after) ↔
      mark ∉ before ∧ text = before ++ mark :: after := by
  induction text generalizing before with
  | nil => simp [splitOnce]
  | cons c rest ih =>
    by_cases h : c = mark
    · subst h
      cases before with
      | nil => simp [splitOnce]
      | cons d before => simp only [splitOnce]; grind
    · cases before with
      | nil => simp [splitOnce, h]
      | cons d before =>
        rw [splitOnce, if_neg h, Option.map_eq_some_iff]
        constructor
        · rintro ⟨⟨_, _⟩, hr, he⟩
          cases he
          obtain ⟨hm, rfl⟩ := ih.1 hr
          exact ⟨by simp [Ne.symm h, hm], rfl⟩
        · rintro ⟨hm, he⟩
          obtain ⟨rfl, rfl⟩ := List.cons.inj he
          exact ⟨(before, after), ih.2 ⟨fun hb => hm (.tail _ hb), rfl⟩, rfl⟩

end PortGate.Text
