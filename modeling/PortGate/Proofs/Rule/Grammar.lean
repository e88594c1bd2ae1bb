import PortGate.Proofs.Net.SubnetNotation
import PortGate.Proofs.Rule.Characters

/-! The grammar of rule lines. A layout cuts a line into four tokens, the gaps before them and a rest,
and it denotes a rule when each part writes the rule's part of the same name. A line has one layout
at most, and a rule is read from a line exactly when the layout of the line denotes it. -/

namespace PortGate
open Text

def ActionText (text : List Char) : Action → Prop
  | .allow => text = "allow".toList
  | .deny => text = "deny".toList

/-- Nothing but blanks, or blanks and then the source of a pattern, which keeps the blanks at its
end. -/
def PatternText (text : List Char) : Option Pattern → Prop
  | none => text.dropWhile isBlank = []
  | some p => p.source ≠ "" ∧ text.dropWhile isBlank = p.source.toList

namespace Rule

@[ext] structure Layout (line : String) where
  indent : List Char
  action : List Char
  gap₁ : List Char
  eports : List Char
  gap₂ : List Char
  subnet : List Char
  gap₃ : List Char
  iports : List Char
  rest : List Char
  line_eq : line.toList = indent ++ (action ++ (gap₁ ++ (eports ++ (gap₂ ++ (subnet ++
    (gap₃ ++ (iports ++ rest)))))))
  indent_isGap : IsGap indent
  action_isToken : IsToken action
  gap₁_ne_nil : gap₁ ≠ []
  gap₁_isGap : IsGap gap₁
  eports_isToken : IsToken eports
  gap₂_ne_nil : gap₂ ≠ []
  gap₂_isGap : IsGap gap₂
  subnet_isToken : IsToken subnet
  gap₃_ne_nil : gap₃ ≠ []
  gap₃_isGap : IsGap gap₃
  iports_isToken : IsToken iports
  rest_ends : EndsToken rest

namespace Layout
variable {line : String}

structure Denotes (l : Layout line) (r : Rule) : Prop where
  action : ActionText l.action r.action
  eports : RangeText l.eports r.eports
  subnet : SubnetText l.subnet r.subnet
  iports : RangeText l.iports r.iports
  pattern : PatternText l.rest r.pattern

variable (l : Layout line)

def afterSubnet : List Char := l.gap₃ ++ (l.iports ++ l.rest)

def afterEports : List Char := l.gap₂ ++ (l.subnet ++ l.afterSubnet)

def afterAction : List Char := l.gap₁ ++ (l.eports ++ l.afterEports)

theorem cut_action : Cut line.toList l.indent l.action l.afterAction :=
  ⟨l.line_eq, l.indent_isGap, l.action_isToken, l.gap₁_isGap.endsToken_append l.gap₁_ne_nil _⟩

theorem cut_eports : Cut l.afterAction l.gap₁ l.eports l.afterEports :=
  ⟨rfl, l.gap₁_isGap, l.eports_isToken, l.gap₂_isGap.endsToken_append l.gap₂_ne_nil _⟩

theorem cut_subnet : Cut l.afterEports l.gap₂ l.subnet l.afterSubnet :=
  ⟨rfl, l.gap₂_isGap, l.subnet_isToken, l.gap₃_isGap.endsToken_append l.gap₃_ne_nil _⟩

theorem cut_iports : Cut l.afterSubnet l.gap₃ l.iports l.rest :=
  ⟨rfl, l.gap₃_isGap, l.iports_isToken, l.rest_ends⟩

def ofCuts {w₀ t₁ r₁ w₁ t₂ r₂ w₂ t₃ r₃ w₃ t₄ r₄ : List Char} (h₁ : Cut line.toList w₀ t₁ r₁)
    (h₂ : Cut r₁ w₁ t₂ r₂) (h₃ : Cut r₂ w₂ t₃ r₃) (h₄ : Cut r₃ w₃ t₄ r₄) : Layout line where
  indent := w₀
  action := t₁
  gap₁ := w₁
  eports := t₂
  gap₂ := w₂
  subnet := t₃
  gap₃ := w₃
  iports := t₄
  rest := r₄
  line_eq := by rw [h₁.text_eq, h₂.text_eq, h₃.text_eq, h₄.text_eq]
  indent_isGap := h₁.gap_isGap
  action_isToken := h₁.token_isToken
  gap₁_ne_nil := h₂.gap_ne_nil h₁.rest_ends
  gap₁_isGap := h₂.gap_isGap
  eports_isToken := h₂.token_isToken
  gap₂_ne_nil := h₃.gap_ne_nil h₂.rest_ends
  gap₂_isGap := h₃.gap_isGap
  subnet_isToken := h₃.token_isToken
  gap₃_ne_nil := h₄.gap_ne_nil h₃.rest_ends
  gap₃_isGap := h₄.gap_isGap
  iports_isToken := h₄.token_isToken
  rest_ends := h₄.rest_ends

theorem unique (l m : Layout line) : l = m := by
  obtain ⟨hindent, haction, hrest⟩ := l.cut_action.unique m.cut_action
  obtain ⟨hgap₁, heports, hrest⟩ := (hrest ▸ l.cut_eports).unique m.cut_eports
  obtain ⟨hgap₂, hsubnet, hrest⟩ := (hrest ▸ l.cut_subnet).unique m.cut_subnet
  obtain ⟨hgap₃, hiports, hrest⟩ := (hrest ▸ l.cut_iports).unique m.cut_iports
  exact Layout.ext hindent haction hgap₁ heports hgap₂ hsubnet hgap₃ hiports hrest

end Layout
end Rule

namespace Cursor
variable {before after : List Char} {c : Cursor}

theorem action_between_eq_ok_iff {a : Action} :
    (between before after).action = .ok (a, c) ↔
      ∃ gap token rest, Cut after gap token rest ∧ ActionText token a ∧
        c = between (before ++ gap ++ token) rest := by
  unfold Cursor.action
  rw [bind_eq_ok_iff]
  constructor
  · rintro ⟨⟨text, next⟩, htoken, h⟩
    obtain ⟨gap, token, rest, hcut, rfl, rfl⟩ := token_between_eq_ok_iff.1 htoken
    dsimp only at h
    split at h
    · rename_i hallow
      cases h
      exact ⟨gap, token, rest, hcut, by rw [ActionText, ← hallow, String.toList_ofList], rfl⟩
    · split at h
      · rename_i hdeny
        cases h
        exact ⟨gap, token, rest, hcut, by rw [ActionText, ← hdeny, String.toList_ofList], rfl⟩
      · cases h
  · rintro ⟨gap, token, rest, hcut, htext, rfl⟩
    refine ⟨_, token_between_eq_ok_iff.2 ⟨gap, token, rest, hcut, rfl, rfl⟩, ?_⟩
    cases a with
    | allow =>
      have heq : String.ofList token = "allow" := by rw [htext, String.ofList_toList]
      exact if_pos heq
    | deny =>
      have heq : String.ofList token = "deny" := by rw [htext, String.ofList_toList]
      dsimp only
      rw [heq]
      rfl

theorem bounds_between_eq_ok_iff {field : Field} {bounds : Port × Port} :
    (between before after).bounds field = .ok (bounds, c) ↔
      ∃ gap token rest, ∃ r : PortRange, Cut after gap token rest ∧ RangeText token r ∧
        bounds = (r.lo, r.hi) ∧ c = between (before ++ gap ++ token) rest := by
  unfold Cursor.bounds
  simp only [bind_eq_ok_iff, mapError_eq_ok_iff, readBounds_eq_ok_iff, return_eq_ok_iff]
  constructor
  · rintro ⟨⟨text, next⟩, htoken, bounds, ⟨r, hr, rfl⟩, h⟩
    obtain ⟨gap, token, rest, hcut, rfl, rfl⟩ := token_between_eq_ok_iff.1 htoken
    obtain ⟨rfl, rfl⟩ := Prod.mk.inj h
    exact ⟨gap, token, rest, r, hcut, by rwa [String.toList_ofList] at hr, rfl, rfl⟩
  · rintro ⟨gap, token, rest, r, hcut, hr, rfl, rfl⟩
    exact ⟨_, token_between_eq_ok_iff.2 ⟨gap, token, rest, hcut, rfl, rfl⟩, _,
      ⟨r, by rwa [String.toList_ofList], rfl⟩, rfl⟩

theorem subnet_between_eq_ok_iff {s : Subnet} :
    (between before after).subnet = .ok (s, c) ↔
      ∃ gap token rest, Cut after gap token rest ∧ SubnetText token s ∧
        c = between (before ++ gap ++ token) rest := by
  unfold Cursor.subnet
  simp only [bind_eq_ok_iff, mapError_eq_ok_iff, readSubnet_eq_ok_iff, return_eq_ok_iff]
  constructor
  · rintro ⟨⟨text, next⟩, htoken, s', hs, h⟩
    obtain ⟨gap, token, rest, hcut, rfl, rfl⟩ := token_between_eq_ok_iff.1 htoken
    obtain ⟨rfl, rfl⟩ := Prod.mk.inj h
    exact ⟨gap, token, rest, hcut, by rwa [String.toList_ofList] at hs, rfl⟩
  · rintro ⟨gap, token, rest, hcut, hs, rfl⟩
    exact ⟨_, token_between_eq_ok_iff.2 ⟨gap, token, rest, hcut, rfl, rfl⟩, s,
      by rwa [String.toList_ofList], rfl⟩

theorem pattern_between_eq_ok_iff {p : Option Pattern} :
    (between before after).pattern = .ok (p, c) ↔
      PatternText after p ∧ c = between (before ++ after) [] := by
  have hdone : ({ between before after with pos := (between before after).line.utf8ByteSize } :
      Cursor) = between (before ++ after) [] := by
    simp [between]
  have hsource : trimStart (String.ofList after) = String.ofList (after.dropWhile isBlank) := by
    rw [trimStart, String.toList_ofList]
  unfold Cursor.pattern
  simp only [hdone, rest_between, hsource]
  constructor
  · intro h
    split at h
    · rename_i hempty
      have hnil : after.dropWhile isBlank = [] := by simpa using hempty
      obtain ⟨rfl, rfl⟩ := Prod.mk.inj (return_eq_ok_iff.1 h)
      exact ⟨hnil, rfl⟩
    · rename_i hempty
      obtain ⟨q, hq, h⟩ := bind_eq_ok_iff.1 h
      obtain ⟨hq, -⟩ := Pattern.ofSource_eq_ok_iff.1 (mapError_eq_ok_iff.1 hq)
      obtain ⟨rfl, rfl⟩ := Prod.mk.inj (return_eq_ok_iff.1 h)
      refine ⟨⟨?_, ?_⟩, rfl⟩
      · rw [hq]
        simpa using hempty
      · rw [hq, String.toList_ofList]
  · rintro ⟨h, rfl⟩
    cases p with
    | none =>
      have hempty : (String.ofList (after.dropWhile isBlank)).isEmpty = true := by
        rw [show after.dropWhile isBlank = [] from h]
        rfl
      exact if_pos hempty
    | some q =>
      obtain ⟨hne, htext⟩ := h
      rw [htext, String.ofList_toList]
      have hempty : ¬ q.source.isEmpty = true := by simpa using hne
      rw [if_neg hempty, Pattern.ofSource_source]
      rfl

end Cursor

namespace Rule

theorem ofParts_eq_ok_iff {action : Action} {eports iports : PortRange} {subnet : Subnet}
    {pattern : Option Pattern} {r : Rule} :
    ofParts action (eports.lo, eports.hi) subnet (iports.lo, iports.hi) pattern = .ok r ↔
      r = ⟨action, eports, subnet, iports, pattern⟩ := by
  simp only [ofParts, PortRange.ofBounds_self]
  constructor
  · intro h
    cases h
    rfl
  · rintro rfl
    rfl

theorem read_eq_ok_iff_denotes {line : String} {r : Rule} :
    read line = .ok r ↔ ∃ l : Layout line, l.Denotes r := by
  rw [read, Cursor.start_eq_between]
  constructor
  · intro h
    obtain ⟨⟨action, c⟩, step₁, h⟩ := bind_eq_ok_iff.1 h
    obtain ⟨w₀, t₁, r₁, cut₁, haction, rfl⟩ := Cursor.action_between_eq_ok_iff.1 step₁
    obtain ⟨⟨eports, c⟩, step₂, h⟩ := bind_eq_ok_iff.1 h
    obtain ⟨w₁, t₂, r₂, e, cut₂, heports, rfl, rfl⟩ := Cursor.bounds_between_eq_ok_iff.1 step₂
    obtain ⟨⟨subnet, c⟩, step₃, h⟩ := bind_eq_ok_iff.1 h
    obtain ⟨w₂, t₃, r₃, cut₃, hsubnet, rfl⟩ := Cursor.subnet_between_eq_ok_iff.1 step₃
    obtain ⟨⟨iports, c⟩, step₄, h⟩ := bind_eq_ok_iff.1 h
    obtain ⟨w₃, t₄, r₄, i, cut₄, hiports, rfl, rfl⟩ := Cursor.bounds_between_eq_ok_iff.1 step₄
    obtain ⟨⟨pattern, c⟩, step₅, h⟩ := bind_eq_ok_iff.1 h
    obtain ⟨hpattern, rfl⟩ := Cursor.pattern_between_eq_ok_iff.1 step₅
    obtain rfl := ofParts_eq_ok_iff.1 h
    exact ⟨.ofCuts cut₁ cut₂ cut₃ cut₄, haction, heports, hsubnet, hiports, hpattern⟩
  · rintro ⟨l, h⟩
    refine bind_eq_ok_iff.2 ⟨_, Cursor.action_between_eq_ok_iff.2
      ⟨_, _, _, l.cut_action, h.action, rfl⟩, ?_⟩
    refine bind_eq_ok_iff.2 ⟨_, Cursor.bounds_between_eq_ok_iff.2
      ⟨_, _, _, r.eports, l.cut_eports, h.eports, rfl, rfl⟩, ?_⟩
    refine bind_eq_ok_iff.2 ⟨_, Cursor.subnet_between_eq_ok_iff.2
      ⟨_, _, _, l.cut_subnet, h.subnet, rfl⟩, ?_⟩
    refine bind_eq_ok_iff.2 ⟨_, Cursor.bounds_between_eq_ok_iff.2
      ⟨_, _, _, r.iports, l.cut_iports, h.iports, rfl, rfl⟩, ?_⟩
    refine bind_eq_ok_iff.2 ⟨_, Cursor.pattern_between_eq_ok_iff.2 ⟨h.pattern, rfl⟩, ?_⟩
    exact ofParts_eq_ok_iff.2 rfl

/-- Reading accepts the lines of the grammar and no others, each with the rule that its only layout
denotes. -/
theorem read_accepts_grammar (line : String) :
    (∀ r, read line = .ok r ↔ ∃ l : Layout line, l.Denotes r) ∧ ∀ l m : Layout line, l = m :=
  ⟨fun _ => read_eq_ok_iff_denotes, Layout.unique⟩

end Rule

end PortGate
