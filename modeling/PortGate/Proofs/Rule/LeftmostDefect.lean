import PortGate.Proofs.Rule.Grammar
import PortGate.Proofs.Text.Tokens

/-! Which defect of a line is reported. The fields of a rule take one token each, in order; the first of
them without a token, or with one that it refuses, decides the error, and nothing behind that token is
looked at. The pattern comes last. -/

namespace PortGate
open Text

def errorOf? {ε α : Type} : Except ε α → Option ε
  | .error e => some e
  | .ok _ => none

namespace Field

def place : Field → Nat
  | action => 0
  | externalPort => 1
  | subnet => 2
  | internalPort => 3

theorem place_inj {f g : Field} (h : f.place = g.place) : f = g := by
  cases f <;> cases g <;> first | rfl | cases h

theorem place_lt_four (f : Field) : f.place < 4 := by
  cases f <;> decide

def fault? : Field → String → Option RuleError
  | action, text => if text = "allow" ∨ text = "deny" then none else some (.action text)
  | externalPort, text => errorOf? ((readBounds text).mapError .ports)
  | subnet, text => errorOf? ((Subnet.read text).mapError .subnet)
  | internalPort, text => errorOf? ((readBounds text).mapError .ports)

def defect? (field : Field) : Option String → Option RuleError
  | none => some (.missing field)
  | some text => field.fault? text

end Field

namespace Rule

def tokenOf? (line : String) (field : Field) : Option String :=
  (tokensOf line.toList)[field.place]?.map String.ofList

def ValidBefore (line : String) (n : Nat) : Prop :=
  ∀ field : Field, field.place < n → field.defect? (tokenOf? line field) = none

structure FirstDefect (line : String) (field : Field) (e : RuleError) : Prop where
  before : ValidBefore line field.place
  defect : field.defect? (tokenOf? line field) = some e

/-- The leftmost defect of a line. A pattern is looked at when all four tokens are valid, and it is what
stands behind them, without the blanks in front. -/
inductive Defect (line : String) : RuleError → Prop where
  | field {field e} (first : FirstDefect line field e) : Defect line e
  | pattern {front rest cause} (valid : ValidBefore line 4)
      (split : SplitBehind 4 line.toList front rest) (nonblank : trimStart (String.ofList rest) ≠ "")
      (refused : Pattern.ofSource (trimStart (String.ofList rest)) = .error cause) :
      Defect line (.pattern (trimStart (String.ofList rest)) cause)

variable {line : String} {field other : Field} {e e' : RuleError}

theorem ValidBefore.succ (h : ValidBefore line field.place)
    (hfield : field.defect? (tokenOf? line field) = none) :
    ValidBefore line (field.place + 1) := by
  intro earlier hlt
  rcases Nat.lt_succ_iff_lt_or_eq.1 hlt with hlt | heq
  · exact h earlier hlt
  · rwa [Field.place_inj heq]

theorem FirstDefect.le_place (h : FirstDefect line field e)
    (hother : other.defect? (tokenOf? line other) = some e') : field.place ≤ other.place := by
  refine Nat.le_of_not_lt fun hlt => ?_
  rw [h.before other hlt] at hother
  cases hother

theorem FirstDefect.unique (h : FirstDefect line field e) (h' : FirstDefect line other e') :
    e = e' := by
  obtain rfl : field = other :=
    Field.place_inj (Nat.le_antisymm (h.le_place h'.defect) (h'.le_place h.defect))
  exact Option.some.inj (h.defect.symm.trans h'.defect)

theorem FirstDefect.not_valid (h : FirstDefect line field e) : ¬ValidBefore line 4 := by
  intro hvalid
  have hfield := hvalid field field.place_lt_four
  rw [h.defect] at hfield
  cases hfield

theorem exists_split_of_tokenOf? {text : String} (h : tokenOf? line field = some text) :
    ∃ front rest, SplitBehind (field.place + 1) line.toList front rest := by
  obtain ⟨token, htoken, -⟩ := Option.map_eq_some_iff.1 h
  obtain ⟨hlt, -⟩ := List.getElem?_eq_some_iff.1 htoken
  exact exists_splitBehind hlt

theorem ValidBefore.exists_split (h : ValidBefore line 4) :
    ∃ front rest, SplitBehind 4 line.toList front rest := by
  have hlast : Field.internalPort.defect? (tokenOf? line .internalPort) = none :=
    h .internalPort (by decide)
  cases htoken : tokenOf? line .internalPort with
  | none =>
    rw [htoken] at hlast
    cases hlast
  | some text => exact exists_split_of_tokenOf? htoken

section
variable {n : Nat} {front rest rest' : List Char}

theorem tokenOf?_replace (h : SplitBehind n line.toList front rest) (hn : field.place < n)
    (hrest' : EndsToken rest') :
    tokenOf? (String.ofList (front ++ rest')) field = tokenOf? line field := by
  rw [tokenOf?, tokenOf?, String.toList_ofList, h.getElem?_tokensOf hn,
    (h.replace hrest').getElem?_tokensOf hn]

theorem FirstDefect.replace (h : FirstDefect line field e)
    (hsplit : SplitBehind n line.toList front rest) (hn : field.place < n)
    (hrest' : EndsToken rest') : FirstDefect (String.ofList (front ++ rest')) field e where
  before earlier hlt := by
    rw [tokenOf?_replace hsplit (Nat.lt_trans hlt hn) hrest']
    exact h.before earlier hlt
  defect := by
    rw [tokenOf?_replace hsplit hn hrest']
    exact h.defect

end

end Rule

/-! ### One field after another -/

namespace Cursor
open Rule

variable {α : Type} {field : Field} {reader : Cursor → Except RuleError (α × Cursor)}
variable {line : String} {n : Nat} {c : Cursor} {before after : List Char} {e : RuleError}

/-- The cursor stands behind the first `n` tokens, all of them valid. -/
structure Accepted (line : String) (n : Nat) (c : Cursor) : Prop where
  valid : ValidBefore line n
  behind : ∃ before, c = between before (afterTokens n line.toList)

theorem accepted_start (line : String) : Accepted line 0 (start line) :=
  ⟨fun _ h => absurd h (Nat.not_lt_zero _), [], start_eq_between line⟩

theorem Accepted.token (h : Accepted line field.place c) :
    (tokenOf? line field = none ∧ c.token field = .error (.missing field)) ∨
    ∃ text next, tokenOf? line field = some text ∧ c.token field = .ok (text, next) ∧
      (field.fault? text = none → Accepted line (field.place + 1) next) := by
  obtain ⟨hvalid, before, rfl⟩ := h
  have hplace := head?_tokensOf_afterTokens field.place line.toList
  rw [head?_tokensOf] at hplace
  rw [token_between]
  split at hplace
  · rename_i hnone
    rw [if_pos hnone, tokenOf?, ← hplace]
    exact .inl ⟨rfl, rfl⟩
  · rename_i hsome
    have htoken : tokenOf? line field =
        some (String.ofList (firstToken (afterTokens field.place line.toList))) := by
      rw [tokenOf?, ← hplace, Option.map_some]
    rw [if_neg hsome]
    refine .inr ⟨_, _, htoken, rfl, fun hfault => ⟨hvalid.succ ?_, ?_⟩⟩
    · rw [htoken, Field.defect?, hfault]
    · rw [afterTokens_succ]
      exact ⟨_, rfl⟩

/-- A reader takes the next token for a field: it fails with the first defect, or it goes on behind one
token more. -/
structure Reads (field : Field) (reader : Cursor → Except RuleError (α × Cursor)) : Prop where
  step {line : String} {c : Cursor} (h : Accepted line field.place c) :
    (∃ e, FirstDefect line field e ∧ reader c = .error e) ∨
    ∃ a next, reader c = .ok (a, next) ∧ Accepted line (field.place + 1) next

theorem reads_of_check (check : String → Except RuleError α)
    (hreader : ∀ c, reader c = c.token field >>= fun p => check p.1 >>= fun a => pure (a, p.2))
    (hfault : ∀ text, field.fault? text = errorOf? (check text)) : Reads field reader := by
  refine ⟨fun {line c} hc => ?_⟩
  rw [hreader]
  rcases hc.token with ⟨habsent, htoken⟩ | ⟨text, next, hpresent, htoken, hnext⟩
  · rw [htoken, error_bind]
    exact .inl ⟨_, ⟨hc.valid, by rw [habsent, Field.defect?]⟩, rfl⟩
  · rw [htoken, ok_bind]
    rw [hfault] at hnext
    cases hcheck : check text with
    | error e =>
      have hdefect : field.defect? (tokenOf? line field) = some e := by
        rw [hpresent, Field.defect?, hfault, hcheck, errorOf?]
      exact .inl ⟨e, ⟨hc.valid, hdefect⟩, error_bind e _⟩
    | ok a =>
      rw [hcheck] at hnext
      exact .inr ⟨a, next, ok_bind a _, hnext rfl⟩

def checkAction (text : String) : Except RuleError Action :=
  if text = "allow" then .ok .allow else if text = "deny" then .ok .deny else .error (.action text)

theorem reads_action : Reads .action Cursor.action := by
  apply reads_of_check checkAction
  · intro c
    rw [Cursor.action]
    refine congrArg (c.token .action >>= ·) (funext fun (text, next) => ?_)
    dsimp only [checkAction]
    by_cases hallow : text = "allow"
    · rw [if_pos hallow, if_pos hallow]
      rfl
    · rw [if_neg hallow, if_neg hallow]
      by_cases hdeny : text = "deny"
      · rw [if_pos hdeny, if_pos hdeny]
        rfl
      · rw [if_neg hdeny, if_neg hdeny]
        rfl
  · intro text
    rw [Field.fault?, checkAction]
    by_cases hallow : text = "allow"
    · rw [if_pos (.inl hallow), if_pos hallow, errorOf?]
    · rw [if_neg hallow]
      by_cases hdeny : text = "deny"
      · rw [if_pos (.inr hdeny), if_pos hdeny, errorOf?]
      · rw [if_neg (not_or.2 ⟨hallow, hdeny⟩), if_neg hdeny, errorOf?]

theorem reads_bounds
    (hfault : ∀ text, field.fault? text = errorOf? ((readBounds text).mapError .ports)) :
    Reads field (·.bounds field) :=
  reads_of_check (fun text => (readBounds text).mapError .ports) (fun _ => rfl) hfault

theorem reads_externalPort : Reads .externalPort (·.bounds .externalPort) :=
  reads_bounds fun _ => rfl

theorem reads_internalPort : Reads .internalPort (·.bounds .internalPort) :=
  reads_bounds fun _ => rfl

theorem reads_subnet : Reads .subnet Cursor.subnet :=
  reads_of_check (fun text => (Subnet.read text).mapError .subnet) (fun _ => rfl) fun _ => rfl

theorem pattern_between_eq_error_iff :
    (between before after).pattern = .error e ↔
      trimStart (String.ofList after) ≠ "" ∧
        ∃ cause, Pattern.ofSource (trimStart (String.ofList after)) = .error cause ∧
          .pattern (trimStart (String.ofList after)) cause = e := by
  unfold Cursor.pattern
  simp only [rest_between, String.isEmpty_iff]
  by_cases hblank : trimStart (String.ofList after) = ""
  · rw [if_pos hblank]
    exact ⟨nofun, fun h => absurd hblank h.1⟩
  · rw [if_neg hblank]
    cases hcompiled : Pattern.ofSource (trimStart (String.ofList after)) with
    | error cause =>
      constructor
      · intro h
        cases h
        exact ⟨hblank, cause, rfl, rfl⟩
      · rintro ⟨-, _, h, rfl⟩
        cases h
        rfl
    | ok p =>
      constructor
      · intro h
        cases h
      · rintro ⟨-, _, h, -⟩
        cases h

theorem readBounds_of_bounds {ends : Port × Port} {next : Cursor}
    (h : c.bounds field = .ok (ends, next)) : ∃ text, readBounds text = .ok ends := by
  obtain ⟨⟨text, _⟩, -, h⟩ := bind_eq_ok_iff.1 h
  obtain ⟨_, hread, h⟩ := bind_eq_ok_iff.1 h
  obtain ⟨rfl, -⟩ := Prod.mk.inj (return_eq_ok_iff.1 h)
  exact ⟨text, mapError_eq_ok_iff.1 hread⟩

end Cursor

namespace Rule
open Cursor

variable {line : String} {field : Field} {e : RuleError}

theorem ofParts_of_readBounds {external internal : String} {eports iports : Port × Port}
    (heports : readBounds external = .ok eports) (hiports : readBounds internal = .ok iports)
    (action : Action) (subnet : Subnet) (pattern : Option Pattern) :
    ∃ r, ofParts action eports subnet iports pattern = .ok r := by
  obtain ⟨outer, -, rfl⟩ := readBounds_eq_ok_iff.1 heports
  obtain ⟨inner, -, rfl⟩ := readBounds_eq_ok_iff.1 hiports
  exact ⟨_, ofParts_eq_ok_iff.2 rfl⟩

theorem read_cases (line : String) :
    (∃ field e, FirstDefect line field e ∧ read line = .error e) ∨
    ∃ c, Accepted line 4 c ∧ ∀ e, read line = .error e ↔ c.pattern = .error e := by
  rcases reads_action.step (accepted_start line) with ⟨e, hfirst, step₁⟩ | ⟨action, c₁, step₁, hc₁⟩
  · exact .inl ⟨_, e, hfirst, by simp only [read, step₁, error_bind]⟩
  rcases reads_externalPort.step hc₁ with ⟨e, hfirst, step₂⟩ | ⟨eports, c₂, step₂, hc₂⟩
  · exact .inl ⟨_, e, hfirst, by simp only [read, step₁, step₂, ok_bind, error_bind]⟩
  rcases reads_subnet.step hc₂ with ⟨e, hfirst, step₃⟩ | ⟨subnet, c₃, step₃, hc₃⟩
  · exact .inl ⟨_, e, hfirst, by simp only [read, step₁, step₂, step₃, ok_bind, error_bind]⟩
  rcases reads_internalPort.step hc₃ with ⟨e, hfirst, step₄⟩ | ⟨iports, c₄, step₄, hc₄⟩
  · exact .inl ⟨_, e, hfirst, by simp only [read, step₁, step₂, step₃, step₄, ok_bind, error_bind]⟩
  refine .inr ⟨c₄, hc₄, fun e => ?_⟩
  simp only [read, step₁, step₂, step₃, step₄, ok_bind]
  obtain ⟨external, heports⟩ := readBounds_of_bounds step₂
  obtain ⟨internal, hiports⟩ := readBounds_of_bounds step₄
  exact bind_eq_error_iff_of_ok fun p =>
    ofParts_of_readBounds heports hiports action subnet p.1

theorem trimStart_gap_append {gap : List Char} (h : IsGap gap) (text : List Char) :
    trimStart (String.ofList (gap ++ text)) = trimStart (String.ofList text) := by
  have hblank : ∀ c ∈ gap, isBlank c = true := fun c hc => isBlank_of_isSeparator (h c hc)
  rw [trimStart, trimStart, String.toList_ofList, String.toList_ofList,
    List.dropWhile_append_of_pos hblank]

theorem read_eq_error_iff : read line = .error e ↔ Defect line e := by
  rcases read_cases line with ⟨field, e', hfirst, hread⟩ | ⟨c, hc, hread⟩
  · rw [hread]
    constructor
    · intro h
      cases h
      exact .field hfirst
    · rintro (hother | ⟨hvalid, -, -, -⟩)
      · rw [hfirst.unique hother]
      · exact absurd hvalid hfirst.not_valid
  · obtain ⟨before, rfl⟩ := hc.behind
    rw [hread, pattern_between_eq_error_iff]
    constructor
    · obtain ⟨front, rest, hsplit⟩ := hc.valid.exists_split
      obtain ⟨gap, hgap, hafter⟩ := hsplit.afterTokens_eq
      rw [hafter, trimStart_gap_append hgap]
      rintro ⟨hnonblank, cause, hrefused, rfl⟩
      exact .pattern hc.valid hsplit hnonblank hrefused
    · rintro (hfirst | ⟨-, hsplit, hnonblank, hrefused⟩)
      · exact absurd hc.valid hfirst.not_valid
      · obtain ⟨gap, hgap, hafter⟩ := hsplit.afterTokens_eq
        rw [hafter, trimStart_gap_append hgap]
        exact ⟨hnonblank, _, hrefused, rfl⟩

/-- The leftmost defect decides the error. A field without a token, or with one that it refuses, does so
before all that stands behind it: the error is that of the field and its token alone, and any other
text may stand behind the token. The order of ends that were read is not looked at again. -/
theorem leftmost_defect_decides (line : String) :
    (∀ e, read line = .error e ↔ Defect line e) ∧
    (∀ field text, tokenOf? line field = some text →
      ∃ front rest, SplitBehind (field.place + 1) line.toList front rest) ∧
    (∀ field e n front rest rest', FirstDefect line field e →
      SplitBehind n line.toList front rest → field.place < n → EndsToken rest' →
        read (String.ofList (front ++ rest')) = .error e) ∧
    (∀ external internal eports iports, readBounds external = .ok eports →
      readBounds internal = .ok iports → ∀ action subnet pattern,
        ∃ r, ofParts action eports subnet iports pattern = .ok r) := by
  refine ⟨fun _ => read_eq_error_iff, fun _ _ => exists_split_of_tokenOf?, ?_, ?_⟩
  · intro field e n front rest rest' hfirst hsplit hn hrest'
    exact read_eq_error_iff.2 (.field (hfirst.replace hsplit hn hrest'))
  · intro external internal eports iports heports hiports
    exact ofParts_of_readBounds heports hiports

/-- The reversed ports are reported, and neither the address behind them nor the ports that are missing. -/
example : errorOf? (read "deny 9-8 300.1.1.1") = some (.ports (.reversed 9 8)) := by
  decide +kernel

end Rule

end PortGate
