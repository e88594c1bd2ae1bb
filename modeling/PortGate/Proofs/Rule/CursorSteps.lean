import PortGate.Proofs.Rule.Grammar
import PortGate.Proofs.Text.ByteTokens

/-! Steps of a cursor, one after another and in any order. Whatever is asked of it, and whether it fails or
not, a cursor that starts in front of a line stands between two characters of the line: what it has
passed over and what is left make up the line, and its tokens are those of the characters. -/

namespace PortGate.Cursor
open Text

inductive Step where
  | skip
  | token (field : Field)
  | action
  | bounds (field : Field)
  | subnet
  | pattern
  deriving DecidableEq, Repr

/-- How far a step goes: over separators, over the token behind them as well, or over all that is left. -/
inductive Reach where
  | gap
  | token (field : Field)
  | rest
  deriving DecidableEq, Repr

def Step.reach : Step → Reach
  | skip => .gap
  | token field => .token field
  | action => .token .action
  | bounds field => .token field
  | subnet => .token .subnet
  | pattern => .rest

def Step.result : Step → Cursor → Except RuleError Cursor
  | skip, c => .ok c.skipSeparators
  | token field, c => (c.token field).map Prod.snd
  | action, c => c.action.map Prod.snd
  | bounds field, c => (c.bounds field).map Prod.snd
  | subnet, c => c.subnet.map Prod.snd
  | pattern, c => c.pattern.map Prod.snd

def pastToken (c : Cursor) : Cursor :=
  (c.skipSeparators.takeWhile fun b => !isSeparatorByte b).2

def Reach.stop : Reach → Cursor → Cursor
  | gap, c => c.skipSeparators
  | token _, c => c.pastToken
  | rest, c => { c with pos := c.line.utf8ByteSize }

/-- The cursor that a step leaves. A step that fails has gone as far as one that does not: it refuses what
it has passed over. -/
def Step.apply (s : Step) (c : Cursor) : Cursor :=
  match s.result c with
  | .ok next => next
  | .error _ => s.reach.stop c

def Reach.cuts : Reach → Cursor → List (Nat × Nat)
  | gap, c => [(c.pos, c.skipSeparators.pos)]
  | token _, c => [(c.pos, c.skipSeparators.pos), (c.skipSeparators.pos, c.pastToken.pos)]
  | rest, c => [(c.pos, c.line.utf8ByteSize)]

def Reach.pieces : Reach → Cursor → List String
  | gap, c => [(c.takeWhile isSeparatorByte).1]
  | token _, c =>
    [(c.takeWhile isSeparatorByte).1, (c.skipSeparators.takeWhile fun b => !isSeparatorByte b).1]
  | rest, c => [c.rest]

def Reach.found : Reach → Cursor → List String
  | token field, c => ((c.token field).toOption.map Prod.fst).toList
  | gap, _ | rest, _ => []

def afterSteps (steps : List Step) (c : Cursor) : Cursor :=
  steps.foldl (fun c s => s.apply c) c

def passed : List Step → Cursor → List String
  | [], _ => []
  | s :: steps, c => s.reach.pieces c ++ passed steps (s.apply c)

def found : List Step → Cursor → List String
  | [], _ => []
  | s :: steps, c => s.reach.found c ++ found steps (s.apply c)

/-- How many steps go over a token before one goes over all that is left. -/
def tokenSteps : List Step → Nat
  | [] => 0
  | s :: steps =>
    match s.reach with
    | .gap => tokenSteps steps
    | .token _ => tokenSteps steps + 1
    | .rest => 0

/-- A piece of a line that begins and ends between characters, so that its bytes are a text. -/
structure CleanCut (line : String) (first last : Nat) : Prop where
  le : first ≤ last
  first_valid : (⟨first⟩ : String.Pos.Raw).IsValid line
  last_valid : (⟨last⟩ : String.Pos.Raw).IsValid line
  decodes : decode? (((encode line).drop first).take (last - first)) = some (slice line first last)

/-! ### One step -/

def Reach.parts : Reach → List Char → List (List Char)
  | gap, after => [after.takeWhile isSeparator]
  | token _, after => [after.takeWhile isSeparator, firstToken after]
  | rest, after => [after]

def Reach.left : Reach → List Char → List Char
  | gap, after => after.dropWhile isSeparator
  | token _, after => afterToken after
  | rest, _ => []

section
variable (before after : List Char)

theorem pastToken_between :
    (between before after).pastToken =
      between (before ++ after.takeWhile isSeparator ++ firstToken after) (afterToken after) := by
  rw [pastToken, skipSeparators_between, takeWhile_between _ _ isSeparatorByte_follows.not]
  rfl

theorem restStop_between :
    Reach.rest.stop (between before after) = between (before ++ after) [] := by
  simp [Reach.stop, between]

theorem Reach.flatten_parts_append_left (r : Reach) :
    (r.parts after).flatten ++ r.left after = after := by
  cases r with
  | gap => simp [parts, left, List.takeWhile_append_dropWhile]
  | token field =>
    simp [parts, left, firstToken_append_afterToken, List.takeWhile_append_dropWhile]
  | rest => simp [parts, left]

theorem Reach.stop_between (r : Reach) :
    r.stop (between before after) = between (before ++ (r.parts after).flatten) (r.left after) := by
  cases r with
  | gap => simp [stop, parts, left, skipSeparators_between]
  | token field => simp [stop, parts, left, pastToken_between]
  | rest => simp [restStop_between, parts, left]

theorem Reach.pieces_between (r : Reach) :
    r.pieces (between before after) = (r.parts after).map String.ofList := by
  cases r with
  | gap => simp [pieces, parts, takeWhile_between before after isSeparatorByte_follows]
  | token field =>
    simp [pieces, parts, takeWhile_between before after isSeparatorByte_follows,
      skipSeparators_between, takeWhile_between _ _ isSeparatorByte_follows.not, firstToken]
  | rest => simp [pieces, parts, rest_between]

theorem Reach.pieces_eq_slices (r : Reach) (c : Cursor) :
    r.pieces c = (r.cuts c).map fun cut => slice c.line cut.1 cut.2 := by
  cases r <;> rfl

end

section
variable {before after gap token rest : List Char} {next : Cursor}

theorem pastToken_of_cut (h : Cut after gap token rest) :
    between (before ++ gap ++ token) rest = (between before after).pastToken := by
  obtain ⟨rfl, rfl, rfl⟩ := h.eq_firstToken
  exact (pastToken_between before after).symm

theorem Step.eq_stop_of_result {s : Step} (h : s.result (between before after) = .ok next) :
    next = s.reach.stop (between before after) := by
  cases s with
  | skip => exact (Except.ok.inj h).symm
  | token field =>
    rw [result, map_eq_ok_iff] at h
    obtain ⟨⟨text, next⟩, htoken, rfl⟩ := h
    obtain ⟨_, _, _, hcut, -, rfl⟩ := token_between_eq_ok_iff.1 htoken
    exact pastToken_of_cut hcut
  | action =>
    rw [result, map_eq_ok_iff] at h
    obtain ⟨⟨a, next⟩, haction, rfl⟩ := h
    obtain ⟨_, _, _, hcut, -, rfl⟩ := action_between_eq_ok_iff.1 haction
    exact pastToken_of_cut hcut
  | bounds field =>
    rw [result, map_eq_ok_iff] at h
    obtain ⟨⟨ends, next⟩, hbounds, rfl⟩ := h
    obtain ⟨_, _, _, _, hcut, -, -, rfl⟩ := bounds_between_eq_ok_iff.1 hbounds
    exact pastToken_of_cut hcut
  | subnet =>
    rw [result, map_eq_ok_iff] at h
    obtain ⟨⟨s, next⟩, hsubnet, rfl⟩ := h
    obtain ⟨_, _, _, hcut, -, rfl⟩ := subnet_between_eq_ok_iff.1 hsubnet
    exact pastToken_of_cut hcut
  | pattern =>
    rw [result, map_eq_ok_iff] at h
    obtain ⟨⟨p, next⟩, hpattern, rfl⟩ := h
    obtain ⟨-, rfl⟩ := pattern_between_eq_ok_iff.1 hpattern
    exact (restStop_between before after).symm

theorem Step.apply_between (s : Step) (before after : List Char) :
    s.apply (between before after) =
      between (before ++ (s.reach.parts after).flatten) (s.reach.left after) := by
  rw [← Reach.stop_between, apply]
  cases hresult : s.result (between before after) with
  | error e => rfl
  | ok next => exact eq_stop_of_result hresult

end

/-! ### Where the line is cut -/

theorem cleanCut_between (before part rest : List Char) :
    CleanCut (String.ofList (before ++ (part ++ rest))) (between before (part ++ rest)).pos
      (between (before ++ part) rest).pos := by
  have hlast : (between (before ++ part) rest).pos =
      (String.ofList before).utf8ByteSize + (String.ofList part).utf8ByteSize :=
    utf8ByteSize_ofList_append before part
  refine ⟨?_, ?_, ?_, ?_⟩
  · rw [hlast]
    exact Nat.le_add_right _ _
  · rw [String.ofList_append]
    exact String.Pos.Raw.isValid_rawEndPos.append_right _
  · rw [← List.append_assoc, String.ofList_append]
    exact String.Pos.Raw.isValid_rawEndPos.append_right _
  · rw [hlast, between, slice_between, Nat.add_sub_cancel_left, decode?_between]

theorem Reach.cleanCut_of_mem_cuts (r : Reach) (before after : List Char) {cut : Nat × Nat}
    (h : cut ∈ r.cuts (between before after)) :
    CleanCut (String.ofList (before ++ after)) cut.1 cut.2 := by
  have hgap : CleanCut (String.ofList (before ++ after)) (between before after).pos
      (between before after).skipSeparators.pos := by
    have hcut := cleanCut_between before (after.takeWhile isSeparator) (after.dropWhile isSeparator)
    rwa [List.takeWhile_append_dropWhile, ← skipSeparators_between] at hcut
  cases r with
  | gap =>
    obtain rfl := List.mem_singleton.1 h
    exact hgap
  | token field =>
    have htoken : CleanCut (String.ofList (before ++ after))
        (between before after).skipSeparators.pos (between before after).pastToken.pos := by
      have hcut := cleanCut_between (before ++ after.takeWhile isSeparator) (firstToken after)
        (afterToken after)
      rwa [firstToken_append_afterToken, List.append_assoc, List.takeWhile_append_dropWhile,
        ← skipSeparators_between, ← pastToken_between] at hcut
    rcases List.mem_cons.1 h with rfl | h
    · exact hgap
    · obtain rfl := List.mem_singleton.1 h
      exact htoken
  | rest =>
    obtain rfl := List.mem_singleton.1 h
    have hcut := cleanCut_between before after []
    rwa [List.append_nil] at hcut

/-! ### Many steps -/

theorem afterSteps_append (steps more : List Step) (c : Cursor) :
    afterSteps (steps ++ more) c = afterSteps more (afterSteps steps c) :=
  List.foldl_append

theorem join_map_ofList (parts : List (List Char)) :
    String.join (parts.map String.ofList) = String.ofList parts.flatten := by
  induction parts with
  | nil => rfl
  | cons part parts ih =>
    rw [List.map_cons, String.join_cons, ih, List.flatten_cons, String.ofList_append]

theorem afterSteps_between (steps : List Step) (before after : List Char) :
    ∃ taken rest, after = taken ++ rest ∧
      afterSteps steps (between before after) = between (before ++ taken) rest ∧
      String.join (passed steps (between before after)) = String.ofList taken := by
  induction steps generalizing before after with
  | nil => exact ⟨[], after, rfl, by rw [List.append_nil]; rfl, rfl⟩
  | cons s steps ih =>
    obtain ⟨taken, rest, hleft, hstop, hjoin⟩ :=
      ih (before ++ (s.reach.parts after).flatten) (s.reach.left after)
    refine ⟨(s.reach.parts after).flatten ++ taken, rest, ?_, ?_, ?_⟩
    · rw [List.append_assoc, ← hleft, Reach.flatten_parts_append_left]
    · rw [← List.append_assoc, ← hstop, ← Step.apply_between]
      rfl
    · rw [passed, String.join_append, Step.apply_between, hjoin, Reach.pieces_between,
        join_map_ofList, String.ofList_append]

theorem Reach.found_token_between (field : Field) (before after : List Char) :
    (Reach.token field).found (between before after) =
      (tokensOf after).head?.toList.map String.ofList := by
  rw [found, token_between, head?_tokensOf]
  split
  · rfl
  · rfl

theorem found_between (steps : List Step) (before after : List Char) :
    found steps (between before after) =
      ((tokensOf after).take (tokenSteps steps)).map String.ofList := by
  induction steps generalizing before after with
  | nil => rfl
  | cons s steps ih =>
    rw [found, Step.apply_between, ih]
    cases hreach : s.reach with
    | gap =>
      rw [tokenSteps, hreach, Reach.found, Reach.left, tokensOf_dropWhile, List.nil_append]
    | token field =>
      rw [tokenSteps, hreach, Reach.found_token_between, Reach.left, tokensOf_afterToken,
        ← List.map_append]
      cases tokensOf after with
      | nil => simp
      | cons token tokens => simp
    | rest =>
      rw [tokenSteps, hreach]
      simp [Reach.found, Reach.left]

/-- Whatever a cursor is asked, and in whatever order: it never goes back and never leaves the line; it
cuts the line between characters only, so that no piece of it is lost; what it has passed over and
what is left make up the line; and the tokens that it finds byte by byte are those of the characters. -/
theorem cursor_keeps_characters (line : String) (steps : List Step) :
    (∀ more, (afterSteps steps (start line)).pos ≤ (afterSteps (steps ++ more) (start line)).pos) ∧
    (afterSteps steps (start line)).pos ≤ line.utf8ByteSize ∧
    (∀ s : Step,
      s.reach.pieces (afterSteps steps (start line)) =
        (s.reach.cuts (afterSteps steps (start line))).map (fun cut => slice line cut.1 cut.2) ∧
      ∀ cut ∈ s.reach.cuts (afterSteps steps (start line)), CleanCut line cut.1 cut.2) ∧
    String.join (passed steps (start line)) ++ (afterSteps steps (start line)).rest = line ∧
    found steps (start line) =
      ((tokensOf line.toList).take (tokenSteps steps)).map String.ofList ∧
    byteTokensOf (encode line) =
      (tokensOf line.toList).map fun token => encode (String.ofList token) := by
  obtain ⟨taken, rest, hline, hstop, hjoin⟩ := afterSteps_between steps [] line.toList
  rw [← start_eq_between] at hstop hjoin
  rw [List.nil_append] at hstop
  have htext : String.ofList (taken ++ rest) = line := by
    rw [← hline, String.ofList_toList]
  refine ⟨fun more => ?_, ?_, fun s => ⟨?_, fun cut hcut => ?_⟩, ?_, ?_, ?_⟩
  · obtain ⟨later, left, -, hlater, -⟩ := afterSteps_between more taken rest
    rw [afterSteps_append, hstop, hlater, between, between, utf8ByteSize_ofList_append]
    exact Nat.le_add_right _ _
  · rw [hstop, between, ← htext, utf8ByteSize_ofList_append]
    exact Nat.le_add_right _ _
  · rw [Reach.pieces_eq_slices, hstop]
    rw [show (between taken rest).line = line from htext]
  · rw [hstop] at hcut
    rw [← htext]
    exact s.reach.cleanCut_of_mem_cuts taken rest hcut
  · rw [hjoin, hstop, rest_between, ← String.ofList_append, htext]
  · rw [start_eq_between, found_between]
  · have hbytes := byteTokensOf_encode line.toList
    rwa [String.ofList_toList] at hbytes

theorem cursor_keeps_characters_accented :
    (3, 5) ∈ (Step.token .externalPort).reach.cuts (afterSteps [.action] (start "É\tä  x")) ∧
      CleanCut "É\tä  x" 3 5 := by
  obtain ⟨-, -, hcuts, -⟩ := cursor_keeps_characters "É\tä  x" [.action]
  have hmem : (3, 5) ∈
      (Step.token .externalPort).reach.cuts (afterSteps [.action] (start "É\tä  x")) := by
    decide +kernel
  exact ⟨hmem, (hcuts (.token .externalPort)).2 (3, 5) hmem⟩

end PortGate.Cursor
