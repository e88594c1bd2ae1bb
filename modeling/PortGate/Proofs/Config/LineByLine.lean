import PortGate.Config.Loader
import PortGate.Proofs.Rule.Reading

/-! Loading goes line by line. Every line makes its own contribution, or ends the loading, whatever
the lines before it were; only its number is carried from line to line. What comes of it does not
depend on what is logged. -/

namespace PortGate
open Text

namespace Loaded

def append (first second : Loaded) : Loaded :=
  ⟨first.rules ++ second.rules, first.skipped + second.skipped⟩

@[simp] theorem empty_append (loaded : Loaded) : empty.append loaded = loaded := by
  simp [append, empty]

theorem withRule_eq_append (loaded : Loaded) (rule : Rule) :
    loaded.withRule rule = append ⟨[rule], 0⟩ loaded := by
  simp [withRule, append]

theorem withSkipped_eq_append (loaded : Loaded) :
    loaded.withSkipped = append ⟨[], 1⟩ loaded := by
  simp [withSkipped, append, Nat.add_comm]

end Loaded

/-- The step of one line, which has number `n`: its events and its contribution. -/
def loadLine (policy : Policy) (n : Nat) (line : List UInt8) : Logged (Except LoadError Loaded) :=
  match ConfigLine.ofBytes? line with
  | none => return .error (.io .invalidText)
  | some .ignored => return .ok .empty
  | some (.rule text) => do
    match ← Rule.readLogged text with
    | .ok rule => return .ok ⟨[rule], 0⟩
    | .error cause =>
      match policy with
      | .strict => return .error (.rule n cause)
      | .lenient =>
        Logged.message .warning
          ("ignoring permission rule at line " ++ Decimal.render n ++ ": " ++ cause.message)
        return .ok ⟨[], 1⟩
  | some (.option key) => do
    Logged.line ("skipping option " ++ key)
    return .ok .empty
  | some (.unknown text) => do
    Logged.message .error ("cannot parse option " ++ text)
    return .ok .empty

theorem map_empty_append (outcome : Except LoadError Loaded) :
    outcome.map Loaded.empty.append = outcome := by
  cases outcome with
  | error e => rfl
  | ok loaded => exact congrArg Except.ok loaded.empty_append

theorem loadLines_cons (policy : Policy) (n : Nat) (line : List UInt8) (lines : List (List UInt8)) :
    loadLines policy n (line :: lines) =
      loadLine policy n line >>= fun
        | .error e => return .error e
        | .ok first => (·.map first.append) <$> loadLines policy (n + 1) lines := by
  rw [loadLines.eq_def, loadLine]
  dsimp only
  apply Logged.ext
  intro mask
  cases ConfigLine.ofBytes? line with
  | none => rfl
  | some kind =>
    cases kind with
    | ignored => simp [map_empty_append]
    | rule text =>
      simp only [Logged.run_bind, Rule.run_readLogged_value]
      cases Rule.read text with
      | ok rule => simp [Loaded.withRule_eq_append]
      | error cause =>
        cases policy with
        | strict => simp
        | lenient => simp [Loaded.withSkipped_eq_append]
    | option key => simp [map_empty_append]
    | unknown text => simp [map_empty_append]

def lineOutcome (policy : Policy) (n : Nat) (line : List UInt8) : Except LoadError Loaded :=
  match ConfigLine.ofBytes? line with
  | none => .error (.io .invalidText)
  | some (.rule text) =>
    match Rule.read text, policy with
    | .ok rule, _ => .ok ⟨[rule], 0⟩
    | .error cause, .strict => .error (.rule n cause)
    | .error _, .lenient => .ok ⟨[], 1⟩
  | some _ => .ok .empty

theorem run_loadLine_value (policy : Policy) (n : Nat) (line : List UInt8) (mask : LogMask) :
    ((loadLine policy n line).run mask).value = lineOutcome policy n line := by
  rw [loadLine, lineOutcome]
  cases ConfigLine.ofBytes? line with
  | none => rfl
  | some kind =>
    cases kind with
    | ignored => rfl
    | rule text =>
      simp only [Logged.run_bind, Rule.run_readLogged_value]
      cases Rule.read text with
      | ok rule => rfl
      | error cause => cases policy <;> rfl
    | option key => rfl
    | unknown text => rfl

def linesOutcome (policy : Policy) : (n : Nat) → List (List UInt8) → Except LoadError Loaded
  | _, [] => .ok .empty
  | n, line :: lines =>
    match lineOutcome policy n line with
    | .error e => .error e
    | .ok first => (linesOutcome policy (n + 1) lines).map first.append

theorem run_loadLines_value (policy : Policy) (n : Nat) (lines : List (List UInt8))
    (mask : LogMask) :
    ((loadLines policy n lines).run mask).value = linesOutcome policy n lines := by
  -- the number is all that differs from one line to the next, so it stays free
  induction lines generalizing n with
  | nil => rfl
  | cons line lines ih =>
    rw [loadLines_cons, Logged.run_bind, run_loadLine_value, linesOutcome]
    cases lineOutcome policy n line with
    | error e => rfl
    | ok first => rw [Logged.run_map, ih]

theorem run_load_value (policy : Policy) (bytes : List UInt8) (mask : LogMask) :
    ((load policy bytes).run mask).value = linesOutcome policy 1 (lines bytes) :=
  run_loadLines_value policy 1 (lines bytes) mask

def fileOutcome (policy : Policy) : FileContent → Except LoadError Loaded
  | .unreadable fault => .error (.io fault)
  | .bytes content => linesOutcome policy 1 (lines content)

theorem run_loadFile_value (policy : Policy) (name : String) (content : FileContent)
    (mask : LogMask) :
    ((loadFile policy name content).run mask).value = fileOutcome policy content := by
  cases content with
  | unreadable fault => rfl
  | bytes content => exact run_load_value policy content mask

theorem lineOutcome_eq_error_iff {policy : Policy} {n : Nat} {line : List UInt8} {e : LoadError} :
    lineOutcome policy n line = .error e ↔
      (ConfigLine.ofBytes? line = none ∧ e = .io .invalidText) ∨
      ∃ text cause, policy = .strict ∧ ConfigLine.ofBytes? line = some (.rule text) ∧
        Rule.read text = .error cause ∧ e = .rule n cause := by
  unfold lineOutcome
  cases ConfigLine.ofBytes? line with
  | none => simp [eq_comm]
  | some kind =>
    cases kind with
    | ignored => simp
    | rule text =>
      cases hread : Rule.read text with
      | ok rule => simp [hread]
      | error cause =>
        cases policy with
        | lenient => simp [hread]
        | strict => simp [hread, eq_comm]
    | option key => simp
    | unknown text => simp

theorem exists_lineOutcome_of_linesOutcome {policy : Policy} {n : Nat} {lines : List (List UInt8)}
    {e : LoadError} (h : linesOutcome policy n lines = .error e) :
    ∃ k line, lines[k]? = some line ∧ lineOutcome policy (n + k) line = .error e := by
  induction lines generalizing n with
  | nil => cases h
  | cons line lines ih =>
    rw [linesOutcome] at h
    cases hline : lineOutcome policy n line with
    | error e' =>
      rw [hline] at h
      exact ⟨0, line, rfl, hline.trans h⟩
    | ok first =>
      simp only [hline, map_eq_error_iff] at h
      obtain ⟨k, found, hfound, herror⟩ := ih h
      have hnumber : n + (k + 1) = n + 1 + k := by omega
      exact ⟨k + 1, found, hfound, hnumber ▸ herror⟩

inductive LoadFailure (policy : Policy) : FileContent → LoadError → Prop where
  | unreadable (fault : IoFault) : LoadFailure policy (.unreadable fault) (.io fault)
  | badText {content line : List UInt8} (hline : line ∈ lines content)
      (htext : decode? line = none) : LoadFailure policy (.bytes content) (.io .invalidText)
  | badRule {content line : List UInt8} {k : Nat} {text : String} {cause : RuleError}
      (hstrict : policy = .strict) (hline : (lines content)[k]? = some line)
      (hrule : ConfigLine.ofBytes? line = some (.rule text))
      (hread : Rule.read text = .error cause) :
      LoadFailure policy (.bytes content) (.rule (k + 1) cause)

theorem loadFailure_of_load {policy : Policy} {content : List UInt8} {mask : LogMask}
    {e : LoadError} (h : ((load policy content).run mask).value = .error e) :
    LoadFailure policy (.bytes content) e := by
  rw [run_load_value] at h
  obtain ⟨k, line, hfound, hline⟩ := exists_lineOutcome_of_linesOutcome h
  rcases lineOutcome_eq_error_iff.1 hline with ⟨hnone, rfl⟩ | ⟨text, cause, hstrict, hrule, hread, rfl⟩
  · exact .badText (List.mem_of_getElem? hfound) (Option.map_eq_none_iff.1 hnone)
  · rw [Nat.add_comm 1 k]
    exact .badRule hstrict hfound hrule hread

end PortGate
