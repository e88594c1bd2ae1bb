import PortGate.Proofs.Config.RuleLines
import PortGate.Proofs.Log.Filtering

/-! What loading says. Each line that is handled has one report, of one event at most, told by what the
line holds; the log is the reports in the order of the lines, and it stops where the loading stops. So
the rules that come into use and the lines that are left out can be counted in the log. -/

namespace PortGate
open Text

namespace Event

def added (rule : Rule) : Event := .line ("perm rule added : " ++ rule.render)

def leftOut (n : Nat) (cause : RuleError) : Event :=
  .message .warning ("ignoring permission rule at line " ++ Decimal.render n ++ ": " ++ cause.message)

def optionPassed (key : String) : Event := .line ("skipping option " ++ key)

def notUnderstood (text : String) : Event :=
  .message .error ("cannot parse option " ++ text)

def isAdded : Event → Bool
  | line text => "perm rule added : ".toList.isPrefixOf text.toList
  | message _ _ => false

def isWarning : Event → Bool
  | line _ => false
  | message priority _ => priority == .warning

variable {rule : Rule} {n : Nat} {cause : RuleError} {key text : String}

@[simp] theorem isAdded_added : (added rule).isAdded = true := by
  rw [added, isAdded, String.toList_append, List.isPrefixOf_iff_prefix]
  exact List.prefix_append _ _

@[simp] theorem isAdded_optionPassed : (optionPassed key).isAdded = false := by
  rw [optionPassed, isAdded, String.toList_append]
  rfl

@[simp] theorem isAdded_leftOut : (leftOut n cause).isAdded = false := rfl

@[simp] theorem isAdded_notUnderstood : (notUnderstood text).isAdded = false := rfl

@[simp] theorem isWarning_added : (added rule).isWarning = false := rfl

@[simp] theorem isWarning_optionPassed : (optionPassed key).isWarning = false := rfl

@[simp] theorem isWarning_leftOut : (leftOut n cause).isWarning = true := rfl

@[simp] theorem isWarning_notUnderstood : (notUnderstood text).isWarning = false := rfl

end Event

namespace ConfigLine
variable {text key : String}

def IsComment (text : String) : Prop := text.toList = [] ∨ text.toList.head? = some '#'

def HasRule (text : String) : Prop :=
  "allow".toList <+: text.toList ∨ "deny".toList <+: text.toList

theorem isComment_iff :
    (text.toList.isEmpty || text.toList.head? = some '#') = true ↔ IsComment text := by
  rw [Bool.or_eq_true, List.isEmpty_iff, decide_eq_true_iff, IsComment]

theorem classify_of_isComment (h : IsComment text) : classify text = .ignored := by
  unfold classify
  exact if_pos (isComment_iff.2 h)

theorem classify_of_hasRule (h : HasRule text) : classify text = .rule text :=
  classify_eq_rule_iff.2 ⟨beginsLikeRule_iff.2 h, rfl⟩

theorem classify_of_not_hasRule (hcomment : ¬IsComment text) (hrule : ¬HasRule text) :
    classify text =
      match splitOnce '=' text.toList with
      | some (key, _) => .option (trim (String.ofList key))
      | none => .unknown text := by
  unfold classify
  exact (if_neg (mt isComment_iff.1 hcomment)).trans (if_neg (mt beginsLikeRule_iff.1 hrule))

end ConfigLine

/-- What is said about line `n` when `text` is what stands in it behind the blanks. -/
inductive LineReport (policy : Policy) (n : Nat) (text : String) : List Event → Prop
  | ignored (hcomment : ConfigLine.IsComment text) : LineReport policy n text []
  | added {rule : Rule} (hrule : ConfigLine.HasRule text) (hread : Rule.read text = .ok rule) :
      LineReport policy n text [.added rule]
  | leftOut {cause : RuleError} (hpolicy : policy = .lenient) (hrule : ConfigLine.HasRule text)
      (hread : Rule.read text = .error cause) : LineReport policy n text [.leftOut n cause]
  | option {key value : List Char} (hcomment : ¬ConfigLine.IsComment text)
      (hrule : ¬ConfigLine.HasRule text) (htext : text.toList = key ++ '=' :: value)
      (hkey : '=' ∉ key) : LineReport policy n text [.optionPassed (trim (String.ofList key))]
  | unknown (hcomment : ¬ConfigLine.IsComment text) (hrule : ¬ConfigLine.HasRule text)
      (hmark : '=' ∉ text.toList) : LineReport policy n text [.notUnderstood text]

def ruleReport? (policy : Policy) (n : Nat) : Except RuleError Rule → Option (List Event)
  | .ok rule => some [.added rule]
  | .error cause =>
    match policy with
    | .lenient => some [.leftOut n cause]
    | .strict => none

/-- The report on a line of a kind. A line that ends the loading has none. -/
def kindReport? (policy : Policy) (n : Nat) : ConfigLine → Option (List Event)
  | .ignored => some []
  | .rule text => ruleReport? policy n (Rule.read text)
  | .option key => some [.optionPassed key]
  | .unknown text => some [.notUnderstood text]

section
variable {policy : Policy} {n : Nat} {text : String} {report : List Event}

theorem kindReport?_of_lineReport (h : LineReport policy n text report) :
    kindReport? policy n (ConfigLine.classify text) = some report := by
  cases h with
  | ignored hcomment => rw [ConfigLine.classify_of_isComment hcomment]; rfl
  | added hrule hread =>
    rw [ConfigLine.classify_of_hasRule hrule, kindReport?, hread]
    rfl
  | leftOut hpolicy hrule hread =>
    rw [ConfigLine.classify_of_hasRule hrule, kindReport?, hread, hpolicy]
    rfl
  | option hcomment hrule htext hkey =>
    rw [ConfigLine.classify_of_not_hasRule hcomment hrule, splitOnce_eq_some_iff.2 ⟨hkey, htext⟩]
    rfl
  | unknown hcomment hrule hmark =>
    rw [ConfigLine.classify_of_not_hasRule hcomment hrule, splitOnce_eq_none_iff.2 hmark]
    rfl

theorem lineReport_of_kindReport? (h : kindReport? policy n (ConfigLine.classify text) = some report) :
    LineReport policy n text report := by
  by_cases hcomment : ConfigLine.IsComment text
  · rw [ConfigLine.classify_of_isComment hcomment] at h
    cases h
    exact .ignored hcomment
  · by_cases hrule : ConfigLine.HasRule text
    · rw [ConfigLine.classify_of_hasRule hrule, kindReport?] at h
      cases hread : Rule.read text with
      | ok rule =>
        rw [hread] at h
        cases h
        exact .added hrule hread
      | error cause =>
        rw [hread] at h
        cases policy with
        | lenient =>
          cases h
          exact .leftOut rfl hrule hread
        | strict => cases h
    · rw [ConfigLine.classify_of_not_hasRule hcomment hrule] at h
      cases hsplit : splitOnce '=' text.toList with
      | some parts =>
        obtain ⟨key, value⟩ := parts
        obtain ⟨hkey, htext⟩ := splitOnce_eq_some_iff.1 hsplit
        rw [hsplit] at h
        cases h
        exact .option hcomment hrule htext hkey
      | none =>
        rw [hsplit] at h
        cases h
        exact .unknown hcomment hrule (splitOnce_eq_none_iff.1 hsplit)

theorem lineReport_iff :
    LineReport policy n text report ↔ kindReport? policy n (ConfigLine.classify text) = some report :=
  ⟨kindReport?_of_lineReport, lineReport_of_kindReport?⟩

end

def lineReport? (policy : Policy) (n : Nat) (line : List UInt8) : Option (List Event) :=
  (ConfigLine.ofBytes? line).bind (kindReport? policy n)

def lineReports (policy : Policy) : (n : Nat) → List (List UInt8) → List (List Event)
  | _, [] => []
  | n, line :: lines =>
    match lineReport? policy n line with
    | some report => report :: lineReports policy (n + 1) lines
    | none => []

section
variable {policy : Policy} {n : Nat} {line : List UInt8} {lines : List (List UInt8)}
  {report : List Event}

theorem run_readLogged_events (text : String) :
    ((Rule.readLogged text).run .initial).events =
      match Rule.read text with
      | .ok rule => [.added rule]
      | .error _ => [] := by
  unfold Rule.readLogged
  cases Rule.read text with
  | ok rule => rfl
  | error cause => rfl

theorem loadLine_report (policy : Policy) (n : Nat) (line : List UInt8) :
    match lineReport? policy n line with
    | some report =>
      ((loadLine policy n line).run .initial).events = report ∧
        ∃ first, lineOutcome policy n line = .ok first ∧
          report.filter Event.isAdded = first.rules.map Event.added ∧
          report.countP Event.isWarning = first.skipped
    | none =>
      ((loadLine policy n line).run .initial).events = [] ∧
        ∃ e, lineOutcome policy n line = .error e := by
  rw [loadLine, lineOutcome, lineReport?]
  cases ConfigLine.ofBytes? line with
  | none => exact ⟨rfl, _, rfl⟩
  | some kind =>
    rw [Option.bind_some]
    cases kind with
    | ignored => exact ⟨rfl, _, rfl, rfl, rfl⟩
    | rule text =>
      simp only [kindReport?, Logged.run_bind, Rule.run_readLogged_value, run_readLogged_events]
      cases Rule.read text with
      | ok rule => exact ⟨rfl, _, rfl, by simp, by simp⟩
      | error cause =>
        cases policy with
        | strict => exact ⟨rfl, _, rfl⟩
        | lenient => exact ⟨rfl, _, rfl, by simp, by simp⟩
    | option key => exact ⟨rfl, _, rfl, by simp [Loaded.empty], by simp [Loaded.empty]⟩
    | unknown text => exact ⟨rfl, _, rfl, by simp [Loaded.empty], by simp [Loaded.empty]⟩

theorem run_loadLines_events (policy : Policy) (n : Nat) (lines : List (List UInt8)) :
    ((loadLines policy n lines).run .initial).events = (lineReports policy n lines).flatten := by
  induction lines generalizing n with
  | nil => rfl
  | cons line lines ih =>
    have hline := loadLine_report policy n line
    rw [loadLines_cons, Logged.run_bind, run_loadLine_value, lineReports]
    cases hreport : lineReport? policy n line with
    | none =>
      rw [hreport] at hline
      obtain ⟨hevents, e, he⟩ := hline
      rw [hevents, he]
      rfl
    | some report =>
      rw [hreport] at hline
      obtain ⟨hevents, first, hfirst, -⟩ := hline
      rw [hevents, hfirst]
      simp only [Logged.run_map, ih, List.flatten_cons]

theorem lineReports_getElem? {k : Nat} (h : (lineReports policy n lines)[k]? = some report) :
    ∃ line, lines[k]? = some line ∧ lineReport? policy (n + k) line = some report := by
  induction lines generalizing n k with
  | nil => cases h
  | cons line lines ih =>
    rw [lineReports] at h
    cases hreport : lineReport? policy n line with
    | none => simp [hreport] at h
    | some first =>
      rw [hreport] at h
      cases k with
      | zero => exact ⟨line, rfl, hreport.trans h⟩
      | succ k =>
        obtain ⟨found, hfound, hlater⟩ := ih h
        have hnumber : n + (k + 1) = n + 1 + k := by omega
        exact ⟨found, hfound, hnumber ▸ hlater⟩

theorem lineReports_of_ok {loaded : Loaded} (h : linesOutcome policy n lines = .ok loaded) :
    (lineReports policy n lines).length = lines.length ∧
      (lineReports policy n lines).flatten.filter Event.isAdded = loaded.rules.map Event.added ∧
      (lineReports policy n lines).flatten.countP Event.isWarning = loaded.skipped := by
  induction lines generalizing n loaded with
  | nil =>
    cases h
    exact ⟨rfl, rfl, rfl⟩
  | cons line lines ih =>
    have hline := loadLine_report policy n line
    rw [linesOutcome] at h
    rw [lineReports]
    cases hreport : lineReport? policy n line with
    | none =>
      rw [hreport] at hline
      obtain ⟨-, e, he⟩ := hline
      rw [he] at h
      cases h
    | some report =>
      rw [hreport] at hline
      obtain ⟨-, first, hfirst, hadded, hwarned⟩ := hline
      rw [hfirst] at h
      obtain ⟨later, hlater, rfl⟩ := map_eq_ok_iff.1 h
      obtain ⟨hlength, hrules, hskipped⟩ := ih hlater
      refine ⟨by simp [hlength], ?_, ?_⟩
      · simp [hadded, hrules, Loaded.append]
      · simp [hwarned, hskipped, Loaded.append]

theorem lineReports_of_error {e : LoadError} (h : linesOutcome policy n lines = .error e) :
    ∃ line, lines[(lineReports policy n lines).length]? = some line ∧
      lineOutcome policy (n + (lineReports policy n lines).length) line = .error e := by
  induction lines generalizing n with
  | nil => cases h
  | cons line lines ih =>
    have hline := loadLine_report policy n line
    rw [linesOutcome] at h
    rw [lineReports]
    cases hreport : lineReport? policy n line with
    | none =>
      rw [hreport] at hline
      obtain ⟨-, e', he⟩ := hline
      rw [he] at h
      exact ⟨line, rfl, he.trans h⟩
    | some report =>
      rw [hreport] at hline
      obtain ⟨-, first, hfirst, -⟩ := hline
      rw [hfirst] at h
      obtain ⟨found, hfound, hfails⟩ := ih (map_eq_error_iff.1 h)
      refine ⟨found, by simpa using hfound, ?_⟩
      rw [List.length_cons, ← Nat.add_assoc, Nat.add_right_comm]
      exact hfails

theorem lineReport_iff_of_lineReport? (h : lineReport? policy n line = some report) :
    ∃ text, (decode? line).map ConfigLine.prepare = some text ∧
      ∀ other, LineReport policy n text other ↔ other = report := by
  rw [lineReport?, ConfigLine.ofBytes?] at h
  cases hdecode : decode? line with
  | none => simp [hdecode] at h
  | some content =>
    rw [hdecode, Option.map_some, Option.bind_some] at h
    refine ⟨ConfigLine.prepare content, rfl, fun other => ?_⟩
    rw [lineReport_iff, h, Option.some.injEq, eq_comm]

theorem LineReport.length_le_one {text : String} (h : LineReport policy n text report) :
    report.length ≤ 1 := by
  cases h with
  | ignored => exact Nat.zero_le 1
  | _ => exact Nat.le_refl 1

theorem lineOutcome_eq_error_iff_prepare {e : LoadError} :
    lineOutcome policy n line = .error e ↔
      (decode? line = none ∧ e = .io .invalidText) ∨
      ∃ text cause, policy = .strict ∧ (decode? line).map ConfigLine.prepare = some text ∧
        ConfigLine.HasRule text ∧ Rule.read text = .error cause ∧ e = .rule n cause := by
  have hnone : ConfigLine.ofBytes? line = none ↔ decode? line = none := Option.map_eq_none_iff
  have hrule (text : String) : ConfigLine.ofBytes? line = some (.rule text) ↔
      (decode? line).map ConfigLine.prepare = some text ∧ ConfigLine.HasRule text := by
    rw [ofBytes?_eq_rule_iff, ruleText?_eq_some_iff_prepare]
    simp only [Option.map_eq_some_iff, decode?_eq_some_iff, beginsLikeRule_iff,
      ConfigLine.HasRule]
    grind
  simp only [lineOutcome_eq_error_iff, hnone, hrule, and_assoc]

end

/-- Every line is accounted for once. The log is the reports on the lines that were handled, in order,
and each of these lines has that one report, of one event at most. When the loading succeeds there is
a report on every line, the rules that were added are those that are loaded, and there are as many
warnings as lines left out. When it fails the reports are those of the lines before the one that fails. -/
theorem load_accounts_for_lines (policy : Policy) (bytes : List UInt8) (mask : LogMask) :
    ∃ reports : List (List Event),
      ((load policy bytes).run .initial).events = reports.flatten ∧
      ((load policy bytes).run mask).events = reports.flatten.filter mask.passes ∧
      (∀ k report, reports[k]? = some report → report.length ≤ 1 ∧
        ∃ line text, (lines bytes)[k]? = some line ∧
          (decode? line).map ConfigLine.prepare = some text ∧
          ∀ other, LineReport policy (k + 1) text other ↔ other = report) ∧
      match ((load policy bytes).run mask).value with
      | .ok loaded =>
        reports.length = (lines bytes).length ∧
          reports.flatten.filter Event.isAdded = loaded.rules.map Event.added ∧
          reports.flatten.countP Event.isWarning = loaded.skipped
      | .error e =>
        ∃ line, (lines bytes)[reports.length]? = some line ∧
          ((decode? line = none ∧ e = .io .invalidText) ∨
            ∃ text cause, policy = .strict ∧ (decode? line).map ConfigLine.prepare = some text ∧
              ConfigLine.HasRule text ∧ Rule.read text = .error cause ∧
              e = .rule (reports.length + 1) cause) := by
  have hevents : ((load policy bytes).run .initial).events =
      (lineReports policy 1 (lines bytes)).flatten := run_loadLines_events policy 1 (lines bytes)
  refine ⟨lineReports policy 1 (lines bytes), hevents, ?_, fun k report h => ?_, ?_⟩
  · rw [(filtered_load policy bytes).events_eq mask, hevents]
  · obtain ⟨line, hline, hreport⟩ := lineReports_getElem? h
    obtain ⟨text, htext, hunique⟩ := lineReport_iff_of_lineReport? hreport
    rw [Nat.add_comm 1 k] at hunique
    exact ⟨((hunique report).2 rfl).length_le_one, line, text, hline, htext, hunique⟩
  · rw [run_load_value]
    cases houtcome : linesOutcome policy 1 (lines bytes) with
    | ok loaded => exact lineReports_of_ok houtcome
    | error e =>
      obtain ⟨line, hline, hfails⟩ := lineReports_of_error houtcome
      rw [Nat.add_comm 1] at hfails
      exact ⟨line, hline, lineOutcome_eq_error_iff_prepare.1 hfails⟩

end PortGate
