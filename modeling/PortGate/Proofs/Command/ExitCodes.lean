import PortGate.Proofs.Command.Agreement
import PortGate.Proofs.Command.Settings
import PortGate.Proofs.Config.Policies
import PortGate.Proofs.RuleList.DumpText

/-! What an exit code says. A run asks for help or the version, has a defect, or asks a command about
the rules in force. With a defect nothing is written and the code is 2. A command is refused with
the code 1 only by a rule or for want of a port, so neither 0 nor 1 hides a defect. -/

namespace PortGate.Command
open Text

/-! ### How the options of a command line end -/

def optionWords : List String := ["-h", "--help", "--version", "-f", "-A", "-S", "-d", "-v", "-vv"]

/-- What can stand behind complete settings, and what the reading makes of it. -/
inductive OptionsEnd : List String → (Options → Invocation) → Prop where
  | words {words : List String} (h : StartsPlain words) :
      OptionsEnd words fun o => .run { o with words := words }
  | help {option : String} (h : option = "-h" ∨ option = "--help") (rest : List String) :
      OptionsEnd (option :: rest) fun _ => .help
  | version (rest : List String) : OptionsEnd ("--version" :: rest) fun _ => .version
  | valueMissing {option : String} (h : option = "-f" ∨ option = "-A") :
      OptionsEnd [option] fun _ => .valueMissing
  | unknownOption {option : String} (hdash : startsWithDash option = true)
      (hunknown : option ∉ optionWords) (rest : List String) :
      OptionsEnd (option :: rest) fun _ => .unknownOption option

def Switch.IsText : Switch → String → Prop
  | .help, text => text = "-h" ∨ text = "--help"
  | .version, text => text = "--version"
  | .file, text => text = "-f"
  | .line, text => text = "-A"
  | .strict, text => text = "-S"
  | .showMessages, text => text = "-d"
  | .verbosity v, text => (v = .verbose ∧ text = "-v") ∨ (v = .debug ∧ text = "-vv")
  | .unknown, text => text ∉ optionWords

theorem Switch.isText_of_ofText {text : String} {switch : Switch} (h : ofText text = switch) :
    switch.IsText text := by
  unfold ofText at h
  split at h <;> subst h
  case h_10 => simp_all [IsText, optionWords]
  all_goals simp [IsText]

theorem Switch.ofText_of_not_mem {text : String} (h : text ∉ optionWords) :
    ofText text = .unknown := by
  simp only [optionWords, List.mem_cons, not_or] at h
  unfold ofText
  split <;> simp_all

theorem OptionsEnd.readOptions {rest : List String} {next : Options → Invocation}
    (h : OptionsEnd rest next) (o : Options) : Command.readOptions o rest = next o := by
  cases h with
  | words h => exact readOptions_of_startsPlain h o
  | help h rest => rcases h with rfl | rfl <;> (rw [readOptions.eq_def]; rfl)
  | version rest => rw [readOptions.eq_def]; rfl
  | valueMissing h => rcases h with rfl | rfl <;> (rw [readOptions.eq_def]; rfl)
  | unknownOption hdash hunknown rest =>
    rw [readOptions.eq_def]
    dsimp only
    rw [if_pos hdash, Switch.ofText_of_not_mem hunknown]

def Splits (args : List String) : Prop :=
  ∃ settings rest next, args = arguments settings rest ∧ OptionsEnd rest next

theorem OptionsEnd.splits {rest : List String} {next : Options → Invocation}
    (h : OptionsEnd rest next) : Splits rest :=
  ⟨[], rest, next, rfl, h⟩

theorem Splits.setting {args : List String} (h : Splits args) (setting : Setting) :
    Splits (setting.words ++ args) := by
  obtain ⟨settings, rest, next, rfl, hend⟩ := h
  exact ⟨setting :: settings, rest, next, (arguments_cons setting settings rest).symm, hend⟩

theorem splits (o : Options) (args : List String) : Splits args := by
  fun_induction readOptions o args with
  | case1 => exact (OptionsEnd.words (by simp [StartsPlain])).splits
  | case2 o option rest hdash hswitch =>
    exact (OptionsEnd.help (Switch.isText_of_ofText hswitch) rest).splits
  | case3 o option rest hdash hswitch =>
    obtain rfl : option = "--version" := Switch.isText_of_ofText hswitch
    exact (OptionsEnd.version rest).splits
  | case4 o option hdash hswitch =>
    exact (OptionsEnd.valueMissing (.inl (Switch.isText_of_ofText hswitch))).splits
  | case5 o option hdash name rest hswitch ih =>
    obtain rfl : option = "-f" := Switch.isText_of_ofText hswitch
    exact ih.setting (.file name)
  | case6 o option hdash hswitch =>
    exact (OptionsEnd.valueMissing (.inr (Switch.isText_of_ofText hswitch))).splits
  | case7 o option hdash text rest hswitch ih =>
    obtain rfl : option = "-A" := Switch.isText_of_ofText hswitch
    exact ih.setting (.line text)
  | case8 o option hdash rest hswitch ih =>
    obtain rfl : option = "-S" := Switch.isText_of_ofText hswitch
    exact ih.setting .strict
  | case9 o option hdash rest hswitch ih =>
    obtain rfl : option = "-d" := Switch.isText_of_ofText hswitch
    exact ih.setting .showMessages
  | case10 o option hdash v rest hswitch ih =>
    rcases Switch.isText_of_ofText hswitch with ⟨rfl, rfl⟩ | ⟨rfl, rfl⟩
    · exact ih.setting .verbose
    · exact ih.setting .debug
  | case11 o option rest hdash hswitch =>
    exact (OptionsEnd.unknownOption hdash (Switch.isText_of_ofText hswitch) rest).splits
  | case12 o word words hdash =>
    have hplain : StartsPlain (word :: words) := by
      simpa [StartsPlain] using hdash
    exact (OptionsEnd.words hplain).splits

/-! ### Whether rules are in force -/

section
variable {files : String → FileContent} {settings : List Setting}

theorem exists_fileGives_iff {policy : Policy} {name? : Option String} :
    (∃ rules, FileGives files policy name? rules) ↔
      ∀ name ∈ name?, ¬∃ e, LoadFailure policy (files name) e := by
  cases name? with
  | none => simp [FileGives]
  | some name =>
    simp only [FileGives, run_loadFile_value, forall_const, Option.mem_def, Option.some.injEq,
      forall_eq', exists_loadFailure_iff]
    cases fileOutcome policy (files name) with
    | error e => simp
    | ok loaded => simpa using ⟨loaded.rules, loaded.skipped, rfl⟩

theorem exists_map_read_iff {texts : List String} :
    (∃ rules : List Rule, texts.map Rule.read = rules.map .ok) ↔
      ∀ text ∈ texts, Rule.Readable text := by
  constructor
  · rintro ⟨rules, hrules⟩ text htext
    have hread : Rule.read text ∈ rules.map Except.ok := hrules ▸ List.mem_map_of_mem htext
    obtain ⟨rule, -, hrule⟩ := List.mem_map.1 hread
    exact ⟨rule, hrule.symm⟩
  · intro h
    induction texts with
    | nil => exact ⟨[], rfl⟩
    | cons text texts ih =>
      obtain ⟨⟨rule, hrule⟩, hothers⟩ := List.forall_mem_cons.1 h
      obtain ⟨rules, hrules⟩ := ih hothers
      exact ⟨rule :: rules, by rw [List.map_cons, List.map_cons, hrule, hrules]⟩

theorem exists_inForce_iff : (∃ rules, InForce files settings rules) ↔
    (∀ name ∈ lastFile? settings, ¬∃ e, LoadFailure (policyOf settings) (files name) e) ∧
      ∀ text ∈ linesOf settings, Rule.Readable text := by
  rw [← exists_fileGives_iff, ← exists_map_read_iff]
  constructor
  · rintro ⟨-, fromFile, fromLines, -, hfile, hlines⟩
    exact ⟨⟨fromFile, hfile⟩, fromLines, hlines⟩
  · rintro ⟨⟨fromFile, hfile⟩, fromLines, hlines⟩
    exact ⟨_, fromFile, fromLines, rfl, hfile, hlines⟩

end

/-! ### What a command is answered -/

inductive Refuses (rules : List Rule) : Command → String → Prop where
  | check {q : Request} {index : Nat} (hindex : index < rules.length)
      (hverdict : decideRequest rules q = .matched index .deny) :
      Refuses rules (.check q)
        ("rejected by rule " ++ Decimal.renderTwo index ++ " (" ++ rules[index].render ++ ")\n")
  | free {wanted : Port} {endpoint : Endpoint}
      (hnone : ∀ p, p = wanted ∨ 1 ≤ p.toNat → (permittedPorts rules endpoint).get p = false) :
      Refuses rules (.free wanted endpoint) "NoPortMapsAvailable\n"

inductive Grants (rules : List Rule) : Command → String → Prop where
  | list : Grants rules .list (dumpText rules)
  | checkByRule {q : Request} {index : Nat} (hindex : index < rules.length)
      (hverdict : decideRequest rules q = .matched index .allow) :
      Grants rules (.check q)
        ("accepted by rule " ++ Decimal.renderTwo index ++ " (" ++ rules[index].render ++ ")\n")
  | checkByDefault {q : Request} (hverdict : decideRequest rules q = .byDefault) :
      Grants rules (.check q) "accepted by default\n"
  | ports (endpoint : Endpoint) :
      Grants rules (.ports endpoint) (answerPorts rules endpoint).output
  | free {wanted p : Port} {endpoint : Endpoint}
      (hnearest : IsNearest (permittedPorts rules endpoint).get wanted p) :
      Grants rules (.free wanted endpoint) (Decimal.render p.toNat ++ "\n")

section
variable {rules : List Rule}

theorem describeVerdict_matched {index : Nat} (hindex : index < rules.length) (action : Action) :
    describeVerdict rules (.matched index action) =
      (match action with | .allow => "accepted by rule " | .deny => "rejected by rule ") ++
        Decimal.renderTwo index ++ " (" ++ rules[index].render ++ ")\n" := by
  have hrule : rules[index]?.elim "" Rule.render = rules[index].render := by
    rw [List.getElem?_eq_getElem hindex, Option.elim_some]
  simp only [describeVerdict, Verdict.index?, hrule]
  cases action <;> simp only [Verdict.isAllowed, Verdict.action, ← String.append_assoc] <;> rfl

theorem outcome_of_refuses {command : Command} {text : String} (h : Refuses rules command text) :
    command.outcome rules = .refusal text := by
  cases h with
  | check hindex hverdict =>
    rw [outcome, hverdict, describeVerdict_matched hindex]
    rfl
  | free hnone => exact answerFree_eq_refusal_iff.2 hnone

theorem outcome_of_grants {command : Command} {text : String}
    (hcount : command = .list → rules.length ≤ UInt64.size) (h : Grants rules command text) :
    command.outcome rules = .answer text := by
  cases h with
  | list =>
    have hdump : dumpTo none rules = (.ok (), encode (dumpText rules)) := dumpTo_eq (hcount rfl) none
    rw [outcome, hdump]
    simp only [decode?_encode, Option.getD_some]
  | checkByRule hindex hverdict =>
    rw [outcome, hverdict, describeVerdict_matched hindex]
    rfl
  | checkByDefault hverdict =>
    rw [outcome, hverdict]
    rfl
  | ports endpoint => rfl
  | free hnearest => exact answerFree_eq_answer_iff.2 hnearest

theorem grants_or_refuses (rules : List Rule) (command : Command) :
    (∃ text, Grants rules command text) ∨ ∃ text, Refuses rules command text := by
  cases command with
  | list => exact .inl ⟨_, .list⟩
  | check q =>
    cases hverdict : decideRequest rules q with
    | byDefault => exact .inl ⟨_, .checkByDefault hverdict⟩
    | matched index action =>
      have hindex := lt_length_of_decideRequest hverdict
      cases action with
      | allow => exact .inl ⟨_, .checkByRule hindex hverdict⟩
      | deny => exact .inr ⟨_, .check hindex hverdict⟩
  | ports endpoint => exact .inl ⟨_, .ports endpoint⟩
  | free wanted endpoint =>
    rcases answerFree_cases rules wanted endpoint with hnone | ⟨p, hp⟩
    · exact .inr ⟨_, .free (answerFree_eq_refusal_iff.1 hnone)⟩
    · exact .inl ⟨_, .free (answerFree_eq_answer_iff.1 hp)⟩

end

/-! ### How a run ends -/

def AsksHelp (args : List String) : Prop :=
  ∃ settings option rest, args = arguments settings (option :: rest) ∧
    option ∈ ["-h", "--help", "--version"]

def Asks (files : String → FileContent) (args : List String) (rules : List Rule)
    (command : Command) : Prop :=
  ∃ settings words, args = arguments settings words ∧ StartsPlain words ∧
    InForce files settings rules ∧ Means words command

/-- Why there is nothing to answer. Behind settings stands an option without its value or a word that
is no option; or the settings are complete and their file does not load, a line is no rule, or the
words are no command. -/
inductive Defect (files : String → FileContent) : List String → Prop where
  | valueMissing (settings : List Setting) {option : String} (h : option = "-f" ∨ option = "-A") :
      Defect files (arguments settings [option])
  | unknownOption (settings : List Setting) {option : String} (rest : List String)
      (hdash : startsWithDash option = true) (hunknown : option ∉ optionWords) :
      Defect files (arguments settings (option :: rest))
  | file {settings : List Setting} {words : List String} (hwords : StartsPlain words)
      {name : String} {e : LoadError} (hname : name ∈ lastFile? settings)
      (hload : LoadFailure (policyOf settings) (files name) e) :
      Defect files (arguments settings words)
  | line {settings : List Setting} {words : List String} (hwords : StartsPlain words)
      {text : String} {e : RuleError} (htext : text ∈ linesOf settings)
      (hread : Rule.read text = .error e) : Defect files (arguments settings words)
  | words (settings : List Setting) {words : List String} (hwords : StartsPlain words)
      (hmeans : ¬∃ command, Means words command) : Defect files (arguments settings words)

section
variable {files : String → FileContent} {args : List String}

theorem execute_of_optionsEnd {settings : List Setting} {rest : List String}
    {next : Options → Invocation} (h : OptionsEnd rest next) (ident : String) :
    let invocation := next (settings.foldl Setting.apply .initial)
    (execute ident files (arguments settings rest)).outcome =
      ((invocation.perform files).run invocation.mask).value := by
  rw [execute, Invocation.ofArguments, readOptions_arguments, h.readOptions]

theorem wordsOutcome_of_means {rules : List Rule} {words : List String} {command : Command}
    (h : Means words command) : wordsOutcome rules words = command.outcome rules := by
  rw [wordsOutcome, read_eq_ok_iff_means.2 h]

theorem wordsOutcome_of_not_means {rules : List Rule} {words : List String}
    (h : ¬∃ command, Means words command) : wordsOutcome rules words = .failure := by
  rw [wordsOutcome]
  cases hread : read words with
  | ok command => exact absurd ⟨command, read_eq_ok_iff_means.1 hread⟩ h
  | error e => rfl

theorem execute_of_defect (h : Defect files args) (ident : String) :
    (execute ident files args).outcome = .failure := by
  cases h with
  | valueMissing settings h => exact execute_of_optionsEnd (.valueMissing h) ident
  | unknownOption settings rest hdash hunknown =>
    exact execute_of_optionsEnd (.unknownOption hdash hunknown rest) ident
  | file hwords hname hload =>
    exact execute_of_not_inForce hwords
      (fun hrules => (exists_inForce_iff.1 hrules).1 _ hname ⟨_, hload⟩) ident
  | line hwords htext hread =>
    refine execute_of_not_inForce hwords (fun hrules => ?_) ident
    obtain ⟨rule, hrule⟩ := (exists_inForce_iff.1 hrules).2 _ htext
    cases hread.symm.trans hrule
  | words settings hwords hmeans =>
    by_cases hrules : ∃ rules, InForce files settings rules
    · obtain ⟨rules, hrules⟩ := hrules
      rw [execute_of_inForce hwords hrules, wordsOutcome_of_not_means hmeans]
    · exact execute_of_not_inForce hwords hrules ident

theorem exit_of_asksHelp (h : AsksHelp args) (ident : String) :
    (execute ident files args).outcome.exit = 0 := by
  obtain ⟨settings, option, rest, rfl, hoption⟩ := h
  simp only [List.mem_cons, List.not_mem_nil, or_false] at hoption
  rcases hoption with rfl | rfl | rfl
  · rw [execute_of_optionsEnd (.help (.inl rfl) rest)]
    rfl
  · rw [execute_of_optionsEnd (.help (.inr rfl) rest)]
    rfl
  · rw [execute_of_optionsEnd (.version rest)]
    rfl

theorem execute_of_asks {rules : List Rule} {command : Command}
    (h : Asks files args rules command) (ident : String) :
    (execute ident files args).outcome = command.outcome rules := by
  obtain ⟨settings, words, rfl, hwords, hrules, hmeans⟩ := h
  rw [execute_of_inForce hwords hrules, wordsOutcome_of_means hmeans]

theorem defect_or_asks (files : String → FileContent) (args : List String) :
    Defect files args ∨ AsksHelp args ∨ ∃ rules command, Asks files args rules command := by
  obtain ⟨settings, rest, next, rfl, hend⟩ := splits .initial args
  cases hend with
  | help h rest =>
    refine .inr (.inl ⟨settings, _, rest, rfl, ?_⟩)
    rcases h with rfl | rfl <;> simp
  | version rest => exact .inr (.inl ⟨settings, _, rest, rfl, by simp⟩)
  | valueMissing h => exact .inl (.valueMissing settings h)
  | unknownOption hdash hunknown rest => exact .inl (.unknownOption settings rest hdash hunknown)
  | words hwords =>
    by_cases hmeans : ∃ command, Means rest command
    · by_cases hrules : ∃ rules, InForce files settings rules
      · obtain ⟨rules, hrules⟩ := hrules
        obtain ⟨command, hmeans⟩ := hmeans
        exact .inr (.inr ⟨rules, command, settings, rest, rfl, hwords, hrules, hmeans⟩)
      · rw [exists_inForce_iff, not_and_or] at hrules
        rcases hrules with hfile | hline
        · simp only [not_forall, not_not] at hfile
          obtain ⟨name, hname, e, hload⟩ := hfile
          exact .inl (.file hwords hname hload)
        · simp only [not_forall] at hline
          obtain ⟨text, htext, hread⟩ := hline
          cases hrule : Rule.read text with
          | ok rule => exact absurd ⟨rule, hrule⟩ hread
          | error e => exact .inl (.line hwords htext hrule)
    · exact .inl (.words settings hwords hmeans)

theorem exists_words_eq_drop {o : Options} (h : Invocation.ofArguments args = .run o) :
    ∃ n ≤ args.length, o.words = args.drop n := by
  obtain ⟨settings, rest, next, rfl, hend⟩ := splits .initial args
  rw [Invocation.ofArguments, readOptions_arguments, hend.readOptions] at h
  cases hend with
  | help | version | valueMissing | unknownOption => cases h
  | words hwords =>
    obtain rfl := Invocation.run.inj h
    refine ⟨(settings.flatMap Setting.words).length, ?_, ?_⟩
    · rw [arguments, List.length_append]
      exact Nat.le_add_right _ _
    · rw [arguments, List.drop_left]

section
variable (hcount : ∀ rules, Asks files args rules .list → rules.length ≤ UInt64.size)
variable (ident : String)
include hcount

theorem execute_of_grants {rules : List Rule} {command : Command} {text : String}
    (hasks : Asks files args rules command) (hgrants : Grants rules command text) :
    (execute ident files args).outcome = .answer text :=
  (execute_of_asks hasks ident).trans
    (outcome_of_grants (fun hlist => hcount rules (hlist ▸ hasks)) hgrants)

theorem execute_cases :
    let outcome := (execute ident files args).outcome
    (Defect files args ∧ outcome.exit = 2) ∨ (AsksHelp args ∧ outcome.exit = 0) ∨
      (∃ rules command, Asks files args rules command ∧ Grants rules command outcome.output ∧
        outcome.exit = 0) ∨
      ∃ rules command, Asks files args rules command ∧ Refuses rules command outcome.output ∧
        outcome.exit = 1 := by
  intro outcome
  rcases defect_or_asks files args with hdefect | hhelp | ⟨rules, command, hasks⟩
  · exact .inl ⟨hdefect, congrArg Outcome.exit (execute_of_defect hdefect ident)⟩
  · exact .inr (.inl ⟨hhelp, exit_of_asksHelp hhelp ident⟩)
  · rcases grants_or_refuses rules command with ⟨text, hgrants⟩ | ⟨text, hrefuses⟩
    · have hrun : outcome = .answer text := execute_of_grants hcount ident hasks hgrants
      exact .inr (.inr (.inl ⟨rules, command, hasks, hrun ▸ hgrants, congrArg Outcome.exit hrun⟩))
    · have hrun : outcome = .refusal text :=
        (execute_of_asks hasks ident).trans (outcome_of_refuses hrefuses)
      exact .inr (.inr (.inr ⟨rules, command, hasks, hrun ▸ hrefuses, congrArg Outcome.exit hrun⟩))

theorem exit_cases : (execute ident files args).outcome.exit = 0 ∨
    (execute ident files args).outcome.exit = 1 ∨ (execute ident files args).outcome.exit = 2 := by
  rcases execute_cases hcount ident with
    ⟨-, hexit⟩ | ⟨-, hexit⟩ | ⟨rules, command, -, -, hexit⟩ | ⟨rules, command, -, -, hexit⟩
  · exact .inr (.inr hexit)
  · exact .inl hexit
  · exact .inl hexit
  · exact .inr (.inl hexit)

theorem exit_eq_two_iff : (execute ident files args).outcome.exit = 2 ↔ Defect files args := by
  constructor
  · intro h
    rcases execute_cases hcount ident with
      ⟨hdefect, -⟩ | ⟨-, hexit⟩ | ⟨rules, command, -, -, hexit⟩ | ⟨rules, command, -, -, hexit⟩
    · exact hdefect
    all_goals exact absurd (hexit.symm.trans h) (by decide)
  · intro hdefect
    rw [execute_of_defect hdefect]
    rfl

theorem exit_eq_one_iff :
    (execute ident files args).outcome.exit = 1 ↔ ∃ rules command,
      Asks files args rules command ∧
        Refuses rules command (execute ident files args).outcome.output := by
  constructor
  · intro h
    rcases execute_cases hcount ident with
      ⟨-, hexit⟩ | ⟨-, hexit⟩ | ⟨rules, command, -, -, hexit⟩ | ⟨rules, command, hasks, hrefuses, -⟩
    case inr.inr.inr => exact ⟨rules, command, hasks, hrefuses⟩
    all_goals exact absurd (hexit.symm.trans h) (by decide)
  · rintro ⟨rules, command, hasks, hrefuses⟩
    rw [execute_of_asks hasks, outcome_of_refuses hrefuses]
    rfl

theorem exit_eq_zero_iff :
    (execute ident files args).outcome.exit = 0 ↔ AsksHelp args ∨ ∃ rules command,
      Asks files args rules command ∧
        Grants rules command (execute ident files args).outcome.output := by
  constructor
  · intro h
    rcases execute_cases hcount ident with
      ⟨-, hexit⟩ | ⟨hhelp, -⟩ | ⟨rules, command, hasks, hgrants, -⟩ | ⟨rules, command, -, -, hexit⟩
    · exact absurd (hexit.symm.trans h) (by decide)
    · exact .inl hhelp
    · exact .inr ⟨rules, command, hasks, hgrants⟩
    · exact absurd (hexit.symm.trans h) (by decide)
  · rintro (hhelp | ⟨rules, command, hasks, hgrants⟩)
    · exact exit_of_asksHelp hhelp ident
    · rw [execute_of_grants hcount ident hasks hgrants]
      rfl

/-- Every run ends with one of three codes. It is 2 exactly when the command line has a defect, and then
nothing is written; it is 1 exactly when a rule denies what is checked or no port is left; it is 0
exactly for help, the version and the other answers. The words begin within the command line, and
the rule that decides is one of the list. A list in memory has at most `UInt64.size` rules, and the
dump is laid out for that many. -/
theorem exit_of_execute :
    let outcome := (execute ident files args).outcome
    (outcome.exit = 0 ∨ outcome.exit = 1 ∨ outcome.exit = 2) ∧
    (outcome.exit = 2 ↔ Defect files args) ∧ (outcome.exit = 2 → outcome.output = "") ∧
    (outcome.exit = 1 ↔ ∃ rules command, Asks files args rules command ∧
      Refuses rules command outcome.output) ∧
    (outcome.exit = 0 ↔ AsksHelp args ∨ ∃ rules command, Asks files args rules command ∧
      Grants rules command outcome.output) ∧
    (∀ o, Invocation.ofArguments args = .run o → ∃ n ≤ args.length, o.words = args.drop n) ∧
    ∀ rules q index action, Asks files args rules (.check q) →
      decideRequest rules q = .matched index action → index < rules.length := by
  have hsilent (h : (execute ident files args).outcome.exit = 2) :
      (execute ident files args).outcome.output = "" := by
    rw [execute_of_defect ((exit_eq_two_iff hcount ident).1 h)]
    rfl
  exact ⟨exit_cases hcount ident, exit_eq_two_iff hcount ident, hsilent,
    exit_eq_one_iff hcount ident, exit_eq_zero_iff hcount ident, fun _ => exists_words_eq_drop,
    fun _ _ _ _ _ => lt_length_of_decideRequest⟩

end

end

theorem exit_of_execute_rejected :
    let files : String → FileContent := fun _ => .unreadable .notFound
    let args := ["-v", "-A", "deny 0-1023 0.0.0.0/0 0-65535", "check", "+80", "10.0.0.1", "080"]
    let rule : Rule := ⟨.deny, ⟨0, 1023, by decide⟩, ⟨0, 0⟩, ⟨0, 65535, by decide⟩, none⟩
    (∀ rules, Asks files args rules .list → rules.length ≤ UInt64.size) ∧
      Asks files args [rule] (.check ⟨80, ⟨0x0A000001, 80⟩, none⟩) ∧
      (execute "upnpperm" files args).outcome.exit = 1 ∧
      (execute "upnpperm" files args).outcome.output =
        "rejected by rule 00 (deny 0-1023 0.0.0.0/0 0-65535)\n" := by
  intro files args rule
  have hcount : ∀ rules, Asks files args rules .list → rules.length ≤ UInt64.size := by
    -- However the arguments are split, their words are read once, and they are a check.
    rintro rules ⟨settings, words, hargs, hwords, -, hmeans⟩
    have hread := ofArguments_arguments settings hwords
    rw [← hargs] at hread
    have hactual : Invocation.ofArguments args = .run { Options.initial with
        verbosity := .verbose, lines := [args[2]], words := args.drop 3 } := by decide +kernel
    have hdrop : args.drop 3 = words :=
      congrArg Options.words (Invocation.run.inj (hactual.symm.trans hread))
    rw [← hdrop] at hmeans
    exact absurd (read_eq_ok_iff_means.2 hmeans) (by decide +kernel)
  have hasks : Asks files args [rule] (.check ⟨80, ⟨0x0A000001, 80⟩, none⟩) := by
    refine ⟨[.verbose, .line "deny 0-1023 0.0.0.0/0 0-65535"], args.drop 3, rfl, by decide, ?_, ?_⟩
    · exact (run_rulesInEffect_settings 0).1 (by decide +kernel)
    · exact .check (by decide +kernel) ⟨by decide +kernel, by decide +kernel⟩
  have hrefuses : Refuses [rule] (.check ⟨80, ⟨0x0A000001, 80⟩, none⟩)
      "rejected by rule 00 (deny 0-1023 0.0.0.0/0 0-65535)\n" := by
    have htext : "rejected by rule " ++ Decimal.renderTwo 0 ++ " (" ++ rule.render ++ ")\n" =
        "rejected by rule 00 (deny 0-1023 0.0.0.0/0 0-65535)\n" := by decide +kernel
    exact htext ▸ .check Nat.one_pos (by decide +kernel)
  have hrun := (execute_of_asks hasks "upnpperm").trans (outcome_of_refuses hrefuses)
  obtain ⟨-, -, -, hone, -⟩ := exit_of_execute hcount "upnpperm"
  refine ⟨hcount, hasks, hone.2 ⟨[rule], _, hasks, ?_⟩, congrArg Outcome.output hrun⟩
  rw [hrun]
  exact hrefuses

end PortGate.Command
