import PortGate.Proofs.Command.Words
import PortGate.Proofs.Config.LineByLine

/-! Complete options as data. What they ask for is the file that was named last, the policy, and the
lines in their order; the rest only concerns what is shown. So the order of options and those about
messages do not matter beyond that. -/

namespace PortGate.Command
open Text

/-- An option together with the value it takes, if it takes one. -/
inductive Setting where
  | file (name : String)
  | line (text : String)
  | strict
  | showMessages
  | verbose
  | debug
  deriving DecidableEq, Repr

namespace Setting

def words : Setting → List String
  | file name => ["-f", name]
  | line text => ["-A", text]
  | strict => ["-S"]
  | showMessages => ["-d"]
  | verbose => ["-v"]
  | debug => ["-vv"]

def apply (o : Options) : Setting → Options
  | file name => { o with file := some name }
  | line text => { o with lines := o.lines ++ [text] }
  | strict => { o with policy := .strict }
  | showMessages => { o with showsMessages := true }
  | verbose => { o with verbosity := .verbose }
  | debug => { o with verbosity := .debug }

def file? : Setting → Option String
  | file name => some name
  | _ => none

def line? : Setting → Option String
  | line text => some text
  | _ => none

def concernsRules : Setting → Bool
  | file _ => true
  | line _ => true
  | strict => true
  | _ => false

end Setting

def arguments (settings : List Setting) (words : List String) : List String :=
  settings.flatMap Setting.words ++ words

def lastFile? (settings : List Setting) : Option String :=
  (settings.filterMap Setting.file?).getLast?

def linesOf (settings : List Setting) : List String :=
  settings.filterMap Setting.line?

def policyOf (settings : List Setting) : Policy :=
  if .strict ∈ settings then .strict else .lenient

def StartsPlain (words : List String) : Prop :=
  ∀ word ∈ words.head?, startsWithDash word = false

instance (words : List String) : Decidable (StartsPlain words) :=
  inferInstanceAs (Decidable (∀ word ∈ words.head?, startsWithDash word = false))

/-! ### Reading settings -/

theorem arguments_cons (setting : Setting) (settings : List Setting) (words : List String) :
    arguments (setting :: settings) words = setting.words ++ arguments settings words := by
  rw [arguments, List.flatMap_cons, List.append_assoc, arguments]

theorem readOptions_words (o : Options) (setting : Setting) (rest : List String) :
    readOptions o (setting.words ++ rest) = readOptions (setting.apply o) rest := by
  cases setting <;> (rw [Setting.words, List.cons_append, readOptions.eq_def]; rfl)

theorem readOptions_arguments (o : Options) (settings : List Setting) (rest : List String) :
    readOptions o (arguments settings rest) = readOptions (settings.foldl Setting.apply o) rest := by
  induction settings generalizing o with
  | nil => rfl
  | cons setting settings ih => rw [arguments_cons, readOptions_words, ih, List.foldl_cons]

theorem readOptions_of_startsPlain {words : List String} (h : StartsPlain words) (o : Options) :
    readOptions o words = .run { o with words := words } := by
  cases words with
  | nil => rw [readOptions.eq_def]
  | cons word words =>
    rw [readOptions.eq_def]
    dsimp only
    rw [if_neg (ne_true_of_eq_false (h word rfl))]

section
variable (o : Options) (settings : List Setting)

theorem file_foldl_apply :
    (settings.foldl Setting.apply o).file = (lastFile? settings).or o.file := by
  induction settings generalizing o with
  | nil => rfl
  | cons setting settings ih =>
    rw [List.foldl_cons, ih]
    cases setting with
    | file name =>
      have hnames : (Setting.file name :: settings).filterMap Setting.file? =
          name :: settings.filterMap Setting.file? := rfl
      have hfile : lastFile? (.file name :: settings) = (lastFile? settings).or (some name) := by
        rw [lastFile?, hnames, List.getLast?_cons, lastFile?]
        cases (settings.filterMap Setting.file?).getLast? <;> rfl
      rw [hfile, Option.or_assoc]
      rfl
    | line | strict | showMessages | verbose | debug => rfl

theorem lines_foldl_apply :
    (settings.foldl Setting.apply o).lines = o.lines ++ linesOf settings := by
  induction settings generalizing o with
  | nil => exact (List.append_nil o.lines).symm
  | cons setting settings ih =>
    rw [List.foldl_cons, ih]
    cases setting with
    | line text => exact List.append_assoc o.lines [text] (linesOf settings)
    | file | strict | showMessages | verbose | debug => rfl

theorem policy_foldl_apply :
    (settings.foldl Setting.apply o).policy =
      if .strict ∈ settings then .strict else o.policy := by
  induction settings generalizing o with
  | nil => rfl
  | cons setting settings ih =>
    rw [List.foldl_cons, ih]
    cases setting with
    | strict => simp [Setting.apply]
    | file | line | showMessages | verbose | debug => simp [Setting.apply]

end

/-! ### Rules in force -/

def FileGives (files : String → FileContent) (policy : Policy) : Option String → List Rule → Prop
  | none, rules => rules = []
  | some name, rules => ∃ skipped, ∀ mask,
      ((loadFile policy name (files name)).run mask).value = .ok ⟨rules, skipped⟩

/-- The rules that settings put into force: those of the file that was named last, read strictly if
that was asked for anywhere, then those of the lines in their order. -/
def InForce (files : String → FileContent) (settings : List Setting) (rules : List Rule) : Prop :=
  ∃ fromFile fromLines, rules = fromFile ++ fromLines ∧
    FileGives files (policyOf settings) (lastFile? settings) fromFile ∧
    (linesOf settings).map Rule.read = fromLines.map .ok

section
variable {files : String → FileContent} {rules : List Rule} (mask : LogMask)

theorem run_fileRules_value_iff {o : Options} :
    ((fileRules files o).run mask).value = some rules ↔ FileGives files o.policy o.file rules := by
  rw [fileRules]
  cases o.file with
  | none => exact Option.some_inj.trans eq_comm
  | some name =>
    dsimp only
    simp only [FileGives, Logged.run_bind, run_loadFile_value, forall_const]
    cases fileOutcome o.policy (files name) with
    | error e => simp
    | ok loaded =>
      simp only [Logged.run_pure, Option.some.injEq, Except.ok.injEq]
      exact ⟨fun h => ⟨loaded.skipped, h ▸ rfl⟩, fun ⟨_, h⟩ => h ▸ rfl⟩

section
-- Kept closed, so that the equation below does not run the reader.
attribute [local irreducible] Rule.read Rule.readLogged

theorem run_lineRules_cons_value (text : String) (texts : List String) :
    ((lineRules (text :: texts)).run mask).value =
      match Rule.read text with
      | .ok rule => ((lineRules texts).run mask).value.map (rule :: ·)
      | .error _ => none := by
  have hcons : lineRules (text :: texts) = (do
      match ← Rule.readLogged text with
      | .ok rule => (·.map (rule :: ·)) <$> lineRules texts
      | .error e =>
        Logged.line ("invalid permission rule \"" ++ text ++ "\": " ++ e.message)
        return none) := rfl
  rw [hcons, Logged.run_bind, Rule.run_readLogged_value]
  cases Rule.read text with
  | ok rule => rfl
  | error e => rfl

end

theorem run_lineRules_value_iff {texts : List String} :
    ((lineRules texts).run mask).value = some rules ↔ texts.map Rule.read = rules.map .ok := by
  induction texts generalizing rules with
  | nil =>
    have hnil : ((lineRules []).run mask).value = some [] := rfl
    rw [hnil]
    cases rules <;> simp
  | cons text texts ih =>
    rw [run_lineRules_cons_value, List.map_cons]
    cases Rule.read text with
    | error e => cases rules <;> simp
    | ok rule =>
      simp only [Option.map_eq_some_iff, ih]
      constructor
      · rintro ⟨later, hlater, rfl⟩
        rw [hlater, List.map_cons]
      · intro h
        cases rules with
        | nil => cases h
        | cons first rules =>
          obtain ⟨hfirst, hlater⟩ := List.cons.inj h
          exact ⟨rules, hlater, by rw [Except.ok.inj hfirst]⟩

theorem run_rulesInEffect_value_iff {o : Options} :
    ((rulesInEffect files o).run mask).value = some rules ↔
      ∃ fromFile fromLines, rules = fromFile ++ fromLines ∧
        FileGives files o.policy o.file fromFile ∧ o.lines.map Rule.read = fromLines.map .ok := by
  simp only [← run_fileRules_value_iff mask, ← run_lineRules_value_iff mask]
  rw [rulesInEffect, Logged.run_bind]
  cases ((fileRules files o).run mask).value with
  | none => simp
  | some fromFile =>
    simp only [Logged.run_bind]
    cases ((lineRules o.lines).run mask).value with
    | none => simp
    | some fromLines => simp [eq_comm]

theorem run_rulesInEffect_settings {settings : List Setting} :
    ((rulesInEffect files (settings.foldl Setting.apply .initial)).run mask).value = some rules ↔
      InForce files settings rules := by
  rw [run_rulesInEffect_value_iff, file_foldl_apply, lines_foldl_apply, policy_foldl_apply, InForce,
    policyOf]
  simp only [Options.initial, Option.or_none, List.nil_append]

end

/-! ### The whole run -/

section
variable {files : String → FileContent} {settings : List Setting} {words : List String}

theorem ofArguments_arguments (settings : List Setting) (hwords : StartsPlain words) :
    Invocation.ofArguments (arguments settings words) =
      .run { settings.foldl Setting.apply .initial with words := words } := by
  rw [Invocation.ofArguments, readOptions_arguments, readOptions_of_startsPlain hwords]

theorem execute_arguments (hwords : StartsPlain words) (ident : String) :
    ∃ mask, (execute ident files (arguments settings words)).outcome =
      ((rulesInEffect files (settings.foldl Setting.apply .initial)).run mask).value.elim .failure
        (wordsOutcome · words) := by
  have hsame (o : Options) : rulesInEffect files { o with words := words } = rulesInEffect files o :=
    rfl
  refine ⟨(settings.foldl Setting.apply .initial).verbosity.mask, ?_⟩
  rw [execute, ofArguments_arguments settings hwords]
  simp only [Invocation.perform, Invocation.mask, Logged.run_bind, hsame]
  cases ((rulesInEffect files _).run _).value with
  | none => rfl
  | some rules => exact run_runWords_value rules words _

theorem execute_of_inForce (hwords : StartsPlain words) {rules : List Rule}
    (hrules : InForce files settings rules) (ident : String) :
    (execute ident files (arguments settings words)).outcome = wordsOutcome rules words := by
  obtain ⟨mask, hrun⟩ := execute_arguments hwords ident
  rw [hrun, (run_rulesInEffect_settings mask).2 hrules, Option.elim_some]

theorem execute_of_not_inForce (hwords : StartsPlain words)
    (hrules : ¬∃ rules, InForce files settings rules) (ident : String) :
    (execute ident files (arguments settings words)).outcome = .failure := by
  obtain ⟨mask, hrun⟩ := execute_arguments hwords ident
  have hnone : ((rulesInEffect files (settings.foldl Setting.apply .initial)).run mask).value =
      none :=
    Option.eq_none_iff_forall_ne_some.2 fun rules h =>
      hrules ⟨rules, (run_rulesInEffect_settings mask).1 h⟩
  rw [hrun, hnone, Option.elim_none]

theorem execute_eq_of_inForce_iff {others : List Setting} {files' : String → FileContent}
    (hwords : StartsPlain words)
    (hrules : ∀ rules, InForce files' others rules ↔ InForce files settings rules)
    (ident ident' : String) :
    (execute ident' files' (arguments others words)).outcome =
      (execute ident files (arguments settings words)).outcome := by
  by_cases h : ∃ rules, InForce files settings rules
  · obtain ⟨rules, hthese⟩ := h
    rw [execute_of_inForce hwords hthese, execute_of_inForce hwords ((hrules rules).2 hthese)]
  · rw [execute_of_not_inForce hwords h, execute_of_not_inForce hwords]
    simpa only [hrules] using h

end

theorem policyOf_eq_of_mem_iff {settings others : List Setting}
    (h : Setting.strict ∈ others ↔ Setting.strict ∈ settings) :
    policyOf others = policyOf settings := by
  simp only [policyOf, h]

theorem inForce_iff_of_eq {files files' : String → FileContent} {settings others : List Setting}
    (hfile : lastFile? others = lastFile? settings)
    (hcontent : ∀ name ∈ lastFile? settings, files' name = files name)
    (hstrict : Setting.strict ∈ others ↔ Setting.strict ∈ settings)
    (hlines : linesOf others = linesOf settings) (rules : List Rule) :
    InForce files' others rules ↔ InForce files settings rules := by
  rw [InForce, InForce, hfile, hlines, policyOf_eq_of_mem_iff hstrict]
  cases hname : lastFile? settings with
  | none => rfl
  | some name =>
    simp only [FileGives, hcontent name (Option.mem_def.2 hname)]

theorem linesOf_filter (settings : List Setting) :
    linesOf (settings.filter (·.concernsRules)) = linesOf settings := by
  induction settings with
  | nil => rfl
  | cons setting settings ih =>
    cases setting with
    | line text => exact congrArg (text :: ·) ih
    | file | strict | showMessages | verbose | debug => exact ih

theorem lastFile?_filter (settings : List Setting) :
    lastFile? (settings.filter (·.concernsRules)) = lastFile? settings := by
  rw [lastFile?, lastFile?]
  congr 1
  induction settings with
  | nil => rfl
  | cons setting settings ih =>
    cases setting with
    | file name => exact congrArg (name :: ·) ih
    | line | strict | showMessages | verbose | debug => exact ih

/-- What a run answers is told by the file that was named last, by whether the strict policy was asked
for anywhere, by the lines in their order and by the words. If the rules load, the words are run on
those of the file and then those of the lines, and else there is no answer. So it does not matter
in which order the settings stand, as long as the lines keep theirs and the last file stays the
last, nor which of them are about messages. -/
theorem execute_settings (ident : String) (files : String → FileContent) (settings : List Setting)
    {words : List String} (hwords : StartsPlain words) :
    let outcome := (execute ident files (arguments settings words)).outcome
    (∀ rules, InForce files settings rules →
      ∀ mask, outcome = ((runWords rules words).run mask).value) ∧
    ((¬∃ rules, InForce files settings rules) → outcome = .failure) ∧
    (∀ ident' files' others, lastFile? others = lastFile? settings →
      (∀ name ∈ lastFile? settings, files' name = files name) →
      (.strict ∈ others ↔ .strict ∈ settings) → linesOf others = linesOf settings →
      (execute ident' files' (arguments others words)).outcome = outcome) ∧
    (∀ others, others.Perm settings → linesOf others = linesOf settings →
      lastFile? others = lastFile? settings →
      (execute ident files (arguments others words)).outcome = outcome) ∧
    ∀ others, others.filter (·.concernsRules) = settings.filter (·.concernsRules) →
      (execute ident files (arguments others words)).outcome = outcome := by
  intro outcome
  have hdepends : ∀ ident' files' others, lastFile? others = lastFile? settings →
      (∀ name ∈ lastFile? settings, files' name = files name) →
      (.strict ∈ others ↔ .strict ∈ settings) → linesOf others = linesOf settings →
      (execute ident' files' (arguments others words)).outcome = outcome :=
    fun ident' files' others hfile hcontent hstrict hlines => execute_eq_of_inForce_iff hwords
      (inForce_iff_of_eq hfile hcontent hstrict hlines) ident ident'
  refine ⟨fun rules hrules mask => ?_, fun hnone => ?_, hdepends, ?_, ?_⟩
  · rw [run_runWords_value]
    exact execute_of_inForce hwords hrules ident
  · exact execute_of_not_inForce hwords hnone ident
  · intro others hperm hlines hfile
    exact hdepends ident files others hfile (fun _ _ => rfl) hperm.mem_iff hlines
  · intro others hfilter
    have hstrict : Setting.strict ∈ others ↔ Setting.strict ∈ settings := by
      have hmem (list : List Setting) :
          Setting.strict ∈ list.filter (·.concernsRules) ↔ Setting.strict ∈ list := by
        simp [List.mem_filter, Setting.concernsRules]
      rw [← hmem others, hfilter, hmem settings]
    refine hdepends ident files others ?_ (fun _ _ => rfl) hstrict ?_
    · rw [← lastFile?_filter others, hfilter, lastFile?_filter]
    · rw [← linesOf_filter others, hfilter, linesOf_filter]

theorem execute_settings_dashed_name :
    let files : String → FileContent := fun name =>
      if name = "-A" then .bytes (encode "deny 443 0.0.0.0/0 443\r\n") else .unreadable .notFound
    let settings : List Setting := [.file "-S", .line "allow 80 10.0.0.0/8 80", .file "-A", .strict]
    let others : List Setting :=
      [.debug, .strict, .file "-A", .showMessages, .line "allow 80 10.0.0.0/8 80"]
    let words := ["check", "80", "10.1.2.3", "80"]
    let answered : Outcome := .answer "accepted by rule 01 (allow 80 10.0.0.0/8 80)\n"
    StartsPlain words ∧
      InForce files settings [⟨.deny, ⟨443, 443, by decide⟩, ⟨0, 0⟩, ⟨443, 443, by decide⟩, none⟩,
        ⟨.allow, ⟨80, 80, by decide⟩, ⟨0x0A000000, 0xFF000000⟩, ⟨80, 80, by decide⟩, none⟩] ∧
      arguments settings [] = ["-f", "-S", "-A", "allow 80 10.0.0.0/8 80", "-f", "-A", "-S"] ∧
      (execute "upnpperm" files (arguments settings words)).outcome = answered ∧
      (execute "other" files (arguments others words)).outcome = answered := by
  intro files settings others words answered
  have hwords : StartsPlain words := by decide
  have hrules : InForce files settings
      [⟨.deny, ⟨443, 443, by decide⟩, ⟨0, 0⟩, ⟨443, 443, by decide⟩, none⟩,
        ⟨.allow, ⟨80, 80, by decide⟩, ⟨0x0A000000, 0xFF000000⟩, ⟨80, 80, by decide⟩, none⟩] :=
    (run_rulesInEffect_settings 0).1 (by decide +kernel)
  obtain ⟨hruns, -, hdepends, -⟩ := execute_settings "upnpperm" files settings hwords
  have hanswer := (hruns _ hrules 0).trans
    (by decide +kernel : _ = Outcome.answer "accepted by rule 01 (allow 80 10.0.0.0/8 80)\n")
  have hsame := hdepends "other" files others rfl (fun _ _ => rfl) (by decide) rfl
  exact ⟨hwords, hrules, rfl, hanswer, hsame.trans hanswer⟩

end PortGate.Command
