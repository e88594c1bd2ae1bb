import PortGate.Proofs.Config.RuleLines

/-! What comes of a whole configuration. It loads when each of its lines goes well, and else the first
line that does not gives the error. So the two policies can be told apart by the first rule line
that does not read, if no line before it is bad text. -/

namespace PortGate
open Text

def ruleTexts (lines : List (List UInt8)) : List String := lines.filterMap ruleText?

theorem ruleTexts_cons (line : List UInt8) (lines : List (List UInt8)) :
    ruleTexts (line :: lines) = (ruleText? line).toList ++ ruleTexts lines := by
  rw [ruleTexts, ruleTexts, List.filterMap_cons]
  cases ruleText? line <;> rfl

section
variable {policy : Policy} {n : Nat} {lines : List (List UInt8)} {loaded : Loaded} {e : LoadError}

theorem linesOutcome_append (policy : Policy) (n : Nat) (first second : List (List UInt8)) :
    linesOutcome policy n (first ++ second) =
      match linesOutcome policy n first with
      | .error e => .error e
      | .ok loaded => (linesOutcome policy (n + first.length) second).map loaded.append := by
  induction first generalizing n with
  | nil => exact (map_empty_append _).symm
  | cons line first ih =>
    have hnumber : n + 1 + first.length = n + (first.length + 1) := by omega
    rw [List.cons_append, linesOutcome, linesOutcome, List.length_cons, ih, hnumber]
    cases lineOutcome policy n line with
    | error e => rfl
    | ok loaded =>
      cases linesOutcome policy (n + 1) first with
      | error e => rfl
      | ok middle =>
        cases linesOutcome policy (n + (first.length + 1)) second with
        | error e => rfl
        | ok last =>
          have hassoc : loaded.append (middle.append last) = (loaded.append middle).append last := by
            simp [Loaded.append, Nat.add_assoc]
          exact congrArg Except.ok hassoc

theorem linesOutcome_cons_eq_ok_iff {line : List UInt8} :
    linesOutcome policy n (line :: lines) = .ok loaded ↔
      ∃ first later, lineOutcome policy n line = .ok first ∧
        linesOutcome policy (n + 1) lines = .ok later ∧ loaded = first.append later := by
  rw [linesOutcome]
  cases lineOutcome policy n line with
  | error e => simp
  | ok first =>
    simp only [map_eq_ok_iff, Except.ok.injEq, exists_and_left, exists_eq_left']
    exact exists_congr fun later => and_congr_right fun _ => eq_comm

theorem linesOutcome_eq_ok_iff :
    linesOutcome policy n lines = .ok loaded ↔
      (∀ line ∈ lines, (decode? line).isSome = true) ∧ loaded = .ofRuleTexts (ruleTexts lines) ∧
        (policy = .strict → ∀ text ∈ ruleTexts lines, Rule.Readable text) := by
  induction lines generalizing n loaded with
  | nil =>
    have hempty : Loaded.ofRuleTexts (ruleTexts []) = .empty := rfl
    rw [linesOutcome, hempty, Except.ok.injEq, eq_comm]
    simp [ruleTexts]
  | cons line lines ih =>
    simp only [linesOutcome_cons_eq_ok_iff, lineOutcome_eq_ok_iff, ih, ruleTexts_cons,
      Loaded.ofRuleTexts_append, List.mem_append, Option.mem_toList, List.forall_mem_cons]
    constructor
    · rintro ⟨first, later, ⟨hline, rfl, hrule⟩, ⟨hlines, rfl, hrules⟩, rfl⟩
      refine ⟨⟨hline, hlines⟩, rfl, fun hstrict text htext => ?_⟩
      exact htext.elim (hrule hstrict text) (hrules hstrict text)
    · rintro ⟨⟨hline, hlines⟩, rfl, hrules⟩
      exact ⟨_, _, ⟨hline, rfl, fun hstrict text htext => hrules hstrict text (.inl htext)⟩,
        ⟨hlines, rfl, fun hstrict text htext => hrules hstrict text (.inr htext)⟩, rfl⟩

theorem linesOutcome_eq_error_iff :
    linesOutcome policy n lines = .error e ↔
      ∃ before line after, lines = before ++ line :: after ∧
        (∃ loaded, linesOutcome policy n before = .ok loaded) ∧
        lineOutcome policy (n + before.length) line = .error e := by
  constructor
  · intro h
    induction lines generalizing n with
    | nil => cases h
    | cons line lines ih =>
      rw [linesOutcome] at h
      cases hline : lineOutcome policy n line with
      | error e' =>
        rw [hline] at h
        exact ⟨[], line, lines, rfl, ⟨.empty, rfl⟩, hline.trans h⟩
      | ok first =>
        simp only [hline, map_eq_error_iff] at h
        obtain ⟨before, bad, after, rfl, ⟨loaded, hbefore⟩, hbad⟩ := ih h
        have hnumber : n + (before.length + 1) = n + 1 + before.length := by omega
        refine ⟨line :: before, bad, after, rfl, ⟨first.append loaded, ?_⟩, ?_⟩
        · exact linesOutcome_cons_eq_ok_iff.2 ⟨first, loaded, hline, hbefore, rfl⟩
        · rwa [List.length_cons, hnumber]
  · rintro ⟨before, line, after, rfl, ⟨loaded, hbefore⟩, hline⟩
    rw [linesOutcome_append, hbefore, linesOutcome, hline]
    rfl

/-- The rule on line `n`, counted from 1, does not read, and everything before it goes well. -/
def FirstBadRule (lines : List (List UInt8)) (n : Nat) (cause : RuleError) : Prop :=
  ∃ before line after text, lines = before ++ line :: after ∧ n = before.length + 1 ∧
    (∀ earlier ∈ before, (decode? earlier).isSome = true) ∧
    (∀ earlier ∈ ruleTexts before, Rule.Readable earlier) ∧
    ruleText? line = some text ∧ Rule.read text = .error cause

theorem lineOutcome_eq_rule_error_iff {line : List UInt8} {k : Nat} {cause : RuleError} :
    lineOutcome policy n line = .error (.rule k cause) ↔
      policy = .strict ∧ k = n ∧ ∃ text, ruleText? line = some text ∧
        Rule.read text = .error cause := by
  rw [lineOutcome_eq_error_iff]
  simp only [ofBytes?_eq_rule_iff]
  constructor
  · rintro (⟨-, h⟩ | ⟨text, cause', hstrict, hrule, hread, h⟩)
    · cases h
    · cases h
      exact ⟨hstrict, rfl, text, hrule, hread⟩
  · rintro ⟨hstrict, rfl, text, hrule, hread⟩
    exact .inr ⟨text, cause, hstrict, hrule, hread, rfl⟩

theorem linesOutcome_eq_rule_error_iff {k : Nat} {cause : RuleError} :
    linesOutcome policy 1 lines = .error (.rule k cause) ↔
      policy = .strict ∧ FirstBadRule lines k cause := by
  rw [linesOutcome_eq_error_iff]
  simp only [lineOutcome_eq_rule_error_iff, linesOutcome_eq_ok_iff]
  constructor
  · rintro ⟨before, line, after, rfl, ⟨loaded, htext, -, hreads⟩, hstrict, rfl, text, hrule, hread⟩
    exact ⟨hstrict, before, line, after, text, rfl, Nat.add_comm _ _, htext, hreads hstrict, hrule,
      hread⟩
  · rintro ⟨hstrict, before, line, after, text, rfl, rfl, htext, hreads, hrule, hread⟩
    exact ⟨before, line, after, rfl, ⟨_, htext, rfl, fun _ => hreads⟩, hstrict, Nat.add_comm _ _,
      text, hrule, hread⟩

theorem eq_invalidText_of_linesOutcome (h : linesOutcome policy n lines = .error e) :
    e = .io .invalidText ∨ ∃ k cause, policy = .strict ∧ e = .rule k cause := by
  obtain ⟨before, line, after, -, -, hline⟩ := linesOutcome_eq_error_iff.1 h
  rcases lineOutcome_eq_error_iff.1 hline with ⟨-, rfl⟩ | ⟨text, cause, hstrict, -, -, rfl⟩
  · exact .inl rfl
  · exact .inr ⟨_, cause, hstrict, rfl⟩

end

theorem exists_loadFailure_iff {policy : Policy} {content : FileContent} :
    (∃ e, LoadFailure policy content e) ↔ ∃ e, fileOutcome policy content = .error e := by
  constructor
  · rintro ⟨e, hfailure⟩
    cases hload : fileOutcome policy content with
    | error cause => exact ⟨cause, rfl⟩
    | ok loaded =>
      cases hfailure with
      | unreadable fault => cases hload
      | badText hline htext =>
        have hdecodes := (linesOutcome_eq_ok_iff.1 hload).1 _ hline
        rw [htext] at hdecodes
        cases hdecodes
      | badRule hstrict hline hrule hread =>
        have htext : _ ∈ ruleTexts _ := List.mem_filterMap.2
          ⟨_, List.mem_of_getElem? hline, ofBytes?_eq_rule_iff.1 hrule⟩
        obtain ⟨rule, hok⟩ := (linesOutcome_eq_ok_iff.1 hload).2.2 hstrict _ htext
        cases hread.symm.trans hok
  · rintro ⟨e, hload⟩
    cases content with
    | unreadable fault => exact ⟨_, .unreadable fault⟩
    | bytes content =>
      have hvalue : ((load policy content).run 0).value = .error e :=
        (run_load_value policy content 0).trans hload
      exact ⟨e, loadFailure_of_load hvalue⟩

theorem Loaded.length_add_skipped_ofRuleTexts (texts : List String) :
    (ofRuleTexts texts).rules.length + (ofRuleTexts texts).skipped = texts.length := by
  have hlost : (fun text => (Rule.read text).toOption.isNone) =
      fun text => decide ¬ (Rule.read text).toOption.isSome = true := by
    funext text
    cases (Rule.read text).toOption <;> rfl
  rw [ofRuleTexts, List.length_filterMap_eq_countP, hlost, ← List.length_eq_countP_add_countP]

theorem Loaded.skipped_ofRuleTexts_eq_zero_iff {texts : List String} :
    (ofRuleTexts texts).skipped = 0 ↔ ∀ text ∈ texts, Rule.Readable text := by
  rw [ofRuleTexts, List.countP_eq_zero]
  refine forall₂_congr fun text _ => ?_
  cases hread : Rule.read text with
  | ok rule => simp [Rule.Readable, hread]
  | error cause => simp [Rule.Readable, hread]

/-- The two policies on the same bytes. Leniently they load unless they are no text, and each rule line
is either read or counted. Strictly they load when none was counted, with the same rules; the first
rule line that does not read is reported if all lines up to it are text; and bad text is what is
left. -/
theorem load_under_both_policies (bytes : List UInt8) (mask : LogMask) :
    let lenient := ((load .lenient bytes).run mask).value
    let strict := ((load .strict bytes).run mask).value
    let texts := ruleTexts (lines bytes)
    (match lenient with
      | .error e => decode? bytes = none ∧ e = .io .invalidText
      | .ok loaded => decode? bytes ≠ none ∧
          loaded.rules = texts.filterMap (fun text => (Rule.read text).toOption) ∧
          loaded.rules.length + loaded.skipped = texts.length) ∧
    (∀ loaded, strict = .ok loaded ↔ lenient = .ok loaded ∧ loaded.skipped = 0) ∧
    (∀ n cause, strict = .error (.rule n cause) ↔ FirstBadRule (lines bytes) n cause) ∧
    (strict = .error (.io .invalidText) ↔
      (¬ ∃ loaded, lenient = .ok loaded ∧ loaded.skipped = 0) ∧
        ¬ ∃ n cause, FirstBadRule (lines bytes) n cause) := by
  simp only [run_load_value]
  have hloads : ∀ loaded, linesOutcome .strict 1 (lines bytes) = .ok loaded ↔
      linesOutcome .lenient 1 (lines bytes) = .ok loaded ∧ loaded.skipped = 0 := by
    intro loaded
    simp only [linesOutcome_eq_ok_iff, true_implies, reduceCtorEq, false_implies, and_true]
    constructor
    · rintro ⟨htext, rfl, hreads⟩
      exact ⟨⟨htext, rfl⟩, Loaded.skipped_ofRuleTexts_eq_zero_iff.2 hreads⟩
    · rintro ⟨⟨htext, rfl⟩, hnone⟩
      exact ⟨htext, rfl, Loaded.skipped_ofRuleTexts_eq_zero_iff.1 hnone⟩
  have hfails : ∀ n cause, linesOutcome .strict 1 (lines bytes) = .error (.rule n cause) ↔
      FirstBadRule (lines bytes) n cause := fun n cause => by
    rw [linesOutcome_eq_rule_error_iff, eq_self, true_and]
  refine ⟨?_, hloads, hfails, ?_⟩
  · cases h : linesOutcome .lenient 1 (lines bytes) with
    | error e =>
      rcases eq_invalidText_of_linesOutcome h with rfl | ⟨n, cause, hstrict, -⟩
      · refine ⟨Option.not_isSome_iff_eq_none.1 fun htext => ?_, rfl⟩
        have hloaded : linesOutcome .lenient 1 (lines bytes) = .ok _ := linesOutcome_eq_ok_iff.2
          ⟨isSome_decode?_iff_lines.1 htext, rfl, fun hstrict => by cases hstrict⟩
        cases h.symm.trans hloaded
      · cases hstrict
    | ok loaded =>
      obtain ⟨htext, rfl, -⟩ := linesOutcome_eq_ok_iff.1 h
      refine ⟨fun hnone => ?_, rfl, Loaded.length_add_skipped_ofRuleTexts _⟩
      have hsome := isSome_decode?_iff_lines.2 htext
      rw [hnone] at hsome
      cases hsome
  · simp only [← hloads, ← hfails]
    cases h : linesOutcome .strict 1 (lines bytes) with
    | ok loaded => simp
    | error e =>
      rcases eq_invalidText_of_linesOutcome h with rfl | ⟨n, cause, -, rfl⟩ <;> simp

end PortGate
