import PortGate.Proofs.Pattern.CaseReading
import PortGate.Proofs.Pattern.PlainText
import PortGate.Proofs.RuleList.FirstMatch
import PortGate.Rule.Reader

/-! A client that changes only the case of letters in its description. Patterns are read with case
ignored, and the decision stays what it was as long as no pattern switches that off or lists in a class an
interval that is folded in part only. -/

namespace PortGate
open Pattern (KeepsCaseFlag FoldsClassesWhole)
variable {text other : String} {rules : List Rule} {p q : Request}

theorem Pattern.isMatch_eq_of_like {pattern : Pattern} (hflag : KeepsCaseFlag pattern.source)
    (hclasses : FoldsClassesWhole pattern.source)
    (hlike : text.toList.map Char.toLower = other.toList.map Char.toLower) :
    pattern.isMatch text = pattern.isMatch other := by
  have hread := Pattern.Node.read_of_compile pattern.compiled
  have hclosed := Pattern.Node.caseClosed_of_read hread hflag hclasses
  exact hclosed.findsIn_eq hlike

theorem decideRequest_eq_of_matches
    (h : ∀ r ∈ rules, r.matchesRequest p = r.matchesRequest q) :
    decideRequest rules p = decideRequest rules q := by
  induction rules with
  | nil => rfl
  | cons r rules ih =>
    obtain ⟨hr, hrules⟩ := List.forall_mem_cons.1 h
    rw [decideRequest_cons, decideRequest_cons, hr, ih hrules]

/-- Descriptions that differ in the case of ASCII letters only are alike to every pattern that keeps the
case flag and folds its classes whole, and to every list of rules that have such patterns. -/
theorem description_case_ignored
    (hlike : text.toList.map Char.toLower = other.toList.map Char.toLower) :
    (∀ source pattern, Pattern.ofSource source = .ok pattern → KeepsCaseFlag source →
      FoldsClassesWhole source → pattern.isMatch text = pattern.isMatch other) ∧
    ∀ rules : List Rule,
      (∀ r ∈ rules, ∀ pattern ∈ r.pattern,
        KeepsCaseFlag pattern.source ∧ FoldsClassesWhole pattern.source) →
      ∀ external internal,
        (∀ r ∈ rules, r.matchesRequest ⟨external, internal, some text⟩ =
          r.matchesRequest ⟨external, internal, some other⟩) ∧
        evaluate rules ⟨external, internal, some text⟩ =
          evaluate rules ⟨external, internal, some other⟩ := by
  constructor
  · intro source pattern haccept hflag hclasses
    obtain ⟨rfl, -⟩ := Pattern.ofSource_eq_ok_iff.1 haccept
    exact Pattern.isMatch_eq_of_like hflag hclasses hlike
  · intro rules hpatterns external internal
    have hmatches : ∀ r ∈ rules, r.matchesRequest ⟨external, internal, some text⟩ =
        r.matchesRequest ⟨external, internal, some other⟩ := by
      intro r hr
      have hpattern := hpatterns r hr
      rw [Rule.matchesRequest, Rule.matchesRequest, Rule.matchesDescription,
        Rule.matchesDescription]
      cases hp : r.pattern with
      | none => rfl
      | some pattern =>
        obtain ⟨hflag, hclasses⟩ := hpattern pattern hp
        rw [Option.all_some, Option.all_some, Pattern.isMatch_eq_of_like hflag hclasses hlike]
    refine ⟨hmatches, ?_⟩
    rw [evaluate, evaluate, decideRequest_eq_of_matches hmatches]

theorem description_case_ignored_both_cases :
    ∃ r pattern,
      Rule.read "deny 1-65535 10.0.0.0/8 1-65535 \\b(?:cam|[A-z]{2}\\d)+$" = .ok r ∧
      r.pattern = some pattern ∧ KeepsCaseFlag pattern.source ∧ FoldsClassesWhole pattern.source ∧
      pattern.isMatch "Yi cAMxZ7" = pattern.isMatch "yi CaMXz7" ∧
      evaluate [r] ⟨80, ⟨.ofOctets 10 0 0 1, 80⟩, some "Yi cAMxZ7"⟩ =
        evaluate [r] ⟨80, ⟨.ofOctets 10 0 0 1, 80⟩, some "yi CaMXz7"⟩ ∧
      decideRequest [r] ⟨80, ⟨.ofOctets 10 0 0 1, 80⟩, some "yi CaMXz7"⟩ = .matched 0 .deny := by
  have hread : (Rule.read
      "deny 1-65535 10.0.0.0/8 1-65535 \\b(?:cam|[A-z]{2}\\d)+$").toOption.any (fun r =>
        r.pattern.any fun pattern => decide <|
          KeepsCaseFlag pattern.source ∧ FoldsClassesWhole pattern.source ∧
          decideRequest [r] ⟨80, ⟨.ofOctets 10 0 0 1, 80⟩, some "yi CaMXz7"⟩ =
            .matched 0 .deny) = true := by decide +kernel
  obtain ⟨r, hr, hread⟩ := (Option.any_eq_true _ _).1 hread
  obtain ⟨pattern, hpattern, hread⟩ := (Option.any_eq_true _ _).1 hread
  obtain ⟨hflag, hclasses, hverdict⟩ := of_decide_eq_true hread
  have hlike : "Yi cAMxZ7".toList.map Char.toLower = "yi CaMXz7".toList.map Char.toLower := by
    decide +kernel
  obtain ⟨hmatch, hevaluate⟩ := description_case_ignored hlike
  have hpatterns : ∀ r' ∈ [r], ∀ pattern' ∈ r'.pattern,
      KeepsCaseFlag pattern'.source ∧ FoldsClassesWhole pattern'.source := by
    simp only [List.mem_singleton, forall_eq, hpattern, Option.mem_some]
    rintro _ rfl
    exact ⟨hflag, hclasses⟩
  exact ⟨r, pattern, toOption_eq_some_iff.1 hr, hpattern, hflag, hclasses,
    hmatch _ pattern (Pattern.ofSource_source pattern) hflag hclasses,
    (hevaluate [r] hpatterns _ _).2, hverdict⟩

/-- Of an interval that begins among the capital letters or before them and reaches into the small ones
only the small letters are folded, and a description that the rule refuses passes in small letters. -/
theorem deny_rule_avoided_by_case :
    ∃ r pattern,
      Rule.read "deny 1-65535 10.0.0.0/8 1-65535 [@-c]" = .ok r ∧ r.pattern = some pattern ∧
      KeepsCaseFlag pattern.source ∧ ¬FoldsClassesWhole pattern.source ∧
      "D".toList.map Char.toLower = "d".toList.map Char.toLower ∧
      pattern.isMatch "D" = true ∧ pattern.isMatch "d" = false ∧
      decideRequest [r] ⟨80, ⟨.ofOctets 10 0 0 1, 80⟩, some "D"⟩ = .matched 0 .deny ∧
      decideRequest [r] ⟨80, ⟨.ofOctets 10 0 0 1, 80⟩, some "d"⟩ = .byDefault := by
  have hread : (Rule.read "deny 1-65535 10.0.0.0/8 1-65535 [@-c]").toOption.any (fun r =>
      r.pattern.any fun pattern => decide <|
        KeepsCaseFlag pattern.source ∧ ¬FoldsClassesWhole pattern.source ∧
        "D".toList.map Char.toLower = "d".toList.map Char.toLower ∧
        pattern.isMatch "D" = true ∧ pattern.isMatch "d" = false ∧
        decideRequest [r] ⟨80, ⟨.ofOctets 10 0 0 1, 80⟩, some "D"⟩ = .matched 0 .deny ∧
        decideRequest [r] ⟨80, ⟨.ofOctets 10 0 0 1, 80⟩, some "d"⟩ = .byDefault) = true := by
    decide +kernel
  obtain ⟨r, hr, hread⟩ := (Option.any_eq_true _ _).1 hread
  obtain ⟨pattern, hpattern, hread⟩ := (Option.any_eq_true _ _).1 hread
  exact ⟨r, pattern, toOption_eq_some_iff.1 hr, hpattern, of_decide_eq_true hread⟩

end PortGate
