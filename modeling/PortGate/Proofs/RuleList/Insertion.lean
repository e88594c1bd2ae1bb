import PortGate.Proofs.RuleList.DeadRules

/-! One rule more. A rule put into a list, at any place, decides the requests that it matches and that no
rule before it matches; every other request keeps its action. So a rule that allows turns nobody away, a
rule that denies lets nobody in, and permitted ports change inside its external range only. -/

namespace PortGate
open PortSet

/-- Behind `before` the rule has the say on a request: it matches, and none before it does. -/
structure DecidesBehind (before : List Rule) (r : Rule) (q : Request) : Prop where
  matching : r.matchesRequest q = true
  unmatched : ∀ earlier ∈ before, ¬earlier.matchesRequest q = true

section
variable {before after : List Rule} {r : Rule} {q : Request} {endpoint : Endpoint} {p : Port}

theorem decideRequest_insert_cases (before after : List Rule) (r : Rule) (q : Request) :
    (DecidesBehind before r q ∧ (decideRequest (before ++ r :: after) q).action = r.action) ∨
    (¬DecidesBehind before r q ∧
      (decideRequest (before ++ r :: after) q).action =
        (decideRequest (before ++ after) q).action) := by
  by_cases h : DecidesBehind before r q
  · have hdecided : decideRequest (before ++ r :: after) q = .matched before.length r.action :=
      decideRequest_eq_matched_iff.2 ⟨before, r, after, rfl, rfl, h.unmatched, h.matching, rfl⟩
    exact .inl ⟨h, congrArg Verdict.action hdecided⟩
  · -- Without the say the rule matches only what an earlier one matches, so it might as well be away.
    have hidle : r.matchesRequest q = true → ∃ earlier ∈ before, earlier.matchesRequest q = true := by
      intro hmatch
      refine Classical.byContradiction fun hnone => h ⟨hmatch, fun earlier hmem hearlier => ?_⟩
      exact hnone ⟨earlier, hmem, hearlier⟩
    have haway : decideRequest (before ++ after) q =
        (decideRequest (before ++ r :: after) q).without before.length :=
      (decideRequest_append_cons hidle).2
    rw [haway, Verdict.action_without]
    exact .inr ⟨h, rfl⟩

theorem isAllowed_insert_cases (before after : List Rule) (r : Rule) (q : Request) :
    (DecidesBehind before r q ∧
      (decideRequest (before ++ r :: after) q).isAllowed = (r.action == .allow)) ∨
    (decideRequest (before ++ r :: after) q).isAllowed =
      (decideRequest (before ++ after) q).isAllowed := by
  simp only [Verdict.isAllowed]
  rcases decideRequest_insert_cases before after r q with ⟨h, haction⟩ | ⟨-, haction⟩
  · exact .inl ⟨h, congrArg (· == Action.allow) haction⟩
  · exact .inr (congrArg (· == Action.allow) haction)

theorem get_permittedPorts_insert_cases (before after : List Rule) (r : Rule) (endpoint : Endpoint)
    (p : Port) :
    (r.matchesInternal endpoint = true ∧ p ∈ r.eports ∧
      (permittedPorts (before ++ r :: after) endpoint).get p = (r.action == .allow)) ∨
    (permittedPorts (before ++ r :: after) endpoint).get p =
      (permittedPorts (before ++ after) endpoint).get p := by
  rw [get_permittedPorts, get_permittedPorts]
  rcases isAllowed_insert_cases before after r ⟨p, endpoint, none⟩ with ⟨h, hallowed⟩ | hkept
  · obtain ⟨⟨hexternal, hinternal⟩, -⟩ := Rule.matchesRequest_iff.1 h.matching
    exact .inl ⟨hinternal, hexternal, hallowed⟩
  · exact .inr hkept

theorem isAllowed_insert_of_allow (h : r.action = .allow)
    (hq : (decideRequest (before ++ after) q).isAllowed = true) :
    (decideRequest (before ++ r :: after) q).isAllowed = true := by
  rcases isAllowed_insert_cases before after r q with ⟨-, hallowed⟩ | hkept
  · rw [hallowed, h, beq_self_eq_true]
  · rw [hkept, hq]

theorem isAllowed_insert_of_deny (h : r.action = .deny)
    (hq : (decideRequest (before ++ after) q).isAllowed = false) :
    (decideRequest (before ++ r :: after) q).isAllowed = false := by
  rcases isAllowed_insert_cases before after r q with ⟨-, hallowed⟩ | hkept
  · rw [hallowed, h]
    rfl
  · rw [hkept, hq]

theorem mem_permittedPorts_insert_of_allow (h : r.action = .allow)
    (hp : p ∈ permittedPorts (before ++ after) endpoint) :
    p ∈ permittedPorts (before ++ r :: after) endpoint := by
  rw [mem_iff, get_permittedPorts] at hp ⊢
  exact isAllowed_insert_of_allow h hp

theorem mem_permittedPorts_of_insert_deny (h : r.action = .deny)
    (hp : p ∈ permittedPorts (before ++ r :: after) endpoint) :
    p ∈ permittedPorts (before ++ after) endpoint := by
  rw [mem_iff, get_permittedPorts] at hp ⊢
  refine eq_true_of_ne_false fun hrefused => ?_
  exact Bool.false_ne_true ((isAllowed_insert_of_deny h hrefused).symm.trans hp)

theorem permittedPorts_insert_of_not_matchesInternal (h : r.matchesInternal endpoint = false) :
    permittedPorts (before ++ r :: after) endpoint = permittedPorts (before ++ after) endpoint := by
  apply eq_of_get_eq
  intro p
  rcases get_permittedPorts_insert_cases before after r endpoint p with ⟨hinternal, -⟩ | hkept
  · exact absurd (hinternal.symm.trans h) (by decide)
  · exact hkept

end

/-- What one rule more does to a list, wherever it is put. It decides the requests on which it has the
say and no others change their action, so those accepted stay accepted when it allows and those
rejected stay rejected when it denies. The ports of an endpoint that it does not concern stay as they
are; of those of other endpoints only some in its external range change, and to its action. -/
theorem inserted_rule_effect (before after : List Rule) (r : Rule) :
    (∀ q, (DecidesBehind before r q →
        (decideRequest (before ++ r :: after) q).action = r.action) ∧
      (¬DecidesBehind before r q → (decideRequest (before ++ r :: after) q).action =
        (decideRequest (before ++ after) q).action)) ∧
    (r.action = .allow →
      (∀ q, (decideRequest (before ++ after) q).isAllowed = true →
        (decideRequest (before ++ r :: after) q).isAllowed = true) ∧
      ∀ endpoint, ∀ p ∈ permittedPorts (before ++ after) endpoint,
        p ∈ permittedPorts (before ++ r :: after) endpoint) ∧
    (r.action = .deny →
      (∀ q, (decideRequest (before ++ after) q).isAllowed = false →
        (decideRequest (before ++ r :: after) q).isAllowed = false) ∧
      ∀ endpoint, ∀ p ∈ permittedPorts (before ++ r :: after) endpoint,
        p ∈ permittedPorts (before ++ after) endpoint) ∧
    ∀ endpoint,
      (r.matchesInternal endpoint = false → permittedPorts (before ++ r :: after) endpoint =
        permittedPorts (before ++ after) endpoint) ∧
      ∀ p, (permittedPorts (before ++ r :: after) endpoint).get p ≠
          (permittedPorts (before ++ after) endpoint).get p →
        p ∈ r.eports ∧
          (permittedPorts (before ++ r :: after) endpoint).get p = (r.action == .allow) := by
  refine ⟨fun q => ?_, fun h => ⟨fun q => isAllowed_insert_of_allow h, fun endpoint p => ?_⟩,
    fun h => ⟨fun q => isAllowed_insert_of_deny h, fun endpoint p => ?_⟩, fun endpoint => ⟨?_, ?_⟩⟩
  · rcases decideRequest_insert_cases before after r q with ⟨h, haction⟩ | ⟨h, haction⟩
    · exact ⟨fun _ => haction, fun hnot => absurd h hnot⟩
    · exact ⟨fun hnot => absurd hnot h, fun _ => haction⟩
  · exact mem_permittedPorts_insert_of_allow h
  · exact mem_permittedPorts_of_insert_deny h
  · exact permittedPorts_insert_of_not_matchesInternal
  · intro p hchanged
    rcases get_permittedPorts_insert_cases before after r endpoint p with ⟨-, hp, haction⟩ | hkept
    · exact ⟨hp, haction⟩
    · exact absurd hkept hchanged

end PortGate
