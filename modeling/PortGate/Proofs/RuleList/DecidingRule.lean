import PortGate.Proofs.RuleList.DeadRules

/-! The decision in full: which rule decides a request, told by its place in the list and by the four
things that it asks of the request; what two lists one behind the other decide; and what the log says
about it. -/

namespace PortGate

namespace Rule

variable {r : Rule} {q : Request}

/-- What a rule asks of a request, one field for each thing. Bits that the mask leaves open do not count,
and a pattern counts only against a description. -/
structure Suits (r : Rule) (q : Request) : Prop where
  external : r.eports.lo ≤ q.external ∧ q.external ≤ r.eports.hi
  internal : r.iports.lo ≤ q.internal.port ∧ q.internal.port ≤ r.iports.hi
  address : q.internal.address &&& r.subnet.mask = r.subnet.address &&& r.subnet.mask
  description : ∀ text p, q.description = some text → r.pattern = some p → p.isMatch text = true

theorem matchesDescription_iff {description : Option String} :
    r.matchesDescription description = true ↔
      ∀ text p, description = some text → r.pattern = some p → p.isMatch text = true := by
  cases description with
  | none => simp [matchesDescription]
  | some text =>
    rw [matchesDescription, Option.all_eq_true_iff_get]
    cases hp : r.pattern <;> simp

theorem suits_iff : r.Suits q ↔ r.matchesRequest q = true := by
  rw [matchesRequest_iff, matchesInternal_iff, Subnet.contains_eq_true_iff, matchesDescription_iff]
  constructor
  · intro h
    exact ⟨⟨h.external, h.internal, h.address⟩, h.description⟩
  · rintro ⟨⟨hexternal, hinternal, haddress⟩, hdescription⟩
    exact ⟨hexternal, hinternal, haddress, hdescription⟩

end Rule

section
variable {rules : List Rule} {q : Request} {index : Nat} {action : Action}

theorem decideRequest_eq_matched_iff_getElem? :
    decideRequest rules q = .matched index action ↔
      ∃ r, rules[index]? = some r ∧ r.Suits q ∧ r.action = action ∧
        ∀ j < index, ∀ earlier, rules[j]? = some earlier → ¬earlier.Suits q := by
  simp only [Rule.suits_iff]
  rw [decideRequest_eq_matched_iff]
  constructor
  · rintro ⟨before, r, after, rfl, rfl, hnone, hmatch, haction⟩
    have hplace : (before ++ r :: after)[before.length]? = some r := by
      rw [List.getElem?_append_right (Nat.le_refl _), Nat.sub_self, List.getElem?_cons_zero]
    refine ⟨r, hplace, hmatch, haction, ?_⟩
    intro j hj earlier hearlier
    rw [List.getElem?_append_left hj] at hearlier
    exact hnone earlier (List.mem_of_getElem? hearlier)
  · rintro ⟨r, hr, hmatch, haction, hnone⟩
    obtain ⟨hlt, rfl⟩ := List.getElem?_eq_some_iff.1 hr
    have hsplit : rules = rules.take index ++ rules[index] :: rules.drop (index + 1) := by
      rw [List.getElem_cons_drop, List.take_append_drop]
    refine ⟨_, _, _, hsplit, List.length_take_of_le (Nat.le_of_lt hlt), ?_, hmatch, haction⟩
    intro earlier hearlier
    obtain ⟨j, hj, rfl⟩ := List.mem_take_iff_getElem.1 hearlier
    have hbefore : j < index := by omega
    exact hnone j hbefore _ (List.getElem?_eq_getElem _)

theorem decideRequest_append_of_matched (others : List Rule)
    (h : decideRequest rules q = .matched index action) :
    decideRequest (rules ++ others) q = .matched index action := by
  rw [decideRequest_append, h]

theorem decideRequest_append_of_byDefault (others : List Rule)
    (h : decideRequest rules q = .byDefault) :
    decideRequest (rules ++ others) q = (decideRequest others q).shift rules.length := by
  rw [decideRequest_append, h]

end

theorem run_evaluate_events (rules : List Rule) (q : Request) (mask : LogMask) :
    ((evaluate rules q).run mask).events =
      if mask.toNat.testBit Priority.debug.toNat then
        [.message .debug ((decideRequest rules q).explain rules.length)]
      else [] :=
  List.append_nil _

theorem Verdict.explain_matched (n index : Nat) (action : Action) :
    (matched index action).explain n =
      "UPnP permission rule " ++ toString index ++ " matched : port mapping " ++
        if (matched index action).isAllowed = true then "accepted" else "rejected" := by
  cases action <;> rfl

/-- The first rule that suits a request decides it, with its place in the list and its action, and by
default it is accepted when none suits it. A list behind others has the say on what they leave, its
places counted on. Each decision leaves one message, which names the place of the rule and what
becomes of the mapping, or the number of rules. -/
theorem first_match_decides (rules others : List Rule) (q : Request) (mask : LogMask) :
    let decision := (evaluate rules q).run mask
    let next := (evaluate others q).run mask
    let both := (evaluate (rules ++ others) q).run mask
    (∀ index action, decision.value = .matched index action ↔
      ∃ r, rules[index]? = some r ∧ r.Suits q ∧ r.action = action ∧
        ∀ j < index, ∀ earlier, rules[j]? = some earlier → ¬earlier.Suits q) ∧
    (decision.value = .byDefault ↔ ∀ r ∈ rules, ¬r.Suits q) ∧
    (∀ index action, decision.value = .matched index action → both.value = .matched index action) ∧
    (decision.value = .byDefault →
      (∀ index action, next.value = .matched index action →
        both.value = .matched (rules.length + index) action) ∧
      (next.value = .byDefault → both.value = .byDefault)) ∧
    ∃ text,
      decision.events = (if mask.toNat.testBit 7 then [.message .debug text] else []) ∧
      (∀ index action, decision.value = .matched index action →
        text = "UPnP permission rule " ++ toString index ++ " matched : port mapping " ++
          if decision.value.isAllowed = true then "accepted" else "rejected") ∧
      (decision.value = .byDefault → decision.value.isAllowed = true ∧
        text = "no permission rule matched : accept by default (n_perms=" ++
          toString rules.length ++ ")") := by
  intro decision next both
  have hdecision : decision.value = decideRequest rules q := rfl
  have hnext : next.value = decideRequest others q := rfl
  have hboth : both.value = decideRequest (rules ++ others) q := rfl
  rw [hdecision, hnext, hboth]
  refine ⟨fun _ _ => decideRequest_eq_matched_iff_getElem?, ?_, ?_, ?_, ?_⟩
  · simp only [Rule.suits_iff]
    exact decideRequest_eq_byDefault_iff
  · intro index action h
    exact decideRequest_append_of_matched others h
  · intro h
    rw [decideRequest_append_of_byDefault others h]
    constructor
    · intro index action hlater
      rw [hlater, Verdict.shift]
    · intro hnone
      rw [hnone, Verdict.shift]
  · refine ⟨_, run_evaluate_events rules q mask, ?_, ?_⟩
    · intro index action h
      rw [h]
      exact Verdict.explain_matched _ _ _
    · intro h
      rw [h]
      exact ⟨rfl, rfl⟩

end PortGate
