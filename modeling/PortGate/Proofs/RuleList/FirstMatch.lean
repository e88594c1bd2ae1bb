import PortGate.RuleList.Decision
import PortGate.RuleList.PermittedPorts

/-! The two readings of a rule list agree. A request is decided by going forward to the first rule
that matches; the permitted ports of an endpoint come from going backward and overwriting. Both
are described by what one more rule in front of a list changes. -/

namespace PortGate
open PortSet

namespace Verdict

@[simp] theorem action_shift (n : Nat) (v : Verdict) : (v.shift n).action = v.action := by
  cases v <;> rfl

theorem shift_shift (m n : Nat) (v : Verdict) : (v.shift n).shift m = v.shift (m + n) := by
  cases v <;> simp [shift, Nat.add_assoc]

end Verdict

theorem decideFrom_eq_shift (start : Nat) (rules : List Rule) (q : Request) :
    decideFrom start rules q = (decideRequest rules q).shift start := by
  unfold decideRequest
  induction rules generalizing start with
  | nil => rfl
  | cons r rules ih =>
    by_cases h : r.matchesRequest q = true
    · simp only [decideFrom, h, if_true, Verdict.shift, Nat.add_zero]
    · simp only [decideFrom, h]
      rw [if_neg Bool.false_ne_true, if_neg Bool.false_ne_true, ih (start + 1), ih (0 + 1),
        Verdict.shift_shift, Nat.zero_add]

theorem decideRequest_cons (r : Rule) (rules : List Rule) (q : Request) :
    decideRequest (r :: rules) q =
      if r.matchesRequest q then .matched 0 r.action else (decideRequest rules q).shift 1 := by
  rw [decideRequest, decideFrom, decideFrom_eq_shift]

theorem decideRequest_append (first second : List Rule) (q : Request) :
    decideRequest (first ++ second) q =
      match decideRequest first q with
      | .matched index action => .matched index action
      | .byDefault => (decideRequest second q).shift first.length := by
  induction first with
  | nil =>
    have hnone : (decideRequest second q).shift 0 = decideRequest second q := by
      cases decideRequest second q <;> simp [Verdict.shift]
    exact hnone.symm
  | cons r first ih =>
    rw [List.cons_append, decideRequest_cons, decideRequest_cons, ih]
    by_cases h : r.matchesRequest q = true
    · rw [if_pos h, if_pos h]
    · rw [if_neg h, if_neg h]
      cases decideRequest first q with
      | matched index action => rfl
      | byDefault => exact (Verdict.shift_shift 1 first.length _).trans (by rw [Nat.add_comm]; rfl)

theorem decideRequest_eq_byDefault_iff {rules : List Rule} {q : Request} :
    decideRequest rules q = .byDefault ↔ ∀ r ∈ rules, ¬r.matchesRequest q = true := by
  induction rules with
  | nil => simp [decideRequest, decideFrom]
  | cons r rules ih =>
    rw [decideRequest_cons, List.forall_mem_cons, ← ih]
    by_cases h : r.matchesRequest q = true
    · simp [h]
    · rw [if_neg h]
      cases decideRequest rules q <;> simp [h, Verdict.shift]

theorem decideRequest_eq_matched_iff {rules : List Rule} {q : Request} {index : Nat}
    {action : Action} :
    decideRequest rules q = .matched index action ↔
      ∃ before r after, rules = before ++ r :: after ∧ before.length = index ∧
        (∀ earlier ∈ before, ¬earlier.matchesRequest q = true) ∧ r.matchesRequest q = true ∧
        r.action = action := by
  constructor
  · intro h
    induction rules generalizing index with
    | nil => cases h
    | cons r rules ih =>
      rw [decideRequest_cons] at h
      split at h
      · rename_i hmatch
        cases h
        exact ⟨[], r, rules, rfl, rfl, by simp, hmatch, rfl⟩
      · rename_i hmatch
        cases hrest : decideRequest rules q with
        | byDefault =>
          rw [hrest] at h
          cases h
        | matched later found =>
          rw [hrest] at h
          cases h
          obtain ⟨before, decider, after, rfl, hlength, hnone, hdecider, haction⟩ := ih hrest
          refine ⟨r :: before, decider, after, rfl, ?_, ?_, hdecider, haction⟩
          · rw [List.length_cons, hlength, Nat.add_comm]
          · exact List.forall_mem_cons.2 ⟨hmatch, hnone⟩
  · rintro ⟨before, r, after, rfl, rfl, hnone, hmatch, rfl⟩
    rw [decideRequest_append, decideRequest_eq_byDefault_iff.2 hnone, decideRequest_cons,
      if_pos hmatch]
    rfl

theorem lt_length_of_decideRequest {rules : List Rule} {q : Request} {index : Nat} {action : Action}
    (h : decideRequest rules q = .matched index action) : index < rules.length := by
  obtain ⟨before, r, after, rfl, rfl, -⟩ := decideRequest_eq_matched_iff.1 h
  simp

theorem action_decideRequest_cons (r : Rule) (rules : List Rule) (q : Request) :
    (decideRequest (r :: rules) q).action =
      if r.matchesRequest q then r.action else (decideRequest rules q).action := by
  rw [decideRequest_cons]
  split
  · rfl
  · exact Verdict.action_shift 1 _

theorem isAllowed_decideRequest_cons (r : Rule) (rules : List Rule) (q : Request) :
    (decideRequest (r :: rules) q).isAllowed =
      if r.matchesRequest q then r.action == .allow else (decideRequest rules q).isAllowed := by
  rw [Verdict.isAllowed, action_decideRequest_cons]
  split <;> rfl

@[simp] theorem run_evaluate_value (rules : List Rule) (q : Request) (mask : LogMask) :
    ((evaluate rules q).run mask).value = decideRequest rules q := rfl

theorem get_applyRule (endpoint : Endpoint) (allowed : PortSet) (r : Rule) (p : Port) :
    (applyRule endpoint allowed r).get p =
      if r.matchesInternal endpoint = true ∧ p ∈ r.eports then r.action == .allow
      else allowed.get p := by
  unfold applyRule
  by_cases h : r.matchesInternal endpoint = true
  · rw [if_pos h, get_fill]
    simp only [h, true_and, PortRange.mem_iff]
  · rw [if_neg h, if_neg fun both => h both.1]

theorem permittedPorts_cons (endpoint : Endpoint) (r : Rule) (rules : List Rule) :
    permittedPorts (r :: rules) endpoint = applyRule endpoint (permittedPorts rules endpoint) r := by
  rw [permittedPorts, List.reverse_cons, List.foldl_append, List.foldl_cons, List.foldl_nil,
    permittedPorts]

theorem get_permittedPorts_cons (endpoint : Endpoint) (r : Rule) (rules : List Rule) (p : Port) :
    (permittedPorts (r :: rules) endpoint).get p =
      if r.matchesInternal endpoint = true ∧ p ∈ r.eports then r.action == .allow
      else (permittedPorts rules endpoint).get p := by
  rw [permittedPorts_cons, get_applyRule]

/-- The rules that a description leaves in force: those with a pattern that it fails are out. -/
def rulesFor (description : Option String) (rules : List Rule) : List Rule :=
  match description with
  | none => rules
  | some text => rules.filter fun r => r.pattern.all (·.isMatch text)

theorem rulesFor_eq_filter (description : Option String) (rules : List Rule) :
    rulesFor description rules = rules.filter (·.matchesDescription description) := by
  cases description with
  | none => exact (List.filter_eq_self.2 fun _ _ => rfl).symm
  | some text => rfl

theorem rulesFor_cons (description : Option String) (r : Rule) (rules : List Rule) :
    rulesFor description (r :: rules) =
      if r.matchesDescription description then r :: rulesFor description rules
      else rulesFor description rules := by
  simp only [rulesFor_eq_filter, List.filter_cons]

/-- Going backward over the rules in force and going forward over all rules give each port the same
answer. -/
theorem get_permittedPorts_rulesFor (rules : List Rule) (endpoint : Endpoint)
    (description : Option String) (p : Port) :
    (permittedPorts (rulesFor description rules) endpoint).get p =
      (decideRequest rules ⟨p, endpoint, description⟩).isAllowed := by
  induction rules with
  | nil =>
    have hnil : rulesFor description [] = [] := by cases description <;> rfl
    rw [hnil]
    exact get_all p
  | cons r rules ih =>
    rw [isAllowed_decideRequest_cons, rulesFor_cons, ← ih]
    by_cases hd : r.matchesDescription description = true
    · rw [if_pos hd, get_permittedPorts_cons]
      simp only [Rule.matchesRequest, hd, Bool.and_true, Bool.and_eq_true, decide_eq_true_eq,
        and_comm]
    · rw [if_neg hd]
      simp [Rule.matchesRequest, hd]

theorem get_permittedPorts (rules : List Rule) (endpoint : Endpoint) (p : Port) :
    (permittedPorts rules endpoint).get p = (decideRequest rules ⟨p, endpoint, none⟩).isAllowed :=
  get_permittedPorts_rulesFor rules endpoint none p

/-- A port is permitted by the rules that a description leaves in force exactly when a request for it
with that description is accepted. Without a description this concerns the whole list. -/
theorem mem_permittedPorts_iff_accepted (rules : List Rule) (endpoint : Endpoint) (p : Port)
    (mask : LogMask) :
    (∀ description, p ∈ permittedPorts (rulesFor description rules) endpoint ↔
      ((evaluate rules ⟨p, endpoint, description⟩).run mask).value.isAllowed = true) ∧
    (p ∈ permittedPorts rules endpoint ↔
      ((evaluate rules ⟨p, endpoint, none⟩).run mask).value.isAllowed = true) := by
  have agree (description : Option String) :
      p ∈ permittedPorts (rulesFor description rules) endpoint ↔
        ((evaluate rules ⟨p, endpoint, description⟩).run mask).value.isAllowed = true := by
    rw [mem_iff, get_permittedPorts_rulesFor, run_evaluate_value]
  exact ⟨agree, agree none⟩

end PortGate
