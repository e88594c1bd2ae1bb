import PortGate.Proofs.RuleList.FirstMatch

/-! Rules that never decide. A rule without a pattern covers another one when its ranges contain the
other's and its mask selects no bit that the other leaves open; then it matches whatever the other
matches. A rule behind one that covers it can be taken out, and nothing else changes. -/

namespace PortGate
open PortSet

/-! ### One range in another, one block in another -/

theorem PortRange.forall_mem_iff {inner outer : PortRange} :
    (∀ p ∈ inner, p ∈ outer) ↔ outer.lo ≤ inner.lo ∧ inner.hi ≤ outer.hi := by
  constructor
  · intro h
    have hlo : inner.lo ∈ outer := h inner.lo ⟨UInt16.le_refl _, inner.lo_le_hi⟩
    have hhi : inner.hi ∈ outer := h inner.hi ⟨inner.lo_le_hi, UInt16.le_refl _⟩
    exact ⟨hlo.1, hhi.2⟩
  · rintro ⟨hlo, hhi⟩ p hp
    exact ⟨UInt16.le_trans hlo hp.1, UInt16.le_trans hp.2 hhi⟩

namespace Subnet

theorem contains_eq_true_iff {s : Subnet} {address : Address} :
    s.contains address = true ↔ address &&& s.mask = s.address &&& s.mask :=
  beq_iff_eq

theorem and_xor_not (address mask : Address) : (address ^^^ ~~~mask) &&& mask = address &&& mask := by
  apply BitVec.eq_of_getLsbD_eq
  intro i hi
  simp only [BitVec.getLsbD_and, BitVec.getLsbD_xor, BitVec.getLsbD_not, hi, decide_true,
    Bool.true_and]
  cases address.getLsbD i <;> cases mask.getLsbD i <;> rfl

theorem and_eq_of_and_xor_not {address outer inner : Address}
    (h : (address ^^^ ~~~inner) &&& outer = address &&& outer) : outer &&& inner = outer := by
  apply BitVec.eq_of_getLsbD_eq
  intro i hi
  have hbit := congrArg (BitVec.getLsbD · i) h
  revert hbit
  simp only [BitVec.getLsbD_and, BitVec.getLsbD_xor, BitVec.getLsbD_not, hi, decide_true,
    Bool.true_and]
  cases address.getLsbD i <;> cases inner.getLsbD i <;> cases outer.getLsbD i <;> simp

theorem forall_contains_iff {inner outer : Subnet} :
    (∀ address, inner.contains address = true → outer.contains address = true) ↔
      outer.mask &&& inner.mask = outer.mask ∧
        outer.address &&& outer.mask = inner.address &&& outer.mask := by
  simp only [contains_eq_true_iff]
  constructor
  · intro h
    have hself : inner.address &&& outer.mask = outer.address &&& outer.mask :=
      h inner.address rfl
    have hturned : (inner.address ^^^ ~~~inner.mask) &&& outer.mask =
        outer.address &&& outer.mask :=
      h _ (and_xor_not inner.address inner.mask)
    exact ⟨and_eq_of_and_xor_not (hturned.trans hself.symm), hself.symm⟩
  · rintro ⟨hmask, haddress⟩ address hinner
    have hselect (a : Address) : a &&& outer.mask = a &&& inner.mask &&& outer.mask := by
      rw [BitVec.and_assoc, BitVec.and_comm inner.mask, hmask]
    rw [hselect, hinner, ← hselect, haddress]

end Subnet

namespace Rule

variable {r s : Rule}

structure Covers (r s : Rule) : Prop where
  eports : ∀ p ∈ s.eports, p ∈ r.eports
  iports : ∀ p ∈ s.iports, p ∈ r.iports
  mask : r.subnet.mask &&& s.subnet.mask = r.subnet.mask
  address : r.subnet.address &&& r.subnet.mask = s.subnet.address &&& r.subnet.mask

theorem covers_iff : r.Covers s ↔
    (r.eports.lo ≤ s.eports.lo ∧ s.eports.hi ≤ r.eports.hi) ∧
    (r.iports.lo ≤ s.iports.lo ∧ s.iports.hi ≤ r.iports.hi) ∧
    r.subnet.mask &&& s.subnet.mask = r.subnet.mask ∧
    r.subnet.address &&& r.subnet.mask = s.subnet.address &&& r.subnet.mask := by
  rw [← PortRange.forall_mem_iff, ← PortRange.forall_mem_iff]
  exact ⟨fun h => ⟨h.eports, h.iports, h.mask, h.address⟩, fun ⟨he, hi, hm, ha⟩ => ⟨he, hi, hm, ha⟩⟩

instance (r s : Rule) : Decidable (r.Covers s) := decidable_of_iff _ covers_iff.symm

theorem matchesInternal_iff {endpoint : Endpoint} :
    r.matchesInternal endpoint = true ↔
      endpoint.port ∈ r.iports ∧ r.subnet.contains endpoint.address = true := by
  rw [matchesInternal, Bool.and_eq_true, decide_eq_true_eq]

theorem matchesRequest_iff {q : Request} :
    r.matchesRequest q = true ↔ (q.external ∈ r.eports ∧ r.matchesInternal q.internal = true) ∧
      r.matchesDescription q.description = true := by
  rw [matchesRequest, Bool.and_eq_true, Bool.and_eq_true, decide_eq_true_eq]

theorem matchesDescription_of_pattern (h : r.pattern = none) (description : Option String) :
    r.matchesDescription description = true := by
  cases description with
  | none => rfl
  | some text => rw [matchesDescription, h, Option.all_none]

theorem Covers.matchesRequest (h : r.Covers s) (hpattern : r.pattern = none) {q : Request}
    (hs : s.matchesRequest q = true) : r.matchesRequest q = true := by
  obtain ⟨⟨hexternal, hinternal⟩, -⟩ := matchesRequest_iff.1 hs
  obtain ⟨hport, haddress⟩ := matchesInternal_iff.1 hinternal
  have hblock := Subnet.forall_contains_iff.2 ⟨h.mask, h.address⟩ _ haddress
  exact matchesRequest_iff.2 ⟨⟨h.eports _ hexternal, matchesInternal_iff.2 ⟨h.iports _ hport, hblock⟩⟩,
    matchesDescription_of_pattern hpattern _⟩

theorem covers_of_matchesRequest
    (h : ∀ q, s.matchesRequest q = true → r.matchesRequest q = true) : r.Covers s := by
  have hmatch {p i : Port} {a : Address} (hp : p ∈ s.eports) (hi : i ∈ s.iports)
      (ha : s.subnet.contains a = true) :
      p ∈ r.eports ∧ i ∈ r.iports ∧ r.subnet.contains a = true := by
    have hs : s.matchesRequest ⟨p, ⟨a, i⟩, none⟩ = true :=
      matchesRequest_iff.2 ⟨⟨hp, matchesInternal_iff.2 ⟨hi, ha⟩⟩, rfl⟩
    obtain ⟨⟨hexternal, hinternal⟩, -⟩ := matchesRequest_iff.1 (h _ hs)
    exact ⟨hexternal, matchesInternal_iff.1 hinternal⟩
  have hport (range : PortRange) : range.lo ∈ range := ⟨UInt16.le_refl _, range.lo_le_hi⟩
  have haddress : s.subnet.contains s.subnet.address = true := Subnet.contains_eq_true_iff.2 rfl
  obtain ⟨hmask, hagree⟩ := Subnet.forall_contains_iff.1 fun a ha =>
    (hmatch (hport s.eports) (hport s.iports) ha).2.2
  exact {
    eports := fun p hp => (hmatch hp (hport s.iports) haddress).1
    iports := fun i hi => (hmatch (hport s.eports) hi haddress).2.1
    mask := hmask
    address := hagree }

end Rule

/-! ### Taking a rule out -/

namespace Verdict

/-- What becomes of a verdict when the rule at `k`, which is not the one that decides, is taken out of
the list. -/
def without (k : Nat) : Verdict → Verdict
  | matched index action => matched (if index < k then index else index - 1) action
  | byDefault => byDefault

@[simp] theorem action_without (k : Nat) (v : Verdict) : (v.without k).action = v.action := by
  cases v <;> rfl

@[simp] theorem isAllowed_without (k : Nat) (v : Verdict) :
    (v.without k).isAllowed = v.isAllowed := by
  rw [isAllowed, action_without, isAllowed]

theorem without_shift (k : Nat) (v : Verdict) : ((v.shift 1).shift k).without k = v.shift k := by
  cases v with
  | byDefault => rfl
  | matched index action =>
    have hbehind : ¬k + (1 + index) < k := by omega
    have hmoved : k + (1 + index) - 1 = k + index := by omega
    rw [shift, shift, without, if_neg hbehind, hmoved, shift]

end Verdict

section
variable {before after : List Rule} {s : Rule} {q : Request}

theorem decideRequest_append_cons
    (hs : s.matchesRequest q = true → ∃ r ∈ before, r.matchesRequest q = true) :
    (decideRequest (before ++ s :: after) q).index? ≠ some before.length ∧
      decideRequest (before ++ after) q =
        (decideRequest (before ++ s :: after) q).without before.length := by
  rw [decideRequest_append, decideRequest_append]
  cases hbefore : decideRequest before q with
  | matched index action =>
    have hlt : index < before.length := lt_length_of_decideRequest hbefore
    refine ⟨?_, ?_⟩
    · simp only [Verdict.index?, ne_eq, Option.some.injEq]
      exact Nat.ne_of_lt hlt
    · simp only [Verdict.without, if_pos hlt]
  | byDefault =>
    -- No rule before decides, and so none of them matches, nor does the one that is taken out.
    have hnone : ¬s.matchesRequest q = true := by
      intro h
      obtain ⟨r, hr, hmatch⟩ := hs h
      exact decideRequest_eq_byDefault_iff.1 hbefore r hr hmatch
    rw [decideRequest_cons, if_neg hnone]
    refine ⟨?_, (Verdict.without_shift _ _).symm⟩
    cases decideRequest after q with
    | byDefault => simp [Verdict.shift, Verdict.index?]
    | matched index action =>
      simp only [Verdict.shift, Verdict.index?, ne_eq, Option.some.injEq]
      omega

end

theorem permittedPorts_eq_of_isAllowed {rules others : List Rule} {endpoint : Endpoint}
    (h : ∀ p, (decideRequest rules ⟨p, endpoint, none⟩).isAllowed =
      (decideRequest others ⟨p, endpoint, none⟩).isAllowed) :
    permittedPorts rules endpoint = permittedPorts others endpoint := by
  apply eq_of_get_eq
  intro p
  rw [get_permittedPorts, get_permittedPorts, h]

/-- A rule without a pattern matches all that another one matches exactly when it covers it, and a rule
that stands anywhere behind one that covers it never decides: without it each request meets the
same decider, if there is one, one place further in front if that stood behind it, and each
endpoint may use the same ports. -/
theorem covered_rule_removable {r : Rule} (hpattern : r.pattern = none) (s : Rule) :
    ((∀ q, s.matchesRequest q = true → r.matchesRequest q = true) ↔ r.Covers s) ∧
    (r.Covers s → ∀ before after, r ∈ before →
      (∀ q, (decideRequest (before ++ s :: after) q).index? ≠ some before.length) ∧
      (∀ q, decideRequest (before ++ after) q =
        (decideRequest (before ++ s :: after) q).without before.length) ∧
      ∀ endpoint, permittedPorts (before ++ after) endpoint =
        permittedPorts (before ++ s :: after) endpoint) := by
  refine ⟨⟨Rule.covers_of_matchesRequest, fun h q => h.matchesRequest hpattern⟩, ?_⟩
  intro hcovers before after hr
  have hremoved (q : Request) :
      (decideRequest (before ++ s :: after) q).index? ≠ some before.length ∧
        decideRequest (before ++ after) q =
          (decideRequest (before ++ s :: after) q).without before.length :=
    decideRequest_append_cons fun hs => ⟨r, hr, hcovers.matchesRequest hpattern hs⟩
  refine ⟨fun q => (hremoved q).1, fun q => (hremoved q).2, fun endpoint => ?_⟩
  apply permittedPorts_eq_of_isAllowed
  intro p
  rw [(hremoved ⟨p, endpoint, none⟩).2, Verdict.isAllowed_without]

theorem covered_rule_removable_gaps :
    let r : Rule := ⟨.allow, ⟨1000, 2000, by decide⟩, ⟨0xC0A80000, 0xFF0F0000⟩,
      ⟨0, 65535, by decide⟩, none⟩
    let s : Rule := ⟨.deny, ⟨1500, 2000, by decide⟩, ⟨0xC0780501, 0xFF0F00FF⟩,
      ⟨80, 80, by decide⟩, none⟩
    let last : Rule := ⟨.deny, ⟨0, 65535, by decide⟩, ⟨0, 0⟩, ⟨0, 65535, by decide⟩, none⟩
    r.pattern = none ∧ r.Covers s ∧ r ∈ [r] ∧
      (∀ q, s.matchesRequest q = true → r.matchesRequest q = true) ∧
      (∀ q, (decideRequest [r, s, last] q).index? ≠ some 1) ∧
      (∀ q, decideRequest [r, last] q = (decideRequest [r, s, last] q).without 1) ∧
      ∀ endpoint, permittedPorts [r, last] endpoint = permittedPorts [r, s, last] endpoint := by
  intro r s last
  have hcovers : r.Covers s := by decide
  obtain ⟨hiff, hremoved⟩ := covered_rule_removable (r := r) rfl s
  exact ⟨rfl, hcovers, List.mem_singleton_self r, hiff.2 hcovers,
    hremoved hcovers [r] [last] (List.mem_singleton_self r)⟩

end PortGate
