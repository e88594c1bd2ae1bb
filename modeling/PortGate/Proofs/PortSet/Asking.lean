import PortGate.Proofs.PortSet.Enumeration

/-! What the search for a free port asks. The wanted port comes first, when it is allowed, and then the
candidates; each is asked about once, and the first that is free ends the search. The answer to a
question may depend on all questions before it. -/

namespace PortGate

variable {isFree : List Port → Port → Bool} {asked order ports : List Port} {wanted p q : Port}

def PortSet.tries (allowed : PortSet) (wanted : Port) : List Port :=
  if allowed.get wanted then wanted :: allowed.candidates wanted else allowed.candidates wanted

def AllRefused (isFree : List Port → Port → Bool) (calls : List Port) : Prop :=
  ∀ before p, before ++ [p] <+: calls → isFree before.reverse p = false

/-- How asking about the ports of `order` ends: at the first that is free, or after the last. -/
inductive Ends (isFree : List Port → Port → Bool) (order : List Port) : Pick → Prop where
  | free (refused : List Port) (p : Port) (hfront : refused ++ [p] <+: order)
      (hrefused : AllRefused isFree refused) (hfree : isFree refused.reverse p = true) :
      Ends isFree order ⟨some p, p :: refused.reverse⟩
  | exhausted (hrefused : AllRefused isFree order) : Ends isFree order ⟨none, order.reverse⟩

/-! ### Asking about the ports of a list -/

def firstFree (isFree : List Port → Port → Bool) (asked : List Port) : List Port → Pick
  | [] => ⟨none, asked⟩
  | p :: ports =>
    if isFree asked p then ⟨some p, p :: asked⟩ else firstFree isFree (p :: asked) ports

theorem AllRefused.concat (h : AllRefused isFree ports) (hp : isFree ports.reverse p = false) :
    AllRefused isFree (ports ++ [p]) := by
  intro before q hfront
  rcases List.prefix_concat_iff.1 hfront with hwhole | hearlier
  · obtain ⟨rfl, hlast⟩ := List.append_inj' hwhole rfl
    exact List.singleton_inj.1 hlast ▸ hp
  · exact h before q hearlier

theorem ends_firstFree (h : AllRefused isFree asked.reverse) :
    Ends isFree (asked.reverse ++ ports) (firstFree isFree asked ports) := by
  induction ports generalizing asked with
  | nil =>
    rw [List.append_nil]
    have hend := Ends.exhausted h
    rwa [List.reverse_reverse] at hend
  | cons p ports ih =>
    have hsplit : asked.reverse ++ p :: ports = asked.reverse ++ [p] ++ ports := by simp
    rw [firstFree, hsplit]
    by_cases hfree : isFree asked p = true
    · rw [if_pos hfree]
      have hend : Ends isFree (asked.reverse ++ [p] ++ ports) ⟨some p, p :: asked.reverse.reverse⟩ :=
        .free asked.reverse p (List.prefix_append _ _) h (by rwa [List.reverse_reverse])
      rwa [List.reverse_reverse] at hend
    · rw [if_neg hfree, ← List.reverse_cons]
      apply ih
      rw [List.reverse_cons]
      exact h.concat (by rwa [List.reverse_reverse, Bool.eq_false_iff])

theorem Candidates.find_eq_firstFree (allowed : PortSet) (isFree : List Port → Port → Bool)
    (asked : List Port) (c : Candidates) :
    find allowed isFree asked c = firstFree isFree asked (toList allowed c) := by
  fun_induction find allowed isFree asked c with
  | case1 asked c hnext => rw [toList_of_next?_eq_none hnext, firstFree]
  | case2 asked c d hnext hfree => rw [toList_of_next?_eq_some hnext, firstFree, if_pos hfree]
  | case3 asked c d hnext hrefused ih =>
    rw [toList_of_next?_eq_some hnext, firstFree, if_neg hrefused, ih]

theorem PortSet.pick_eq_firstFree (allowed : PortSet) (wanted : Port)
    (isFree : List Port → Port → Bool) :
    allowed.pick wanted isFree = firstFree isFree [] (allowed.tries wanted) := by
  rw [pick, tries]
  simp only [Candidates.find_eq_firstFree]
  by_cases hallowed : allowed.get wanted = true
  · rw [if_pos hallowed, if_pos hallowed, firstFree]
    rfl
  · rw [if_neg hallowed, if_neg hallowed]
    rfl

theorem PortSet.ends_pick (allowed : PortSet) (wanted : Port) (isFree : List Port → Port → Bool) :
    Ends isFree (allowed.tries wanted) (allowed.pick wanted isFree) := by
  have hnothing : AllRefused isFree [].reverse := by
    intro before p hfront
    exact absurd (List.prefix_nil.1 hfront) (by simp)
  rw [pick_eq_firstFree]
  exact ends_firstFree hnothing

/-! ### The questions -/

namespace Ends
variable {result : Pick}

theorem prefix_asked (h : Ends isFree order result) : result.asked.reverse <+: order := by
  cases h with
  | free refused p hfront hrefused hfree =>
    rwa [List.reverse_cons, List.reverse_reverse]
  | exhausted hrefused =>
    refine ⟨[], ?_⟩
    rw [List.append_nil, List.reverse_reverse]

theorem port_eq_some_iff (h : Ends isFree order result) :
    result.port = some p ↔
      ∃ before, result.asked.reverse = before ++ [p] ∧ isFree before.reverse p = true := by
  cases h with
  | free refused r hfront hrefused hfree =>
    rw [List.reverse_cons, List.reverse_reverse]
    constructor
    · intro hport
      cases hport
      exact ⟨refused, rfl, hfree⟩
    · rintro ⟨before, hcalls, -⟩
      exact congrArg some (List.singleton_inj.1 (List.append_inj' hcalls rfl).2)
  | exhausted hrefused =>
    rw [List.reverse_reverse]
    refine ⟨nofun, ?_⟩
    rintro ⟨before, rfl, hfree⟩
    exact absurd (hfree.symm.trans (hrefused before p List.prefix_rfl)) (by decide)

theorem port_eq_none_iff (h : Ends isFree order result) :
    result.port = none ↔ result.asked.reverse = order ∧ AllRefused isFree order := by
  cases h with
  | free refused r hfront hrefused hfree =>
    refine ⟨nofun, fun ⟨_, hall⟩ => ?_⟩
    exact absurd (hfree.symm.trans (hall refused r hfront)) (by decide)
  | exhausted hrefused => exact ⟨fun _ => ⟨List.reverse_reverse _, hrefused⟩, fun _ => rfl⟩

end Ends

theorem PortSet.nodup_tries (allowed : PortSet) (wanted : Port) :
    (allowed.tries wanted).Nodup := by
  rw [tries]
  split
  · refine List.nodup_cons.2 ⟨fun hmem => ?_, allowed.nodup_candidates wanted⟩
    exact (mem_candidates_iff.1 hmem).2.1 rfl
  · exact allowed.nodup_candidates wanted

theorem PortSet.mem_of_mem_tries {allowed : PortSet} (h : p ∈ allowed.tries wanted) :
    p ∈ allowed := by
  rw [tries] at h
  split at h
  · rename_i hallowed
    rcases List.mem_cons.1 h with rfl | hcandidate
    · exact hallowed
    · exact (mem_candidates_iff.1 hcandidate).2.2
  · exact (mem_candidates_iff.1 h).2.2

/-! ### Answers that do not depend on the questions -/

/-- `p` is the first of the good ports from 1 up in a search around `wanted`. -/
structure Nearest (wanted : Port) (good : Port → Prop) (p : Port) : Prop where
  one_le : 1 ≤ p
  isGood : good p
  sooner : ∀ q, 1 ≤ q → good q → q ≠ p → Sooner wanted p q

theorem firstAfter_zero_iff {good : Port → Prop} (hwanted : ¬good wanted) :
    FirstAfter wanted 0 good p ↔ Nearest wanted good p := by
  have hone (q : Port) : 1 ≤ q ↔ 1 ≤ q.toNat := UInt16.le_iff_toNat_le
  have hlater {q : Port} (hq : good q) : 0 < place wanted q :=
    place_pos_iff.2 fun heq => hwanted (heq ▸ hq)
  constructor
  · intro h
    refine ⟨(hone p).2 h.one_le, h.isGood, fun q hq hgood hne => place_lt_iff.1 ?_⟩
    refine Nat.lt_of_le_of_ne (h.first q hgood ((hone q).1 hq) (hlater hgood)) fun heq => ?_
    exact hne (place_inj.1 heq).symm
  · intro h
    refine ⟨h.isGood, (hone p).1 h.one_le, hlater h.isGood, fun q hgood hq _ => ?_⟩
    by_cases heq : q = p
    · rw [heq]
    · exact Nat.le_of_lt (place_lt_iff.2 (h.sooner q ((hone q).2 hq) hgood heq))

theorem PortSet.pick_port_of_pure (allowed : PortSet) (wanted : Port) (free : Port → Bool) :
    let good (p : Port) : Prop := p ∈ allowed ∧ free p = true
    (good wanted → (allowed.pick wanted fun _ => free).port = some wanted) ∧
    (¬good wanted → ∀ p,
      (allowed.pick wanted fun _ => free).port = some p ↔ Nearest wanted good p) ∧
    ((allowed.pick wanted fun _ => free).port = none ↔ ∀ p, p = wanted ∨ 1 ≤ p → ¬good p) := by
  intro good
  have hnone := allowed.pick_port_eq_none_iff wanted free
  have hone (p : Port) : 1 ≤ p ↔ 1 ≤ p.toNat := UInt16.le_iff_toNat_le
  simp only [hone]
  rcases allowed.pick_port wanted free with ⟨hallowed, hfree, hport⟩ | ⟨hnot, hfinds⟩
  · have hgood : good wanted := ⟨hallowed, hfree⟩
    exact ⟨fun _ => hport, fun hnot => absurd hgood hnot, hnone⟩
  · refine ⟨fun hgood => absurd hgood hnot, fun _ p => ?_, hnone⟩
    rw [hfinds.eq_some_iff]
    exact firstAfter_zero_iff hnot

/-- A search asks about the wanted port, if that is allowed, and then about the candidates, up to the
first that is free and no further. It asks about no port twice and about none that is denied; it finds
the port that it asked about last if that is free, and none after asking about all in vain. When the
answers do not depend on the questions, this is the nearest free port. -/
theorem pick_asks_in_order (allowed : PortSet) (wanted : Port)
    (isFree : List Port → Port → Bool) :
    let result := allowed.pick wanted isFree
    let calls := result.asked.reverse
    Ends isFree (allowed.tries wanted) result ∧
    calls <+: allowed.tries wanted ∧ calls.Nodup ∧ (∀ p ∈ calls, p ∈ allowed) ∧
    (∀ p, result.port = some p ↔ ∃ before, calls = before ++ [p] ∧ isFree before.reverse p = true) ∧
    (result.port = none ↔ calls = allowed.tries wanted ∧ AllRefused isFree (allowed.tries wanted)) ∧
    ∀ free : Port → Bool,
      let found := (allowed.pick wanted fun _ => free).port
      let good (p : Port) : Prop := p ∈ allowed ∧ free p = true
      (good wanted → found = some wanted) ∧
      (¬good wanted → ∀ p, found = some p ↔ Nearest wanted good p) ∧
      (found = none ↔ ∀ p, p = wanted ∨ 1 ≤ p → ¬good p) := by
  intro result calls
  have hends : Ends isFree (allowed.tries wanted) result := allowed.ends_pick wanted isFree
  have hfront : calls <+: allowed.tries wanted := hends.prefix_asked
  refine ⟨hends, hfront, (allowed.nodup_tries wanted).sublist hfront.sublist, fun p hp => ?_,
    fun p => hends.port_eq_some_iff, hends.port_eq_none_iff, allowed.pick_port_of_pure wanted⟩
  exact PortSet.mem_of_mem_tries (hfront.subset hp)

end PortGate
