import Mathlib.Data.List.Chain
import PortGate.Proofs.PortSet.SearchOrder

/-! The candidates as a list. Run to its end, the search gives the allowed ports from 1 up except the
wanted one, the nearer first and of two at one distance the higher. Called again and again it gives
that list and then nothing more, and a call makes no more rounds than there are ports left. -/

namespace PortGate

def Sooner (wanted p q : Port) : Prop :=
  distance wanted p < distance wanted q ∨ (distance wanted p = distance wanted q ∧ q < p)

section
variable {wanted p q : Port} {n : Nat} {good : Port → Prop}

theorem place_lt_iff : place wanted p < place wanted q ↔ Sooner wanted p q := by
  have hp := place_cases wanted p
  have hq := place_cases wanted q
  rw [Sooner, UInt16.lt_iff_toNat_lt, distance, distance]
  omega

theorem FirstAfter.lt_place_iff (h : FirstAfter wanted n good q) (hp : good p) (hone : 1 ≤ p.toNat) :
    n < place wanted p ↔ p = q ∨ place wanted q < place wanted p := by
  constructor
  · intro hlater
    rcases Nat.eq_or_lt_of_le (h.first p hp hone hlater) with heq | hlt
    · exact .inl (place_inj.1 heq).symm
    · exact .inr hlt
  · rintro (rfl | hlt)
    · exact h.later
    · exact Nat.lt_trans h.later hlt

end

namespace Candidates

variable {allowed : PortSet} {wanted p : Port} {c d : Candidates}

/-! ### The whole list -/

theorem toList_of_next?_eq_none (h : next? allowed c = none) : toList allowed c = [] := by
  rw [toList]
  split
  · rfl
  · rename_i d hd
    cases h.symm.trans hd

theorem toList_of_next?_eq_some (h : next? allowed c = some d) :
    toList allowed c = d.last :: toList allowed d := by
  rw [toList]
  split
  · rename_i hd
    cases h.symm.trans hd
  · rename_i e he
    obtain rfl : d = e := Option.some.inj (h.symm.trans he)
    rfl

namespace Balanced

theorem mem_toList_iff (h : Balanced wanted c) :
    p ∈ toList allowed c ↔
      allowed.get p = true ∧ 1 ≤ p.toNat ∧ place wanted c.last < place wanted p := by
  fun_induction toList allowed c with
  | case1 c hnext =>
    have hfinds := h.finds_next? allowed
    rw [hnext] at hfinds
    refine ⟨nofun, fun ⟨hallowed, hone, hlater⟩ => ?_⟩
    exact absurd hlater (Nat.not_lt.2 (hfinds p hallowed hone))
  | case2 c d hnext ih =>
    have hfinds := h.finds_next? allowed
    rw [hnext] at hfinds
    have hfirst : FirstAfter wanted (place wanted c.last) (allowed.get · = true) d.last := hfinds
    rw [List.mem_cons, ih (h.next? hnext)]
    constructor
    · rintro (rfl | ⟨hallowed, hone, hlater⟩)
      · exact ⟨hfirst.isGood, hfirst.one_le, hfirst.later⟩
      · exact ⟨hallowed, hone, (hfirst.lt_place_iff hallowed hone).2 (.inr hlater)⟩
    · rintro ⟨hallowed, hone, hlater⟩
      rcases (hfirst.lt_place_iff hallowed hone).1 hlater with rfl | hlater
      · exact .inl rfl
      · exact .inr ⟨hallowed, hone, hlater⟩

theorem pairwise_toList (h : Balanced wanted c) :
    (toList allowed c).Pairwise (Sooner wanted) := by
  fun_induction toList allowed c with
  | case1 => exact .nil
  | case2 c d hnext ih =>
    have hd := h.next? hnext
    refine .cons (fun p hp => ?_) (ih hd)
    exact place_lt_iff.1 (hd.mem_toList_iff.1 hp).2.2

end Balanced

/-! ### Call by call -/

/-- One call of the search: the port that it gives, if any, and the cursor that it leaves. A call goes
on until it comes to an allowed port or both sides are used up. -/
def call (allowed : PortSet) (c : Candidates) : Option Port × Candidates :=
  match _h : c.move? with
  | none => (none, c)
  | some d => if allowed.get d.last then (some d.last, d) else call allowed d
termination_by c.remaining
decreasing_by exact remaining_move?_lt ‹_›

def afterCalls (allowed : PortSet) : Nat → Candidates → Candidates
  | 0, c => c
  | n + 1, c => afterCalls allowed n (call allowed c).2

theorem next?_of_move?_eq_none (h : c.move? = none) : next? allowed c = none := by
  rw [next?]
  split
  · rfl
  · rename_i d hd
    cases h.symm.trans hd

theorem next?_of_move?_eq_some (h : c.move? = some d) :
    next? allowed c = if allowed.get d.last then some d else next? allowed d := by
  rw [next?]
  split
  · rename_i hd
    cases h.symm.trans hd
  · rename_i e he
    obtain rfl : d = e := Option.some.inj (h.symm.trans he)
    rfl

theorem call_cases (allowed : PortSet) (c : Candidates) :
    (∃ d, next? allowed c = some d ∧ call allowed c = (some d.last, d)) ∨
    (∃ d, next? allowed c = none ∧ call allowed c = (none, d) ∧ d.move? = none) := by
  fun_induction call allowed c with
  | case1 c hmove => exact .inr ⟨c, next?_of_move?_eq_none hmove, rfl, hmove⟩
  | case2 c d hmove hallowed =>
    rw [next?_of_move?_eq_some hmove, if_pos hallowed]
    exact .inl ⟨d, rfl, rfl⟩
  | case3 c d hmove hdenied ih =>
    rw [next?_of_move?_eq_some hmove, if_neg hdenied]
    exact ih

theorem call_toList (allowed : PortSet) (c : Candidates) :
    (call allowed c).1 = (toList allowed c).head? ∧
      toList allowed (call allowed c).2 = (toList allowed c).tail := by
  rcases call_cases allowed c with ⟨d, hnext, hcall⟩ | ⟨d, hnext, hcall, hend⟩
  · rw [toList_of_next?_eq_some hnext, hcall]
    exact ⟨rfl, rfl⟩
  · rw [toList_of_next?_eq_none hnext, hcall]
    exact ⟨rfl, toList_of_next?_eq_none (next?_of_move?_eq_none hend)⟩

theorem toList_afterCalls (allowed : PortSet) (n : Nat) (c : Candidates) :
    toList allowed (afterCalls allowed n c) = (toList allowed c).drop n := by
  induction n generalizing c with
  | zero => rfl
  | succ n ih => rw [afterCalls, ih, (call_toList allowed c).2, List.drop_tail]

theorem call_afterCalls (allowed : PortSet) (n : Nat) (c : Candidates) :
    (call allowed (afterCalls allowed n c)).1 = (toList allowed c)[n]? := by
  rw [(call_toList allowed _).1, toList_afterCalls, List.head?_drop]

/-! ### Rounds -/

theorem step_of_move? (h : c.move? = some d) :
    (d.below.toNat + 1 = c.below.toNat ∧ d.above = c.above) ∨
    (d.above.toNat = c.above.toNat + 1 ∧ d.below = c.below) := by
  rcases c.move?_cases with ⟨-, -, hnone⟩ | ⟨hroom, -, e, he, -, hbelow, habove⟩ |
    ⟨-, -, e, he, -, habove, hbelow⟩
  · cases h.symm.trans hnone
  · obtain rfl : d = e := Option.some.inj (h.symm.trans he)
    exact .inl ⟨by omega, habove⟩
  · obtain rfl : d = e := Option.some.inj (h.symm.trans he)
    exact .inr ⟨habove, hbelow⟩

theorem length_rounds_le {rounds : List Candidates}
    (h : (c :: rounds).IsChain fun c d => c.move? = some d) : rounds.length ≤ c.remaining := by
  induction rounds generalizing c with
  | nil => exact Nat.zero_le _
  | cons d rounds ih =>
    obtain ⟨hmove, hrest⟩ := List.isChain_cons_cons.1 h
    exact Nat.lt_of_le_of_lt (ih hrest) (remaining_move?_lt hmove)

end Candidates

theorem PortSet.mem_candidates_iff {allowed : PortSet} {wanted p : Port} :
    p ∈ allowed.candidates wanted ↔ 1 ≤ p ∧ p ≠ wanted ∧ p ∈ allowed := by
  have hone : 1 ≤ p ↔ 1 ≤ p.toNat := UInt16.le_iff_toNat_le
  rw [candidates, (Candidates.balanced_start wanted).mem_toList_iff, Candidates.start, place_self,
    place_pos_iff, hone, mem_iff]
  exact and_rotate

theorem PortSet.pairwise_candidates (allowed : PortSet) (wanted : Port) :
    (allowed.candidates wanted).Pairwise (Sooner wanted) :=
  (Candidates.balanced_start wanted).pairwise_toList

theorem Sooner.ne {wanted p q : Port} (h : Sooner wanted p q) : p ≠ q := by
  rintro rfl
  exact Nat.lt_irrefl _ (place_lt_iff.2 h)

theorem PortSet.nodup_candidates (allowed : PortSet) (wanted : Port) :
    (allowed.candidates wanted).Nodup :=
  (allowed.pairwise_candidates wanted).imp Sooner.ne

/-- The search around a wanted port gives every allowed port from 1 up but that one, each once, the
nearer first and of two at one distance the higher. The calls give this list one by one and nothing
ever after. No move leaves the range of a cursor, and no call can go on for ever. -/
theorem candidates_enumerated (allowed : PortSet) (wanted : Port) :
    (∀ p, p ∈ allowed.candidates wanted ↔ 1 ≤ p ∧ p ≠ wanted ∧ p ∈ allowed) ∧
    (allowed.candidates wanted).Nodup ∧
    (allowed.candidates wanted).Pairwise (Sooner wanted) ∧
    (∀ n, (Candidates.call allowed (Candidates.afterCalls allowed n (.start wanted))).1 =
      (allowed.candidates wanted)[n]?) ∧
    (∀ c d : Candidates, c.move? = some d →
      (d.below.toNat + 1 = c.below.toNat ∧ d.above = c.above) ∨
      (d.above.toNat = c.above.toNat + 1 ∧ d.below = c.below)) ∧
    ∀ (c : Candidates) (rounds : List Candidates),
      ((c :: rounds).IsChain fun c d => c.move? = some d) → rounds.length ≤ c.remaining :=
  ⟨fun _ => PortSet.mem_candidates_iff, allowed.nodup_candidates wanted,
    allowed.pairwise_candidates wanted, fun n => Candidates.call_afterCalls allowed n _,
    fun _ _ => Candidates.step_of_move?, fun _ _ => Candidates.length_rounds_le⟩

end PortGate
