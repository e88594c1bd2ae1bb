import PortGate.PortSet.Candidates

/-! The order of the search around a wanted port. Every port has a place in it, the nearer first and of
two at one distance the one above, and each move goes to the next place that a port from 1 up has.
So the search finds the allowed port of the least place, if there is one. -/

namespace PortGate

def distance (p q : Port) : Nat := (p.toNat - q.toNat) + (q.toNat - p.toNat)

/-- The even places are above the wanted port, the odd ones below it. -/
def place (wanted p : Port) : Nat :=
  if p < wanted then 2 * (wanted.toNat - p.toNat) + 1 else 2 * (p.toNat - wanted.toNat)

section
variable {wanted p q : Port}

theorem place_cases (wanted p : Port) :
    (p.toNat < wanted.toNat ∧ place wanted p = 2 * (wanted.toNat - p.toNat) + 1) ∨
    (wanted.toNat ≤ p.toNat ∧ place wanted p = 2 * (p.toNat - wanted.toNat)) := by
  have hlt : p < wanted ↔ p.toNat < wanted.toNat := UInt16.lt_iff_toNat_lt
  unfold place
  split
  · rename_i h
    exact .inl ⟨hlt.1 h, rfl⟩
  · rename_i h
    exact .inr ⟨Nat.le_of_not_lt fun hp => h (hlt.2 hp), rfl⟩

theorem place_le_iff :
    place wanted p ≤ place wanted q ↔
      distance wanted p < distance wanted q ∨ (distance wanted p = distance wanted q ∧ q ≤ p) := by
  have hp := place_cases wanted p
  have hq := place_cases wanted q
  rw [UInt16.le_iff_toNat_le, distance, distance]
  omega

@[simp] theorem place_self (wanted : Port) : place wanted wanted = 0 := by
  have h := place_cases wanted wanted
  omega

theorem place_inj : place wanted p = place wanted q ↔ p = q := by
  have hp := place_cases wanted p
  have hq := place_cases wanted q
  rw [← UInt16.toNat_inj]
  omega

theorem place_pos_iff : 0 < place wanted p ↔ p ≠ wanted := by
  have h := place_cases wanted p
  rw [ne_eq, ← UInt16.toNat_inj]
  omega

end

/-- `q` is the first good port after place `n`. Port zero never counts. -/
structure FirstAfter (wanted : Port) (n : Nat) (good : Port → Prop) (q : Port) : Prop where
  isGood : good q
  one_le : 1 ≤ q.toNat
  later : n < place wanted q
  first : ∀ p, good p → 1 ≤ p.toNat → n < place wanted p → place wanted q ≤ place wanted p

def Finds (wanted : Port) (n : Nat) (good : Port → Prop) : Option Port → Prop
  | none => ∀ p, good p → 1 ≤ p.toNat → place wanted p ≤ n
  | some q => FirstAfter wanted n good q

section
variable {wanted p q : Port} {n : Nat} {good better : Port → Prop} {found : Option Port}

theorem FirstAfter.finds (hq : FirstAfter wanted n good q) (hnot : ¬better q)
    (hgood : ∀ p, better p → good p) (hrest : Finds wanted (place wanted q) better found) :
    Finds wanted n better found := by
  have after (p : Port) (hp : better p) (hone : 1 ≤ p.toNat) (hlater : n < place wanted p) :
      place wanted q < place wanted p := by
    refine Nat.lt_of_le_of_ne (hq.first p (hgood p hp) hone hlater) fun heq => ?_
    exact hnot (place_inj.1 heq ▸ hp)
  cases found with
  | none =>
    intro p hp hone
    refine Nat.le_of_not_lt fun hlater => ?_
    exact Nat.not_lt.2 (hrest p hp hone) (after p hp hone hlater)
  | some r =>
    refine ⟨hrest.isGood, hrest.one_le, Nat.lt_trans hq.later hrest.later, ?_⟩
    exact fun p hp hone hlater => hrest.first p hp hone (after p hp hone hlater)

theorem Finds.eq_none_iff (h : Finds wanted n good found) :
    found = none ↔ ∀ p, good p → 1 ≤ p.toNat → place wanted p ≤ n := by
  cases found with
  | none => exact ⟨fun _ => h, fun _ => rfl⟩
  | some q =>
    refine ⟨nofun, fun hnone => absurd h.later ?_⟩
    exact Nat.not_lt.2 (hnone q h.isGood h.one_le)

theorem Finds.eq_some_iff (h : Finds wanted n good found) :
    found = some p ↔ FirstAfter wanted n good p := by
  cases found with
  | none =>
    refine ⟨nofun, fun hp => absurd hp.later ?_⟩
    exact Nat.not_lt.2 (h p hp.isGood hp.one_le)
  | some q =>
    refine ⟨fun heq => Option.some.inj heq ▸ h, fun hp => ?_⟩
    have hplace : place wanted q = place wanted p :=
      Nat.le_antisymm (h.first p hp.isGood hp.one_le hp.later)
        (hp.first q h.isGood h.one_le h.later)
    exact congrArg some (place_inj.1 hplace)

end

namespace Candidates

/-- The ports that have been visited are those from 1 up with a place up to that of the last one. In
numbers: after a move up the upper side is one step ahead and after a move down both sides are
even, unless the side to go on with is used up. -/
inductive Balanced (wanted : Port) (c : Candidates) : Prop where
  | atStart (last : c.last.toNat = wanted.toNat) (below : c.below.toNat = wanted.toNat)
      (above : c.above.toNat = wanted.toNat)
  | wentUp (last : c.last.toNat = c.above.toNat) (below : c.below.toNat ≤ wanted.toNat)
      (zero : c.below.toNat = 0 → wanted.toNat = 0)
      (ahead : wanted.toNat - c.below.toNat < c.above.toNat - wanted.toNat)
      (even : c.above.toNat - wanted.toNat = wanted.toNat - c.below.toNat + 1 ∨ c.below.toNat ≤ 1)
  | wentDown (last : c.last.toNat = c.below.toNat) (below : c.below.toNat < wanted.toNat)
      (pos : 1 ≤ c.below.toNat) (above : wanted.toNat ≤ c.above.toNat)
      (behind : c.above.toNat - wanted.toNat ≤ wanted.toNat - c.below.toNat)
      (even : c.above.toNat - wanted.toNat = wanted.toNat - c.below.toNat ∨ c.above.toNat = 65535)

theorem balanced_start (wanted : Port) : Balanced wanted (start wanted) := .atStart rfl rfl rfl

variable {wanted p : Port} {c d : Candidates}

theorem move?_cases (c : Candidates) :
    (c.below.toNat ≤ 1 ∧ c.above.toNat = 65535 ∧ c.move? = none) ∨
    (1 < c.below.toNat ∧ (c.above.toNat = 65535 ∨ c.below.toNat < c.last.toNat) ∧
      ∃ d, c.move? = some d ∧ d.last = d.below ∧ d.below.toNat = c.below.toNat - 1 ∧
        d.above = c.above) ∨
    (c.above.toNat < 65535 ∧ (c.last.toNat ≤ c.below.toNat ∨ c.below.toNat ≤ 1) ∧
      ∃ d, c.move? = some d ∧ d.last = d.above ∧ d.above.toNat = c.above.toNat + 1 ∧
        d.below = c.below) := by
  have hbound := c.above.toNat_lt
  have hlow : c.below ≤ 1 ↔ c.below.toNat ≤ 1 := UInt16.le_iff_toNat_le
  have hbelow : 1 < c.below ↔ 1 < c.below.toNat := UInt16.lt_iff_toNat_lt
  have hhigh : c.above = 65535 ↔ c.above.toNat = 65535 := UInt16.toNat_inj.symm
  have hdown : c.below < c.last ↔ c.below.toNat < c.last.toNat := UInt16.lt_iff_toNat_lt
  unfold move?
  simp only [hlow, hbelow, hhigh, hdown]
  split
  · rename_i hend
    exact .inl ⟨hend.1, hend.2, rfl⟩
  · rename_i hend
    split
    · rename_i hside
      have hone : 1 < c.below.toNat := by omega
      refine .inr (.inl ⟨hone, by omega, _, rfl, rfl, ?_, rfl⟩)
      exact UInt16.toNat_sub_of_le _ _ (UInt16.le_iff_toNat_le.2 (Nat.le_of_lt hone))
    · rename_i hside
      have hroom : c.above.toNat < 65535 := by omega
      refine .inr (.inr ⟨hroom, by omega, _, rfl, rfl, ?_, rfl⟩)
      change (c.above + 1).toNat = c.above.toNat + 1
      rw [UInt16.toNat_add]
      exact Nat.mod_eq_of_lt (Nat.succ_lt_succ hroom)

def Spans (c : Candidates) (p : Port) : Prop := c.below ≤ p ∧ p ≤ c.above

theorem spans_iff : c.Spans p ↔ c.below.toNat ≤ p.toNat ∧ p.toNat ≤ c.above.toNat := by
  rw [Spans, UInt16.le_iff_toNat_le, UInt16.le_iff_toNat_le]

theorem spans_of_move? (hmove : c.move? = some d) (hends : c.below.toNat ≤ c.above.toNat) :
    1 ≤ d.last.toNat ∧ ¬c.Spans d.last ∧ ∀ p, d.Spans p ↔ p = d.last ∨ c.Spans p := by
  simp only [spans_iff, ← UInt16.toNat_inj]
  rcases c.move?_cases with ⟨-, -, hnone⟩ | ⟨hroom, -, e, he, hlast, hbelow, habove⟩ |
    ⟨-, -, e, he, hlast, habove, hbelow⟩
  · cases hmove.symm.trans hnone
  · obtain rfl : d = e := Option.some.inj (hmove.symm.trans he)
    rw [hlast, habove, hbelow]
    exact ⟨by omega, by omega, fun p => by omega⟩
  · obtain rfl : d = e := Option.some.inj (hmove.symm.trans he)
    rw [hlast, habove, hbelow]
    exact ⟨by omega, by omega, fun p => by omega⟩

namespace Balanced

theorem ends (h : Balanced wanted c) :
    c.below.toNat ≤ wanted.toNat ∧ wanted.toNat ≤ c.above.toNat := by
  cases h with
  | atStart last below above => omega
  | wentUp last below zero ahead even => omega
  | wentDown last below pos above behind even => omega

theorem place_le_iff (h : Balanced wanted c) (hp : 1 ≤ p.toNat) :
    place wanted p ≤ place wanted c.last ↔ c.Spans p := by
  have hbound := p.toNat_lt
  have hplace := place_cases wanted p
  have hlast := place_cases wanted c.last
  rw [spans_iff]
  cases h with
  | atStart last below above => omega
  | wentUp last below zero ahead even => omega
  | wentDown last below pos above behind even => omega

theorem move? (h : Balanced wanted c) (hmove : c.move? = some d) : Balanced wanted d := by
  have hbound := wanted.toNat_lt
  rcases c.move?_cases with ⟨-, -, hnone⟩ | ⟨hroom, hside, e, he, hlast, hbelow, habove⟩ |
    ⟨hroom, hside, e, he, hlast, habove, hbelow⟩
  · cases hmove.symm.trans hnone
  · obtain rfl : d = e := Option.some.inj (hmove.symm.trans he)
    have habove := congrArg UInt16.toNat habove
    refine .wentDown (congrArg UInt16.toNat hlast) ?_ ?_ ?_ ?_ ?_
    all_goals cases h <;> omega
  · obtain rfl : d = e := Option.some.inj (hmove.symm.trans he)
    have hbelow := congrArg UInt16.toNat hbelow
    refine .wentUp (congrArg UInt16.toNat hlast) ?_ ?_ ?_ ?_
    all_goals cases h <;> omega

theorem finds_move? (h : Balanced wanted c) :
    Finds wanted (place wanted c.last) (fun _ => True) (c.move?.map (·.last)) := by
  cases hmove : c.move? with
  | none =>
    intro p _ hone
    have hbound := p.toNat_lt
    rw [h.place_le_iff hone, spans_iff]
    rcases c.move?_cases with ⟨hbelow, habove, -⟩ | ⟨-, -, d, hd, -⟩ | ⟨-, -, d, hd, -⟩
    · omega
    · cases hmove.symm.trans hd
    · cases hmove.symm.trans hd
  | some d =>
    obtain ⟨hone, hnew, hspans⟩ := spans_of_move? hmove (Nat.le_trans h.ends.1 h.ends.2)
    refine ⟨trivial, hone, Nat.lt_of_not_le fun hle => hnew ((h.place_le_iff hone).1 hle), ?_⟩
    intro p _ hp hlater
    refine Nat.le_of_not_lt fun hlt => ?_
    have hvisited : d.Spans p := ((h.move? hmove).place_le_iff hp).1 (Nat.le_of_lt hlt)
    rcases (hspans p).1 hvisited with rfl | hbefore
    · exact Nat.lt_irrefl _ hlt
    · exact Nat.not_lt.2 ((h.place_le_iff hp).2 hbefore) hlater

theorem next? {allowed : PortSet} (h : Balanced wanted c) (hnext : next? allowed c = some d) :
    Balanced wanted d := by
  fun_induction Candidates.next? allowed c with
  | case1 => cases hnext
  | case2 c e hmove hallowed => exact Option.some.inj hnext ▸ h.move? hmove
  | case3 c e hmove hnot ih => exact ih (h.move? hmove) hnext

theorem finds_next? (allowed : PortSet) (h : Balanced wanted c) :
    Finds wanted (place wanted c.last) (allowed.get · = true)
      ((Candidates.next? allowed c).map (·.last)) := by
  fun_induction Candidates.next? allowed c with
  | case1 c hmove =>
    have hfinds := h.finds_move?
    rw [hmove] at hfinds
    exact fun p _ hone => hfinds p trivial hone
  | case2 c d hmove hallowed =>
    have hfinds := h.finds_move?
    rw [hmove] at hfinds
    exact ⟨hallowed, hfinds.one_le, hfinds.later, fun p _ => hfinds.first p trivial⟩
  | case3 c d hmove hnot ih =>
    have hfinds := h.finds_move?
    rw [hmove] at hfinds
    exact hfinds.finds hnot (fun _ _ => trivial) (ih (h.move? hmove))

theorem finds_find (allowed : PortSet) (free : Port → Bool) (asked : List Port)
    (h : Balanced wanted c) :
    Finds wanted (place wanted c.last) (fun p => allowed.get p = true ∧ free p = true)
      (find allowed (fun _ => free) asked c).port := by
  fun_induction find allowed (fun _ => free) asked c with
  | case1 asked c hnext =>
    have hfinds := h.finds_next? allowed
    rw [hnext] at hfinds
    exact fun p hp hone => hfinds p hp.1 hone
  | case2 asked c d hnext hfree =>
    have hfinds := h.finds_next? allowed
    rw [hnext] at hfinds
    exact ⟨⟨hfinds.isGood, hfree⟩, hfinds.one_le, hfinds.later, fun p hp => hfinds.first p hp.1⟩
  | case3 asked c d hnext hnot ih =>
    have hfinds := h.finds_next? allowed
    rw [hnext] at hfinds
    exact hfinds.finds (fun hboth => hnot hboth.2) (fun _ hp => hp.1) (ih (h.next? hnext))

end Balanced

end Candidates

theorem PortSet.pick_port (allowed : PortSet) (wanted : Port) (free : Port → Bool) :
    (allowed.get wanted = true ∧ free wanted = true ∧
      (allowed.pick wanted fun _ => free).port = some wanted) ∨
    (¬(allowed.get wanted = true ∧ free wanted = true) ∧
      Finds wanted 0 (fun p => allowed.get p = true ∧ free p = true)
        (allowed.pick wanted fun _ => free).port) := by
  have hfinds := (Candidates.balanced_start wanted).finds_find allowed free
  simp only [Candidates.start, place_self] at hfinds
  unfold pick
  by_cases hallowed : allowed.get wanted = true
  · rw [if_pos hallowed]
    by_cases hfree : free wanted = true
    · rw [if_pos hfree]
      exact .inl ⟨hallowed, hfree, rfl⟩
    · rw [if_neg hfree]
      exact .inr ⟨fun hboth => hfree hboth.2, hfinds _⟩
  · rw [if_neg hallowed]
    exact .inr ⟨fun hboth => hallowed hboth.1, hfinds _⟩

theorem PortSet.pick_port_eq_none_iff (allowed : PortSet) (wanted : Port) (free : Port → Bool) :
    (allowed.pick wanted fun _ => free).port = none ↔
      ∀ p, p = wanted ∨ 1 ≤ p.toNat → ¬(allowed.get p = true ∧ free p = true) := by
  rcases allowed.pick_port wanted free with ⟨hallowed, hfree, hport⟩ | ⟨hnot, hfinds⟩
  · rw [hport]
    exact ⟨nofun, fun hnone => absurd ⟨hallowed, hfree⟩ (hnone wanted (.inl rfl))⟩
  · rw [hfinds.eq_none_iff]
    constructor
    · rintro hnone p (rfl | hone) hgood
      · exact hnot hgood
      · have hlater : 0 < place wanted p := place_pos_iff.2 fun heq => hnot (heq ▸ hgood)
        exact Nat.not_lt.2 (hnone p hgood hone) hlater
    · intro hnone p hgood hone
      exact absurd hgood (hnone p (.inr hone))

end PortGate
