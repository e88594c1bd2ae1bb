import Mathlib.Algebra.Ring.Nat
import PortGate.Proofs.PortSet.RunLists

/-! The runs found in one pass over the ports. A run stays open until the pass comes to a port that is
missing, which closes it right before, or to the end of the ports. The pass finds the maximal runs,
so it agrees with the list of the ports and with the count of the words. -/

namespace PortGate

def PortRange.bounds (r : PortRange) : Port × Port := (r.lo, r.hi)

namespace PortSet

/-- The runs that are closed, in ascending order, and where the open one began. -/
structure Scan where
  closed : List (Port × Port)
  opened : Option Port

namespace Scan

def initial : Scan := ⟨[], none⟩

def visit (s : PortSet) (scan : Scan) (p : Port) : Scan :=
  match s.get p, scan.opened with
  | true, none => { scan with opened := some p }
  | false, some first => ⟨scan.closed ++ [(first, p - 1)], none⟩
  | _, _ => scan

def finish (scan : Scan) : List (Port × Port) :=
  match scan.opened with
  | none => scan.closed
  | some first => scan.closed ++ [(first, 65535)]

/-- What a pass has found when it has gone through the ports below `n`. The port behind a closed run
has been visited, and the open run goes on to the last port visited. -/
structure Found (s : PortSet) (n : Nat) (scan : Scan) (ranges : List PortRange) : Prop where
  closed : scan.closed = ranges.map PortRange.bounds
  separated : Separated ranges
  ended : ∀ r ∈ ranges, r.hi.toNat + 1 < n
  opened : ∀ first ∈ scan.opened, first.toNat < n ∧ ∀ r ∈ ranges, r.hi.toNat + 1 < first.toNat
  mem_iff : ∀ p : Port, p.toNat < n →
    (p ∈ s ↔ (∃ r ∈ ranges, p ∈ r) ∨ ∃ first ∈ scan.opened, first ≤ p)

variable {s : PortSet} {n : Nat} {scan : Scan} {ranges : List PortRange} {first last p : Port}

theorem found_initial (s : PortSet) : Found s 0 initial [] where
  closed := rfl
  separated := .nil
  ended := nofun
  opened := nofun
  mem_iff := fun _ hp => absurd hp (Nat.not_lt_zero _)

theorem Found.close (h : Found s n scan ranges) (hopen : scan.opened = some first)
    (hlast : last.toNat + 1 = n) :
    ∃ r : PortRange, scan.closed ++ [(first, last)] = (ranges ++ [r]).map PortRange.bounds ∧
      Separated (ranges ++ [r]) ∧ (∀ t ∈ ranges ++ [r], t.hi.toNat < n) ∧
      ∀ p : Port, p.toNat < n → (p ∈ s ↔ ∃ t ∈ ranges ++ [r], p ∈ t) := by
  obtain ⟨hfirst, hapart⟩ := h.opened first hopen
  have hle : first ≤ last := by
    rw [UInt16.le_iff_toNat_le]
    omega
  refine ⟨⟨first, last, hle⟩, ?_, ?_, ?_, ?_⟩
  · rw [h.closed, List.map_append, List.map_singleton, PortRange.bounds]
  · refine List.pairwise_append.2 ⟨h.separated, List.pairwise_singleton _ _, fun r hr t ht => ?_⟩
    obtain rfl := List.mem_singleton.1 ht
    exact hapart r hr
  · intro t ht
    rcases List.mem_append.1 ht with hclosed | hnew
    · exact Nat.lt_of_succ_lt (h.ended t hclosed)
    · obtain rfl := List.mem_singleton.1 hnew
      exact Nat.lt_of_succ_le (Nat.le_of_eq hlast)
  · intro p hp
    have hbelow : p ≤ last := by
      rw [UInt16.le_iff_toNat_le]
      omega
    rw [h.mem_iff p hp, hopen]
    simp [or_and_right, exists_or, PortRange.mem_iff, hbelow]

theorem forall_lt_succ {P : Port → Prop} (hp : p.toNat = n) (hnew : P p)
    (hold : ∀ q : Port, q.toNat < n → P q) (q : Port) (hq : q.toNat < n + 1) : P q := by
  rcases Nat.lt_succ_iff_lt_or_eq.1 hq with hlt | heq
  · exact hold q hlt
  · obtain rfl : p = q := UInt16.toNat_inj.1 (hp.trans heq.symm)
    exact hnew

theorem Found.not_mem_closed (h : Found s n scan ranges) (hp : p.toNat = n) :
    ¬∃ r ∈ ranges, p ∈ r := by
  rintro ⟨r, hr, hpr⟩
  have hended := h.ended r hr
  rw [PortRange.mem_iff_toNat] at hpr
  omega

theorem Found.visit_opens (h : Found s n scan ranges) (hp : p.toNat = n) (hmem : p ∈ s)
    (hopen : scan.opened = none) : Found s (n + 1) ⟨scan.closed, some p⟩ ranges where
  closed := h.closed
  separated := h.separated
  ended r hr := Nat.lt_succ_of_lt (h.ended r hr)
  opened := by
    rintro first ⟨⟩
    exact ⟨Nat.lt_succ_of_le (Nat.le_of_eq hp), fun r hr => hp ▸ h.ended r hr⟩
  mem_iff := by
    refine forall_lt_succ hp (by simp [hmem]) fun q hq => ?_
    have hnot : ¬p ≤ q := by
      rw [UInt16.le_iff_toNat_le]
      omega
    rw [h.mem_iff q hq, hopen]
    simp [hnot]

theorem Found.visit_closes (h : Found s n scan ranges) (hp : p.toNat = n) (hmem : p ∉ s)
    (hopen : scan.opened = some first) :
    ∃ ranges', Found s (n + 1) ⟨scan.closed ++ [(first, p - 1)], none⟩ ranges' := by
  -- the open run has begun before `p`, so there is a port in front of it
  have hbegun := (h.opened first hopen).1
  have hone : 1 ≤ p := by
    rw [UInt16.le_iff_toNat_le, UInt16.toNat_one]
    omega
  have hprevious : (p - 1).toNat + 1 = n := by
    rw [UInt16.toNat_sub_of_le _ _ hone, UInt16.toNat_one]
    omega
  obtain ⟨r, hclosed, hseparated, hended, hmem_iff⟩ := h.close hopen hprevious
  refine ⟨ranges ++ [r], hclosed, hseparated, fun t ht => Nat.succ_lt_succ (hended t ht), nofun, ?_⟩
  have hnone : ¬∃ t ∈ ranges ++ [r], p ∈ t := by
    rintro ⟨t, ht, hpt⟩
    have hend := hended t ht
    rw [PortRange.mem_iff_toNat] at hpt
    omega
  refine forall_lt_succ hp (iff_of_false hmem ?_) fun q hq => ?_
  · rintro (hclosed | ⟨_, ⟨⟩, -⟩)
    exact hnone hclosed
  · rw [hmem_iff q hq]
    exact ⟨.inl, fun hq => hq.resolve_right (by rintro ⟨_, ⟨⟩, -⟩)⟩

theorem Found.visit_keeps (h : Found s n scan ranges) (hp : p.toNat = n)
    (hmem : p ∈ s ↔ ∃ first, scan.opened = some first) : Found s (n + 1) scan ranges where
  closed := h.closed
  separated := h.separated
  ended r hr := Nat.lt_succ_of_lt (h.ended r hr)
  opened first hfirst :=
    ⟨Nat.lt_succ_of_lt (h.opened first hfirst).1, (h.opened first hfirst).2⟩
  mem_iff := by
    refine forall_lt_succ hp ?_ h.mem_iff
    rw [hmem, or_iff_right (h.not_mem_closed hp)]
    refine exists_congr fun first => ⟨fun hopen => ⟨hopen, ?_⟩, And.left⟩
    have hbegun := (h.opened first hopen).1
    rw [UInt16.le_iff_toNat_le]
    omega

theorem Found.visit (h : Found s n scan ranges) (hp : p.toNat = n) :
    ∃ ranges', Found s (n + 1) (scan.visit s p) ranges' := by
  unfold Scan.visit
  cases hget : s.get p with
  | true =>
    cases hopen : scan.opened with
    | none => exact ⟨ranges, h.visit_opens hp hget hopen⟩
    | some first => exact ⟨ranges, h.visit_keeps hp (iff_of_true hget ⟨first, hopen⟩)⟩
  | false =>
    have hmem : p ∉ s := fun hmem => Bool.false_ne_true (hget.symm.trans hmem)
    cases hopen : scan.opened with
    | none => exact ⟨ranges, h.visit_keeps hp (iff_of_false hmem (by simp [hopen]))⟩
    | some first => exact h.visit_closes hp hmem hopen

theorem found_foldl (s : PortSet) {n : Nat} (hn : n ≤ 65536) :
    ∃ ranges, Found s n (((List.range n).map UInt16.ofNat).foldl (visit s) initial) ranges := by
  induction n with
  | zero => exact ⟨[], found_initial s⟩
  | succ n ih =>
    obtain ⟨ranges, h⟩ := ih (Nat.le_of_succ_le hn)
    rw [List.range_succ, List.map_append, List.foldl_append]
    exact h.visit (UInt16.toNat_ofNat_of_lt' hn)

theorem Found.finish (h : Found s 65536 scan ranges) :
    ∃ ranges', scan.finish = ranges'.map PortRange.bounds ∧ Lists ranges' s := by
  unfold Scan.finish
  split
  · rename_i hopen
    refine ⟨ranges, h.closed, h.separated, fun p => ?_⟩
    rw [h.mem_iff p p.toNat_lt, hopen]
    simp
  · rename_i first hopen
    have hlast : (65535 : Port).toNat + 1 = 65536 := rfl
    obtain ⟨r, hclosed, hseparated, -, hmem_iff⟩ := h.close hopen hlast
    exact ⟨ranges ++ [r], hclosed, hseparated, fun p => hmem_iff p p.toNat_lt⟩

end Scan

def scanRuns (s : PortSet) : List (Port × Port) :=
  (allPorts.foldl (Scan.visit s) .initial).finish

theorem scanRuns_eq (s : PortSet) : s.scanRuns = s.runs.map PortRange.bounds := by
  obtain ⟨ranges, hfound⟩ := Scan.found_foldl s (Nat.le_refl 65536)
  obtain ⟨found, hscan, hlists⟩ := hfound.finish
  rw [scanRuns, allPorts, hscan, hlists.unique s.lists_runs]

theorem size_eq_sum_size (s : PortSet) : s.size = (s.runs.map PortRange.size).sum := by
  have hsizes : (fun r : PortRange => r.ports.length) = PortRange.size :=
    funext PortRange.length_ports
  rw [size_eq_length_toList, s.lists_runs.toList_eq, List.length_flatMap, hsizes]

/-- Sets of ports and ascending lists of ranges with a port missing between each two correspond: a set
is filled from its runs, and such a list is the runs of what it fills, in whatever order. The pass
finds the same runs, and they agree with the two other ways to go through a set: the words count
as many ports as the runs have, and the ports in ascending order are those of one run after the
other. -/
theorem runs_canonical :
    (∀ s : PortSet,
      Separated s.runs ∧ (s.runs.Pairwise fun r t => ∃ p, r.hi < p ∧ p < t.lo ∧ p ∉ s) ∧
      (∀ p, s.get p = true ↔ ∃ r ∈ s.runs, p ∈ r) ∧
      ofRanges s.runs = s ∧
      s.scanRuns = s.runs.map PortRange.bounds) ∧
    (∀ ranges order : List PortRange, Separated ranges → order.Perm ranges →
      (ofRanges order).runs = ranges) ∧
    ∀ s : PortSet,
      s.size = (s.runs.map PortRange.size).sum ∧ s.size = s.toList.length ∧
      s.toList.Pairwise (· < ·) ∧ s.toList = s.runs.flatMap PortRange.ports := by
  refine ⟨fun s => ?_, fun ranges order => runs_ofRanges, fun s => ?_⟩
  · have hlists : Lists s.runs s := s.lists_runs
    exact ⟨hlists.separated, hlists.pairwise_gap, hlists.mem_iff, hlists.ofRanges_eq, s.scanRuns_eq⟩
  · exact ⟨s.size_eq_sum_size, s.size_eq_length_toList, s.pairwise_lt_toList, s.lists_runs.toList_eq⟩

end PortSet

end PortGate
