import Mathlib.Data.List.Basic
import PortGate.PortSet.Runs

/-! The ways to list a set of ports. Its ports are listed in ascending order, the words count as many
as are listed, and the runs hold the same ports with a gap between each two runs. -/

namespace PortGate.PortSet

theorem pairwise_lt_allPorts : allPorts.Pairwise (· < ·) := by
  rw [allPorts, List.pairwise_map]
  refine List.pairwise_lt_range.imp_of_mem fun hm hn hlt => ?_
  rw [UInt16.lt_iff_toNat_lt, UInt16.toNat_ofNat_of_lt' (List.mem_range.1 hm),
    UInt16.toNat_ofNat_of_lt' (List.mem_range.1 hn)]
  exact hlt

theorem pairwise_lt_toList (s : PortSet) : s.toList.Pairwise (· < ·) :=
  pairwise_lt_allPorts.filter _

/-! ### Counting -/

theorem foldr_popCount_eq_countP (f : Nat → Bool) (words : List UInt32) (k : Nat)
    (h : ∀ (i : Nat) (hi : i < words.length), ∀ j < 32,
      f (32 * (k + i) + j) = words[i].toNat.testBit j) :
    words.foldr (fun word n => popCount word + n) 0 =
      (List.range' (32 * k) (32 * words.length)).countP f := by
  induction words generalizing k with
  | nil => rfl
  | cons word words ih =>
    have hfirst : (List.range' (32 * k) 32).countP f = popCount word := by
      rw [List.range'_eq_map_range, List.countP_map, popCount]
      refine List.countP_congr fun j hj => ?_
      have hbit := h 0 (Nat.zero_lt_succ _) j (List.mem_range.1 hj)
      rw [Nat.add_zero, List.getElem_cons_zero] at hbit
      rw [Function.comp_apply, hbit]
    have hlater := ih (k + 1) fun i hi j hj => by
      have hindex : k + 1 + i = k + (i + 1) := by omega
      rw [hindex]
      exact h (i + 1) (Nat.succ_lt_succ hi) j hj
    have hsplit : List.range' (32 * k) (32 * (words.length + 1)) =
        List.range' (32 * k) 32 ++ List.range' (32 * (k + 1)) (32 * words.length) := by
      rw [Nat.mul_add, Nat.mul_add, Nat.add_comm (32 * words.length), Nat.mul_one,
        List.range'_append_1]
    rw [List.foldr_cons, hlater, List.length_cons, hsplit, List.countP_append, hfirst]

theorem size_eq_length_toList (s : PortSet) : s.size = s.toList.length := by
  have hbits := foldr_popCount_eq_countP (fun n => s.get (UInt16.ofNat n)) s.words.toList 0
    fun i hi j hj => by
      have hi' : i < 2048 := by simpa using hi
      rw [Nat.zero_add, get_ofNat s hi' hj]
      rfl
  rw [size, hbits, Vector.length_toList, toList, ← List.countP_eq_length_filter, allPorts,
    List.countP_map, List.range_eq_range']
  rfl

/-! ### Runs -/

/-- In ascending order, with a port missing at least between each two. -/
def Separated (ranges : List PortRange) : Prop :=
  ranges.Pairwise fun r s => r.hi.toNat + 1 < s.lo.toNat

theorem mem_joined_iff {p q lo hi : Port} (hlo : p.toNat + 1 = lo.toNat) (hle : lo ≤ hi) :
    (p ≤ q ∧ q ≤ hi) ↔ q = p ∨ (lo ≤ q ∧ q ≤ hi) := by
  rw [UInt16.le_iff_toNat_le] at hle
  simp only [UInt16.le_iff_toNat_le, ← UInt16.toNat_inj]
  omega

theorem mem_single_iff {p q : Port} : q ∈ PortRange.single p ↔ q = p := by
  simp only [PortRange.mem_iff, PortRange.single, UInt16.le_iff_toNat_le, ← UInt16.toNat_inj]
  omega

theorem mem_attach_iff {p q : Port} {ranges : List PortRange} :
    (∃ r ∈ attach p ranges, q ∈ r) ↔ q = p ∨ ∃ r ∈ ranges, q ∈ r := by
  cases ranges with
  | nil => simp [attach, mem_single_iff]
  | cons r rest =>
    rw [attach]
    split
    · rename_i hnext
      simp only [List.exists_mem_cons_iff, PortRange.mem_iff, mem_joined_iff hnext r.lo_le_hi,
        or_assoc]
    · simp only [List.exists_mem_cons_iff, mem_single_iff]

theorem mem_foldr_attach_iff {q : Port} {ports : List Port} :
    (∃ r ∈ ports.foldr attach [], q ∈ r) ↔ q ∈ ports := by
  induction ports with
  | nil => simp
  | cons p ports ih => rw [List.foldr_cons, mem_attach_iff, ih, List.mem_cons]

theorem separated_attach {p : Port} {ranges : List PortRange} (hbelow : ∀ r ∈ ranges, p < r.lo)
    (hranges : Separated ranges) : Separated (attach p ranges) := by
  cases ranges with
  | nil => exact List.pairwise_singleton _ _
  | cons r rest =>
    obtain ⟨hfirst, hrest⟩ := List.pairwise_cons.1 hranges
    rw [attach]
    split
    · exact List.pairwise_cons.2 ⟨hfirst, hrest⟩
    · rename_i hnext
      have hr := UInt16.lt_iff_toNat_lt.1 (hbelow r List.mem_cons_self)
      have hsingle : p.toNat + 1 < r.lo.toNat := by omega
      refine List.pairwise_cons.2 ⟨fun s hs => ?_, hranges⟩
      rcases List.mem_cons.1 hs with rfl | hs
      · exact hsingle
      · have hlater := hfirst s hs
        have hle := UInt16.le_iff_toNat_le.1 r.lo_le_hi
        change p.toNat + 1 < s.lo.toNat
        omega

theorem separated_foldr_attach {ports : List Port} (h : ports.Pairwise (· < ·)) :
    Separated (ports.foldr attach []) := by
  induction ports with
  | nil => exact List.Pairwise.nil
  | cons p ports ih =>
    obtain ⟨hbelow, hports⟩ := List.pairwise_cons.1 h
    -- the lowest port of a run is one of the ports, so what is below them all is below all runs
    refine separated_attach (fun r hr => hbelow r.lo ?_) (ih hports)
    exact mem_foldr_attach_iff.1 ⟨r, hr, UInt16.le_refl _, r.lo_le_hi⟩

theorem separated_runs (s : PortSet) : Separated s.runs :=
  separated_foldr_attach s.pairwise_lt_toList

theorem mem_runs_iff {s : PortSet} {p : Port} : (∃ r ∈ s.runs, p ∈ r) ↔ p ∈ s := by
  rw [runs, mem_foldr_attach_iff, mem_toList]

end PortGate.PortSet
