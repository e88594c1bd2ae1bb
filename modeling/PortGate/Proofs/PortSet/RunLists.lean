import Mathlib.Data.List.Pairwise
import Mathlib.Data.List.Sort
import PortGate.Proofs.PortSet.Listing
import PortGate.Proofs.PortSet.PortwiseFill

/-! Sets of ports as lists of runs. A list of ranges in ascending order, with a port missing between each
two, holds just the maximal ranges of the set that it lists. So a set has one such list and the list
has one set: filling with the ranges gives the set, and listing the set gives the ranges. -/

namespace PortGate

namespace PortRange

theorem lo_mem (r : PortRange) : r.lo ∈ r := ⟨UInt16.le_refl _, r.lo_le_hi⟩

theorem mem_iff_toNat {r : PortRange} {p : Port} :
    p ∈ r ↔ r.lo.toNat ≤ p.toNat ∧ p.toNat ≤ r.hi.toNat := by
  rw [mem_iff, UInt16.le_iff_toNat_le, UInt16.le_iff_toNat_le]

theorem toNat_lo_le_hi (r : PortRange) : r.lo.toNat ≤ r.hi.toNat :=
  UInt16.le_iff_toNat_le.1 r.lo_le_hi

def ports (r : PortRange) : List Port := PortSet.portsBetween r.lo r.hi

theorem mem_ports {r : PortRange} {p : Port} : p ∈ r.ports ↔ p ∈ r := PortSet.mem_portsBetween

theorem length_ports (r : PortRange) : r.ports.length = r.size := by
  have hle := r.toNat_lo_le_hi
  rw [ports, PortSet.portsBetween, List.length_map, List.length_range', size]
  omega

theorem pairwise_lt_ports (r : PortRange) : r.ports.Pairwise (· < ·) := by
  have hbound := r.hi.toNat_lt
  rw [ports, PortSet.portsBetween, List.pairwise_map]
  refine (List.pairwise_lt_range' 1).imp_of_mem fun {m n} hm hn hlt => ?_
  rw [List.mem_range'_1] at hm hn
  rw [UInt16.lt_iff_toNat_lt, UInt16.toNat_ofNat_of_lt' (show m < 65536 by omega),
    UInt16.toNat_ofNat_of_lt' (show n < 65536 by omega)]
  exact hlt

end PortRange

namespace PortSet

structure MaximalIn (s : PortSet) (r : PortRange) : Prop where
  within : ∀ p ∈ r, p ∈ s
  below : ∀ p : Port, p.toNat + 1 = r.lo.toNat → p ∉ s
  above : ∀ p : Port, p.toNat = r.hi.toNat + 1 → p ∉ s

/-- The ranges are ascending and apart, and they hold the ports of the set and no others. -/
structure Lists (ranges : List PortRange) (s : PortSet) : Prop where
  separated : Separated ranges
  mem_iff : ∀ p, p ∈ s ↔ ∃ r ∈ ranges, p ∈ r

theorem lists_runs (s : PortSet) : Lists s.runs s := ⟨s.separated_runs, fun _ => mem_runs_iff.symm⟩

section
variable {s : PortSet} {ranges others : List PortRange} {r t : PortRange} {p : Port}

/-! ### One list for a set -/

theorem MaximalIn.bounds_le (ht : MaximalIn s t) (hr : ∀ q ∈ r, q ∈ s) (hpr : p ∈ r) (hpt : p ∈ t) :
    t.lo.toNat ≤ r.lo.toNat ∧ r.hi.toNat ≤ t.hi.toNat := by
  rw [PortRange.mem_iff_toNat] at hpr hpt
  have hbound := r.hi.toNat_lt
  constructor
  · refine Nat.le_of_not_lt fun hlt => ?_
    have hq : (UInt16.ofNat (t.lo.toNat - 1)).toNat = t.lo.toNat - 1 :=
      UInt16.toNat_ofNat_of_lt' (show t.lo.toNat - 1 < 65536 by omega)
    refine ht.below (UInt16.ofNat (t.lo.toNat - 1)) (by omega) (hr _ ?_)
    rw [PortRange.mem_iff_toNat]
    omega
  · refine Nat.le_of_not_lt fun hlt => ?_
    have hq : (UInt16.ofNat (t.hi.toNat + 1)).toNat = t.hi.toNat + 1 :=
      UInt16.toNat_ofNat_of_lt' (show t.hi.toNat + 1 < 65536 by omega)
    refine ht.above (UInt16.ofNat (t.hi.toNat + 1)) hq (hr _ ?_)
    rw [PortRange.mem_iff_toNat]
    omega

theorem MaximalIn.eq_of_mem (hr : MaximalIn s r) (ht : MaximalIn s t) (hpr : p ∈ r) (hpt : p ∈ t) :
    r = t := by
  obtain ⟨hlo, hhi⟩ := ht.bounds_le hr.within hpr hpt
  obtain ⟨hlo', hhi'⟩ := hr.bounds_le ht.within hpt hpr
  exact PortRange.ext_toNat (Nat.le_antisymm hlo' hlo) (Nat.le_antisymm hhi hhi')

theorem Separated.eq_or_apart (h : Separated ranges) (hr : r ∈ ranges) (ht : t ∈ ranges) :
    r = t ∨ r.hi.toNat + 1 < t.lo.toNat ∨ t.hi.toNat + 1 < r.lo.toNat := by
  have hsymm : Std.Symm fun r t : PortRange =>
      r = t ∨ r.hi.toNat + 1 < t.lo.toNat ∨ t.hi.toNat + 1 < r.lo.toNat :=
    ⟨fun _ _ h => h.imp Eq.symm Or.symm⟩
  have hpairs : ranges.Pairwise fun r t : PortRange =>
      r = t ∨ r.hi.toNat + 1 < t.lo.toNat ∨ t.hi.toNat + 1 < r.lo.toNat :=
    h.imp fun hlt => .inr (.inl hlt)
  exact hpairs.forall_of_forall (fun _ _ => .inl rfl) hr ht

theorem Lists.mem_or_apart (h : Lists ranges s) (hr : r ∈ ranges) (hp : p ∈ s) :
    p ∈ r ∨ p.toNat + 1 < r.lo.toNat ∨ r.hi.toNat + 1 < p.toNat := by
  obtain ⟨t, ht, hpt⟩ := (h.mem_iff p).1 hp
  rcases h.separated.eq_or_apart hr ht with rfl | hbefore | hafter
  · exact .inl hpt
  · rw [PortRange.mem_iff_toNat] at hpt
    omega
  · rw [PortRange.mem_iff_toNat] at hpt
    omega

theorem Lists.maximal (h : Lists ranges s) (hr : r ∈ ranges) : MaximalIn s r where
  within p hp := (h.mem_iff p).2 ⟨r, hr, hp⟩
  below p hp hmem := by
    have hside := h.mem_or_apart hr hmem
    have hle := r.toNat_lo_le_hi
    rw [PortRange.mem_iff_toNat] at hside
    omega
  above p hp hmem := by
    have hside := h.mem_or_apart hr hmem
    have hle := r.toNat_lo_le_hi
    rw [PortRange.mem_iff_toNat] at hside
    omega

theorem Lists.mem_iff_maximal (h : Lists ranges s) : r ∈ ranges ↔ MaximalIn s r := by
  refine ⟨h.maximal, fun hr => ?_⟩
  obtain ⟨t, ht, hpt⟩ := (h.mem_iff r.lo).1 (hr.within r.lo r.lo_mem)
  exact hr.eq_of_mem (h.maximal ht) r.lo_mem hpt ▸ ht

theorem Lists.unique (h : Lists ranges s) (h' : Lists others s) : ranges = others := by
  have hirrefl : Std.Irrefl fun r t : PortRange => r.hi.toNat + 1 < t.lo.toNat :=
    ⟨fun r hlt => by have hle := r.toNat_lo_le_hi; omega⟩
  have hantisymm : Std.Antisymm fun r t : PortRange => r.hi.toNat + 1 < t.lo.toNat :=
    ⟨fun r t hlt hgt => by
      have hle := r.toNat_lo_le_hi
      have hle' := t.toNat_lo_le_hi
      omega⟩
  refine List.Pairwise.eq_of_mem_iff h.separated h'.separated fun r => ?_
  rw [h.mem_iff_maximal, h'.mem_iff_maximal]

theorem Lists.pairwise_gap (h : Lists ranges s) :
    ranges.Pairwise fun r t => ∃ p, r.hi < p ∧ p < t.lo ∧ p ∉ s := by
  refine h.separated.imp_of_mem fun {r t} hr _ hlt => ?_
  have hbound := t.lo.toNat_lt
  have hp : (UInt16.ofNat (r.hi.toNat + 1)).toNat = r.hi.toNat + 1 :=
    UInt16.toNat_ofNat_of_lt' (show r.hi.toNat + 1 < 65536 by omega)
  refine ⟨UInt16.ofNat (r.hi.toNat + 1), ?_, ?_, (h.maximal hr).above _ hp⟩
  · rw [UInt16.lt_iff_toNat_lt]
    omega
  · rw [UInt16.lt_iff_toNat_lt]
    omega

/-! ### One set for a list -/

def ofRanges (ranges : List PortRange) : PortSet :=
  ranges.foldl (fun s r => s.fill r.lo r.hi true) empty

theorem get_foldl_fill (s : PortSet) (ranges : List PortRange) (p : Port) :
    (ranges.foldl (fun s r => s.fill r.lo r.hi true) s).get p = true ↔
      s.get p = true ∨ ∃ r ∈ ranges, p ∈ r := by
  induction ranges generalizing s with
  | nil => simp
  | cons r ranges ih =>
    rw [List.foldl_cons, ih, get_fill, List.exists_mem_cons_iff, PortRange.mem_iff]
    by_cases hp : r.lo ≤ p ∧ p ≤ r.hi <;> simp [hp]

theorem mem_ofRanges : p ∈ ofRanges ranges ↔ ∃ r ∈ ranges, p ∈ r := by
  rw [mem_iff, ofRanges, get_foldl_fill, get_empty]
  simp

theorem Lists.ofRanges_eq (h : Lists ranges s) : ofRanges ranges = s := by
  apply eq_of_get_eq
  intro p
  rw [Bool.eq_iff_iff, ← PortSet.mem_iff, ← PortSet.mem_iff, mem_ofRanges, h.mem_iff]

theorem runs_ofRanges (h : Separated ranges) (horder : others.Perm ranges) :
    (ofRanges others).runs = ranges := by
  refine (lists_runs _).unique ⟨h, fun p => ?_⟩
  simp only [mem_ofRanges, horder.mem_iff]

/-! ### The ports of a list -/

theorem pairwise_lt_flatMap_ports (h : Separated ranges) :
    (ranges.flatMap PortRange.ports).Pairwise (· < ·) := by
  refine List.pairwise_flatMap.2 ⟨fun r _ => r.pairwise_lt_ports, h.imp fun {r t} hlt => ?_⟩
  intro p hp q hq
  rw [PortRange.mem_ports, PortRange.mem_iff_toNat] at hp hq
  rw [UInt16.lt_iff_toNat_lt]
  omega

theorem Lists.toList_eq (h : Lists ranges s) : s.toList = ranges.flatMap PortRange.ports := by
  have hirrefl : Std.Irrefl fun p q : Port => p < q := ⟨fun _ => UInt16.lt_irrefl _⟩
  have hantisymm : Std.Antisymm fun p q : Port => p < q :=
    ⟨fun _ _ hlt hgt => absurd hgt (UInt16.lt_asymm hlt)⟩
  refine List.Pairwise.eq_of_mem_iff s.pairwise_lt_toList (pairwise_lt_flatMap_ports h.separated) ?_
  intro p
  rw [mem_toList, h.mem_iff, List.mem_flatMap]
  simp only [PortRange.mem_ports]

end

end PortSet

end PortGate
