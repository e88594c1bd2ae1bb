import PortGate.PortSet.Basic

/-! Writing a whole range. The cursor is a natural number, since it may pass the last port. While it
stands at the start of a word and the word lies within the range, the word is written at once. -/

namespace PortGate.PortSet

/-- A part of a range that is written at once. -/
inductive Stroke where
  | block (base : Nat)
  | port (p : Nat)
  deriving DecidableEq, Repr

/-- The strokes that cover the numbers from `cursor` to `last`. Each covers one number at least,
so as many turns as there are numbers suffice. -/
def strokes : (turns cursor last : Nat) → List Stroke
  | 0, _, _ => []
  | turns + 1, cursor, last =>
    if last < cursor then []
    else if cursor % 32 = 0 ∧ cursor + 31 ≤ last then
      .block cursor :: strokes turns (cursor + 32) last
    else .port cursor :: strokes turns (cursor + 1) last

def draw (allowed : Bool) (s : PortSet) : Stroke → PortSet
  | .block base =>
    if allowed then s.allowBlock (UInt16.ofNat base) else s.denyBlock (UInt16.ofNat base)
  | .port p => if allowed then s.allow (UInt16.ofNat p) else s.deny (UInt16.ofNat p)

/-- Gives the ports from `lo` to `hi` the value `allowed`; when `hi` is below `lo` there are none.
-/
def fill (s : PortSet) (lo hi : Port) (allowed : Bool) : PortSet :=
  (strokes (hi.toNat + 1 - lo.toNat) lo.toNat hi.toNat).foldl (draw allowed) s

def Stroke.covers : Stroke → Nat → Prop
  | block base, p => base ≤ p ∧ p < base + 32
  | port q, p => p = q

theorem mem_strokes {turns cursor last : Nat} {stroke : Stroke}
    (h : stroke ∈ strokes turns cursor last) :
    (∀ base, stroke = .block base → base % 32 = 0) ∧
      ∀ p, stroke.covers p → cursor ≤ p ∧ p ≤ last := by
  induction turns generalizing cursor with
  | zero => simp [strokes] at h
  | succ turns ih =>
    rw [strokes] at h
    split at h
    · simp at h
    · split at h
      · rename_i hblock
        rcases List.mem_cons.1 h with rfl | h
        · refine ⟨fun base e => by cases e; exact hblock.1, fun p hp => ?_⟩
          simp only [Stroke.covers] at hp
          omega
        · refine ⟨(ih h).1, fun p hp => ?_⟩
          have := (ih h).2 p hp
          omega
      · rcases List.mem_cons.1 h with rfl | h
        · refine ⟨fun base e => (by cases e), fun p hp => ?_⟩
          simp only [Stroke.covers] at hp
          omega
        · refine ⟨(ih h).1, fun p hp => ?_⟩
          have := (ih h).2 p hp
          omega

theorem get_draw_port (allowed : Bool) (s : PortSet) (q : Port) {p : Nat} (hp : p < 65536) :
    (draw allowed s (.port p)).get q = if q.toNat = p then allowed else s.get q := by
  have hn : (UInt16.ofNat p).toNat = p := UInt16.toNat_ofNat_of_lt' hp
  have he : UInt16.ofNat p = q ↔ q.toNat = p := by
    rw [← UInt16.toNat_inj, hn, eq_comm]
  cases allowed <;> by_cases h : q.toNat = p <;> simp [draw, get_allow, get_deny, he, h]

theorem get_draw_block (allowed : Bool) (s : PortSet) (q : Port) {base : Nat}
    (haligned : base % 32 = 0) (hbase : base + 31 < 65536) :
    (draw allowed s (.block base)).get q =
      if base ≤ q.toNat ∧ q.toNat < base + 32 then allowed else s.get q := by
  have hn : (UInt16.ofNat base).toNat = base :=
    UInt16.toNat_ofNat_of_lt' (show base < 65536 by omega)
  have he : wordIndex (UInt16.ofNat base) = wordIndex q ↔
      base ≤ q.toNat ∧ q.toNat < base + 32 := by
    rw [wordIndex_eq_iff (hn.symm ▸ haligned), hn]
  cases allowed <;> by_cases h : base ≤ q.toNat ∧ q.toNat < base + 32 <;>
    simp [draw, get_allowBlock, get_denyBlock, he, h]

theorem get_foldl_strokes (allowed : Bool) (s : PortSet) (q : Port) {turns cursor last : Nat}
    (hlast : last < 65536) (hturns : last + 1 - cursor ≤ turns) :
    ((strokes turns cursor last).foldl (draw allowed) s).get q =
      if cursor ≤ q.toNat ∧ q.toNat ≤ last then allowed else s.get q := by
  induction turns generalizing cursor s with
  | zero =>
    rw [strokes, List.foldl_nil, if_neg (by omega)]
  | succ turns ih =>
    rw [strokes]
    split
    · rw [List.foldl_nil, if_neg (by omega)]
    · split
      · rename_i hblock
        rw [List.foldl_cons, ih _ (by omega), get_draw_block allowed s q hblock.1 (by omega)]
        grind
      · rw [List.foldl_cons, ih _ (by omega), get_draw_port allowed s q (by omega)]
        grind

theorem get_fill (s : PortSet) (lo hi : Port) (allowed : Bool) (p : Port) :
    (s.fill lo hi allowed).get p = if lo ≤ p ∧ p ≤ hi then allowed else s.get p := by
  rw [fill, get_foldl_strokes allowed s p hi.toNat_lt (Nat.le_refl _)]
  simp only [UInt16.le_iff_toNat_le]

end PortGate.PortSet
