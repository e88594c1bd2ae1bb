import PortGate.PortSet.Basic

/-! The ports to try in place of one that is refused: alternately above and below it, nearest first,
never port zero. The cursor forgets nothing but its last move, and each move leaves less to
visit, so the search ends. -/

namespace PortGate

/-- `last` is the port visited last, `below` and `above` the outermost visited on either side. -/
structure Candidates where
  last : Port
  below : Port
  above : Port
  deriving DecidableEq, Repr

namespace Candidates

def start (p : Port) : Candidates := ⟨p, p, p⟩

/-- How many ports can still be visited, port zero included. -/
def remaining (c : Candidates) : Nat := c.below.toNat + (65535 - c.above.toNat)

/-- The next port to visit, allowed or not. The side changes with each move until one is used up. -/
def move? (c : Candidates) : Option Candidates :=
  if c.below ≤ 1 ∧ c.above = 65535 then none
  else if c.above = 65535 ∨ (c.below < c.last ∧ 1 < c.below) then
    some { c with last := c.below - 1, below := c.below - 1 }
  else some { c with last := c.above + 1, above := c.above + 1 }

theorem remaining_move?_lt {c d : Candidates} (h : c.move? = some d) :
    d.remaining < c.remaining := by
  have hb := c.below.toNat_lt
  have ha := c.above.toNat_lt
  unfold move? at h
  split at h
  · simp at h
  · rename_i hend
    have hend' : ¬(c.below.toNat ≤ 1 ∧ c.above.toNat = 65535) := by
      simpa [UInt16.le_iff_toNat_le, ← UInt16.toNat_inj] using hend
    split at h
    · rename_i hside
      have hside' : c.above.toNat = 65535 ∨ 1 < c.below.toNat := by
        rcases hside with h | ⟨_, h⟩
        · exact .inl (by simp [h])
        · exact .inr (by simpa [UInt16.lt_iff_toNat_lt] using h)
      obtain rfl := Option.some.inj h
      have : (c.below - 1).toNat = c.below.toNat - 1 :=
        UInt16.toNat_sub_of_le _ _ (UInt16.le_iff_toNat_le.2 (by simp; omega))
      simp only [remaining, this]
      omega
    · rename_i hside
      have hne : c.above.toNat ≠ 65535 :=
        fun e => hside (.inl (UInt16.toNat_inj.1 (by simpa using e)))
      obtain rfl := Option.some.inj h
      have : (c.above + 1).toNat = c.above.toNat + 1 := by
        rw [UInt16.toNat_add]
        simp
        omega
      simp only [remaining, this]
      omega

def next? (allowed : PortSet) (c : Candidates) : Option Candidates :=
  match _h : c.move? with
  | none => none
  | some d => if allowed.get d.last then some d else next? allowed d
termination_by c.remaining
decreasing_by exact remaining_move?_lt ‹_›

theorem remaining_next?_lt {allowed : PortSet} {c d : Candidates}
    (h : next? allowed c = some d) : d.remaining < c.remaining := by
  fun_induction next? allowed c with
  | case1 => simp at h
  | case2 c e hm => exact Option.some.inj h ▸ remaining_move?_lt hm
  | case3 c e hm _ ih => exact Nat.lt_trans (ih h) (remaining_move?_lt hm)

def toList (allowed : PortSet) (c : Candidates) : List Port :=
  match _h : next? allowed c with
  | none => []
  | some d => d.last :: toList allowed d
termination_by c.remaining
decreasing_by exact remaining_next?_lt ‹_›

end Candidates

/-- The ports to try once `p` has been refused. -/
def PortSet.candidates (allowed : PortSet) (p : Port) : List Port :=
  (Candidates.start p).toList allowed

/-- What a search for a free port found, and which ports it asked about, last first. -/
structure Pick where
  port : Option Port
  asked : List Port
  deriving DecidableEq, Repr

/-- Asks about one candidate after the other until one is free. The answer may depend on the ports
asked about before. -/
def Candidates.find (allowed : PortSet) (isFree : (asked : List Port) → Port → Bool)
    (asked : List Port) (c : Candidates) : Pick :=
  match _h : next? allowed c with
  | none => ⟨none, asked⟩
  | some d =>
    if isFree asked d.last then ⟨some d.last, d.last :: asked⟩
    else find allowed isFree (d.last :: asked) d
termination_by c.remaining
decreasing_by exact remaining_next?_lt ‹_›

/-- The port itself when it is allowed and free, and else the first candidate that is free. -/
def PortSet.pick (allowed : PortSet) (p : Port)
    (isFree : (asked : List Port) → Port → Bool) : Pick :=
  if allowed.get p then
    if isFree [] p then ⟨some p, [p]⟩
    else (Candidates.start p).find allowed isFree [p]
  else (Candidates.start p).find allowed isFree []

end PortGate
