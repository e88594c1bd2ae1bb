import PortGate.Proofs.Config.Policies

/-! Two configurations in one. When the first is empty or ends with a line feed, the lines of both are
handled one after the other, and the first leaves nothing behind but what it gave and the number
of its lines. -/

namespace PortGate
open Text

/-- The error as it is when `k` more lines stand in front. -/
def LoadError.moveDown (k : Nat) : LoadError → LoadError
  | io fault => io fault
  | rule line cause => rule (line + k) cause

def moveDown (k : Nat) : Except LoadError Loaded → Except LoadError Loaded
  | .error e => .error (e.moveDown k)
  | .ok loaded => .ok loaded

variable (policy : Policy)

theorem lineOutcome_add (n k : Nat) (line : List UInt8) :
    lineOutcome policy (n + k) line = moveDown k (lineOutcome policy n line) := by
  cases hrule : ruleText? line with
  | none =>
    simp only [lineOutcome_of_not_rule _ _ hrule]
    split <;> rfl
  | some text =>
    cases hread : Rule.read text with
    | ok rule => simp only [lineOutcome_of_read _ _ hrule hread, moveDown]
    | error cause =>
      simp only [lineOutcome_of_not_read _ _ hrule hread]
      cases policy <;> rfl

theorem moveDown_map (k : Nat) (f : Loaded → Loaded) (outcome : Except LoadError Loaded) :
    moveDown k (outcome.map f) = (moveDown k outcome).map f := by
  cases outcome <;> rfl

theorem linesOutcome_add (n k : Nat) (lines : List (List UInt8)) :
    linesOutcome policy (n + k) lines = moveDown k (linesOutcome policy n lines) := by
  induction lines generalizing n with
  | nil => rfl
  | cons line lines ih =>
    have hnumber : n + k + 1 = n + 1 + k := by omega
    rw [linesOutcome, linesOutcome, lineOutcome_add, hnumber, ih]
    cases lineOutcome policy n line with
    | error e => rfl
    | ok first => exact (moveDown_map k first.append _).symm

/-- Loading what is put together. An error of the first part is the error; one of the second part is,
with its line counted from the start of the first; and without one, rules and counts add up. -/
theorem load_append (mask : LogMask) {first : List UInt8}
    (hend : first = [] ∨ first.getLast? = some 10) (second : List UInt8) :
    let outcome bytes := ((load policy bytes).run mask).value
    outcome (first ++ second) =
      match outcome first, outcome second with
      | .error e, _ => .error e
      | .ok _, .error (.rule line cause) => .error (.rule (line + first.count 10) cause)
      | .ok _, .error (.io fault) => .error (.io fault)
      | .ok a, .ok b => .ok ⟨a.rules ++ b.rules, a.skipped + b.skipped⟩ := by
  simp only [run_load_value]
  rw [lines_append hend, linesOutcome_append, length_lines hend, linesOutcome_add]
  cases linesOutcome policy 1 (lines first) with
  | error e => rfl
  | ok a =>
    cases linesOutcome policy 1 (lines second) with
    | error e => cases e <;> rfl
    | ok b => rfl

theorem load_append_rule_error :
    let first := encode "# house\nallow 80 0.0.0.0/0 80\r\n"
    let second := encode "deny 9-8 0.0.0.0/0 1\nallow"
    first.getLast? = some 10 ∧
      ((load .strict (first ++ second)).run .initial).value =
        .error (.rule 3 (.ports (.reversed 9 8))) := by
  have hend : (encode "# house\nallow 80 0.0.0.0/0 80\r\n").getLast? = some 10 := by decide +kernel
  refine ⟨hend, (load_append .strict .initial (.inr hend) _).trans ?_⟩
  decide +kernel

end PortGate
