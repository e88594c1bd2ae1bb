import PortGate.Pattern.Node

/-! What a pattern means on a text: how it is grouped and what it captures no longer matters, and
counted repetitions are laid out turn by turn, as the size limit counts them. Sequences are laid
out in halves, so that a matcher is never deeper than the nesting of its pattern asks for. -/

namespace PortGate.Pattern

inductive Matcher where
  | empty
  | oneOf (set : CharSet)
  | assertion (a : Assertion)
  | seq (first second : Matcher)
  | either (first second : Matcher)
  /-- One turn of the body or more. -/
  | many (body : Matcher)
  deriving Repr

namespace Matcher

def nothing : Matcher := oneOf CharSet.empty

/-- Joins a list by an operation, half by half; `unit` stands for the empty list. -/
def join (op : Matcher → Matcher → Matcher) (unit : Matcher) : List Matcher → Matcher
  | [] => unit
  | [m] => m
  | m :: n :: rest =>
    let half := (rest.length + 2) / 2
    op (join op unit ((m :: n :: rest).take half)) (join op unit ((m :: n :: rest).drop half))
termination_by items => items.length
decreasing_by all_goals grind

def power (body : Matcher) (turns : Nat) : Matcher :=
  if turns = 0 then empty
  else if turns = 1 then body
  else
    let half := power body (turns / 2)
    if turns % 2 = 0 then seq half half else seq body (seq half half)
termination_by turns

def optional (body : Matcher) : Matcher := either body empty

/-- The turns beyond the least number may each be left out, as turns that match nothing more. -/
def repeated (least : Nat) (most : Option Nat) (body : Matcher) : Matcher :=
  match least, most with
  | 0, none => optional (many body)
  | least + 1, none => seq (power body least) (many body)
  | least, some most => seq (power body least) (power (optional body) (most - least))

mutual

def ofNode : Node → Matcher
  | .empty => empty
  | .char c => oneOf (CharSet.single c)
  | .oneOf set => oneOf set
  | .assertion a => assertion a
  | .repetition least most body => repeated least most (ofNode body)
  | .capture _ body => ofNode body
  | .sequence items => join seq empty (ofNodes items)
  | .branches items => join either nothing (ofNodes items)

def ofNodes : List Node → List Matcher
  | [] => []
  | n :: ns => ofNode n :: ofNodes ns

end

theorem ofNodes_eq_map (items : List Node) : ofNodes items = items.map ofNode := by
  induction items with
  | nil => rfl
  | cons n ns ih => simp only [ofNodes, List.map_cons, ih]

end Matcher

end PortGate.Pattern
