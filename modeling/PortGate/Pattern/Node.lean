import PortGate.Pattern.Assertion
import PortGate.Pattern.CharSet

/-! A pattern as it is written: sequences and branches keep the grouping of the text, since both
limits on a pattern count it. `Node.height` is the quantity that the nesting limit bounds and
`Node.cost` the one that the size limit bounds. -/

namespace PortGate.Pattern

/-- A repetition without `most` has no upper bound. -/
inductive Node where
  | empty
  | char (c : Char)
  | oneOf (set : CharSet)
  | assertion (a : Assertion)
  | repetition (least : Nat) (most : Option Nat) (body : Node)
  | capture (name : Option String) (body : Node)
  | sequence (items : List Node)
  | branches (items : List Node)
  deriving Repr

namespace Node

/-- A sequence of one item is that item. -/
def join : List Node → Node
  | [] => empty
  | [n] => n
  | ns => sequence ns

/-- A choice of one branch is that branch. -/
def choose : List Node → Node
  | [] => empty
  | [n] => n
  | ns => branches ns

/-- No turn at all is the empty pattern, and exactly one turn is the operand. -/
def repeated (least : Nat) (most : Option Nat) (body : Node) : Node :=
  if most = some 0 ∧ least = 0 then empty
  else if most = some 1 ∧ least = 1 then body
  else repetition least most body

/-- An ASCII letter whose case is ignored stands for both its forms. -/
def literal (ignoreCase : Bool) (c : Char) : Node :=
  if ignoreCase && c.isAlpha then oneOf (CharSet.single c).fold else char c

mutual

/-- How many repetitions, captures, sequences and branchings stand above the deepest leaf. -/
def height : Node → Nat
  | empty | char _ | oneOf _ | assertion _ => 0
  | repetition _ _ body => height body + 1
  | capture _ body => height body + 1
  | sequence items => heightAll items + 1
  | branches items => heightAll items + 1

def heightAll : List Node → Nat
  | [] => 0
  | n :: ns => max (height n) (heightAll ns)

end

mutual

/-- Whether the empty text can match, assertions taken to hold. -/
def isNullable : Node → Bool
  | empty | assertion _ => true
  | char _ | oneOf _ => false
  | repetition least _ body => least == 0 || isNullable body
  | capture _ body => isNullable body
  | sequence items => allNullable items
  | branches items => someNullable items

def allNullable : List Node → Bool
  | [] => true
  | n :: ns => isNullable n && allNullable ns

def someNullable : List Node → Bool
  | [] => false
  | n :: ns => isNullable n || someNullable ns

end

def stateCost : Nat := 32

def splitCost (targets : Nat) : Nat := stateCost + 4 * targets

def slotCost (name : Option String) : Nat :=
  16 + (name.map fun text => text.utf8ByteSize + 4).getD 0

def copiesCost (copies body : Nat) : Nat :=
  if copies = 0 then stateCost else copies * body

/-- Cost of a repetition whose operand costs `body`: the operand is laid out once for each turn
that may be taken, an unbounded tail shares the last copy. An operand that may be left out once is
laid out without a beginning of no copies. -/
def repetitionCost (least : Nat) (most : Option Nat) (nullable : Bool) (body : Nat) : Nat :=
  match least, most with
  | 0, none => body + if nullable then 2 * splitCost 2 + stateCost else splitCost 2
  | least, none => least * body + splitCost 2
  | 0, some 1 => splitCost 2 + body + stateCost
  | least, some most =>
    if least = most then copiesCost least body
    else copiesCost least body + (most - least) * (splitCost 2 + body) + stateCost

mutual

/-- Bytes of the automaton for a node. Captured slots are counted apart, by `slots`. -/
def cost : Node → Nat
  | empty | char _ | assertion _ => stateCost
  | oneOf set => stateCost + 8 * set.ranges.length
  | repetition least most body => repetitionCost least most (isNullable body) (cost body)
  | capture _ body => 2 * stateCost + cost body
  | sequence items => if items.isEmpty then stateCost else costAll items
  | branches items => splitCost items.length + stateCost + costAll items

def costAll : List Node → Nat
  | [] => 0
  | n :: ns => cost n + costAll ns

end

mutual

/-- Bytes of the captured slots, each capture counted once however often it is repeated. -/
def slots : Node → Nat
  | empty | char _ | oneOf _ | assertion _ => 0
  | repetition _ _ body => slots body
  | capture name body => slotCost name + slots body
  | sequence items => slotsAll items
  | branches items => slotsAll items

def slotsAll : List Node → Nat
  | [] => 0
  | n :: ns => slots n + slotsAll ns

end

/-- The whole pattern is a capture of its own, followed by the accepting state. -/
def totalCost (n : Node) : Nat :=
  n.cost + n.slots + slotCost none + 3 * stateCost

end Node

def nestingLimit : Nat := 50

def sizeLimit : Nat := 10485760

end PortGate.Pattern
