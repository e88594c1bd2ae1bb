import PortGate.Pattern.Class
import PortGate.Pattern.Count
import PortGate.Pattern.Group

/-! Reading a pattern in one pass. The groups that are open stand on a stack of their own, so each
step handles one item and the text only ever gets shorter. -/

namespace PortGate.Pattern

/-- What has been read of one group: the current branch and the finished ones, last first. -/
structure Level where
  items : List Node
  branches : List Node

namespace Level

def empty : Level := ⟨[], []⟩

def push (level : Level) (n : Node) : Level :=
  { level with items := n :: level.items }

def branch (level : Level) : Level :=
  ⟨[], .join level.items.reverse :: level.branches⟩

def close (level : Level) : Node :=
  .choose level.branch.branches.reverse

end Level

/-- An open group: how it captures, and the level and flags to go back to. -/
structure Frame where
  /-- The name, if any, when the group captures. -/
  capture : Option (Option String)
  outer : Level
  flags : Flags

def Frame.wrap (frame : Frame) (n : Node) : Node :=
  match frame.capture with
  | some name => .capture name n
  | none => n

structure Reader where
  flags : Flags
  level : Level
  frames : List Frame
  names : List String

namespace Reader

def initial : Reader := ⟨.initial, .empty, [], []⟩

def push (r : Reader) (n : Node) : Reader :=
  { r with level := r.level.push n }

def enter (r : Reader) (capture : Option (Option String)) (flags : Flags) : Except Error Reader :=
  if nestingLimit ≤ r.frames.length then .error .tooMuchNesting
  else
    .ok { r with
      flags := flags
      level := .empty
      frames := ⟨capture, r.level, r.flags⟩ :: r.frames
      names := (capture.bind id).toList ++ r.names }

def readGroup (r : Reader) (text : List Char) : Except Error (Reader × List Char) := do
  match ← readGroupStart r.flags r.names text with
  | (.capture name, rest) => return (← r.enter (some name) r.flags, rest)
  | (.plain flags, rest) => return (← r.enter none flags, rest)
  | (.directive flags, rest) => return ({ r with flags }, rest)

def closeGroup (r : Reader) : Except Error Reader :=
  match r.frames with
  | [] => .error .groupUnopened
  | frame :: frames =>
    .ok { r with
      flags := frame.flags
      level := frame.outer.push (frame.wrap r.level.close)
      frames }

def repeatLast (r : Reader) (least : Nat) (most : Option Nat) (missing : Error) :
    Except Error Reader :=
  match r.level.items with
  | [] => .error missing
  | last :: items =>
    .ok { r with level := { r.level with items := .repeated least most last :: items } }

def operatorBounds? : Char → Option (Nat × Option Nat)
  | '?' => some (0, some 1)
  | '*' => some (0, none)
  | '+' => some (1, none)
  | _ => none

def startAnchor (flags : Flags) : Assertion :=
  if flags.multiLine then if flags.crlf then .crlfLineStart else .lineStart else .textStart

def endAnchor (flags : Flags) : Assertion :=
  if flags.multiLine then if flags.crlf then .crlfLineEnd else .lineEnd else .textEnd

def anyChar (flags : Flags) : CharSet :=
  if flags.dotAll then .all else .notLineEnd flags.crlf

def step (r : Reader) (c : Char) (rest : List Char) : Except Error (Reader × List Char) := do
  match c with
  | '(' => r.readGroup rest
  | ')' => return (← r.closeGroup, rest)
  | '|' => return ({ r with level := r.level.branch }, rest)
  | '[' =>
    let (n, rest) ← readClass r.flags rest
    return (r.push n, rest)
  | '\x7b' =>
    if r.level.items.isEmpty then .error .countWithoutOperand
    else
      let ((least, most), rest) ← readCount r.flags rest
      return (← r.repeatLast least most .countWithoutOperand, rest)
  | '\x5c' =>
    let (n, rest) ← readEscape r.flags rest
    return (r.push n, rest)
  | '.' => return (r.push (.oneOf (anyChar r.flags)), rest)
  | '^' => return (r.push (.assertion (startAnchor r.flags)), rest)
  | '$' => return (r.push (.assertion (endAnchor r.flags)), rest)
  | c =>
    match operatorBounds? c with
    | some (least, most) =>
      return (← r.repeatLast least most .repetitionWithoutOperand, dropQuestion rest)
    | none => return (r.push (.literal r.flags.ignoreCase c), rest)

/-- At the end of the text no group may be open. -/
def finish (r : Reader) : Except Error Node :=
  if r.frames.isEmpty then .ok r.level.close else .error .groupUnclosed

/-- One item a turn. Each takes a character at least, so as many turns as characters suffice. -/
def run : (turns : Nat) → Reader → List Char → Except Error Node
  | 0, r, _ => r.finish
  | turns + 1, r, text =>
    match r.flags.skip text with
    | [] => r.finish
    | c :: rest => do
      let (r, rest) ← r.step c rest
      run turns r rest

end Reader

def Node.read (source : String) : Except Error Node :=
  let text := source.toList
  Reader.run text.length .initial text

/-- The node that a text writes, if it keeps both limits. -/
def Node.compile (source : String) : Except Error Node := do
  let n ← Node.read source
  if nestingLimit < n.height then .error .tooMuchNesting
  else if sizeLimit < n.totalCost then .error .tooLarge
  else return n

end PortGate.Pattern
