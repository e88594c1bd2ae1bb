/-! What a run of the program says besides its result. A plain line is always shown; a message has a
priority, and a mask with one bit for each priority decides whether it is sent. -/

namespace PortGate

/-- From the most urgent to the least. -/
inductive Priority where
  | emergency
  | alert
  | critical
  | error
  | warning
  | notice
  | info
  | debug
  deriving DecidableEq, Repr

def Priority.toNat : Priority → Nat
  | emergency => 0
  | alert => 1
  | critical => 2
  | error => 3
  | warning => 4
  | notice => 5
  | info => 6
  | debug => 7

inductive Event where
  | line (text : String)
  | message (priority : Priority) (text : String)
  deriving DecidableEq, Repr

/-- One bit for each priority that is sent. -/
abbrev LogMask := UInt32

namespace LogMask

/-- The mask of the priorities up to `level`. The shift takes its amount modulo 32 and the
subtraction wraps, so a level outside 0 to 30 gives what the arithmetic of 32 bits leaves. -/
def upTo (level : Int32) : LogMask :=
  ((1 : UInt32) <<< (level + 1).toUInt32) - 1

def initial : LogMask := 255

def passes (mask : LogMask) : Event → Bool
  | .line _ => true
  | .message priority _ => mask.toNat.testBit priority.toNat

/-- Sets a mask; the empty mask changes nothing. The first part is the mask before, as a signed
number. -/
def replace (current new : LogMask) : Int × LogMask :=
  (current.toInt32.toInt, if new = 0 then current else new)

end LogMask

/-- How an event reads on the error stream, `ident` naming the program. A message loses its NUL
characters and gains a line end when it has none. -/
def Event.render (ident : String) : Event → String
  | line text => text ++ "\n"
  | message _ text =>
    let shown := String.ofList (text.toList.filter (· != '\x00'))
    ident ++ ": " ++ (if shown.toList.getLast? = some '\n' then shown else shown ++ "\n")

end PortGate
