import PortGate.Rule.Basic
import PortGate.Text.Bytes

/-! The dump of a rule list: a heading, then a line for each rule with its number, its bounds in
full and its address and mask in hexadecimal. A line is written in pieces, and its fixed part has
to fit a buffer of 128 bytes. -/

namespace PortGate
open Text

/-- Something that takes bytes until `room` is used up. Without a limit it takes them all. The
pieces that it has taken are kept apart, the last one first. -/
structure Sink where
  room : Option Nat
  pieces : List (List UInt8)
  deriving DecidableEq

inductive DumpError where
  | noRoom
  | lineTooLong
  deriving DecidableEq, Repr

def DumpError.message : DumpError → String
  | noRoom => "failed to write whole buffer"
  | lineTooLong => "permission line too long"

/-- Writing that may fail; what was written before a failure stays written. -/
abbrev Writing := ExceptT DumpError (StateM Sink)

namespace Sink

def ofRoom (room : Option Nat) : Sink := ⟨room, []⟩

def written (s : Sink) : List UInt8 := s.pieces.reverse.flatten

def share (s : Sink) (bytes : List UInt8) : List UInt8 :=
  match s.room with
  | none => bytes
  | some room => bytes.take room

def take (s : Sink) (bytes : List UInt8) : Sink :=
  ⟨s.room.map (· - bytes.length), s.share bytes :: s.pieces⟩

@[simp] theorem written_ofRoom (room : Option Nat) : (ofRoom room).written = [] := rfl

@[simp] theorem written_take (s : Sink) (bytes : List UInt8) :
    (s.take bytes).written = s.written ++ s.share bytes := by
  simp [written, take]

def fits (s : Sink) (bytes : List UInt8) : Bool :=
  s.room.all (bytes.length ≤ ·)

def put (bytes : List UInt8) : Writing Unit := do
  let s ← get
  set (s.take bytes)
  unless s.fits bytes do throw .noRoom

def putText (text : String) : Writing Unit := put (encode text)

end Sink

/-- The most bytes that the fixed part of a line may have. -/
def dumpBufferSize : Nat := 128

namespace Rule

/-- The part of a dump line that comes before the pattern. -/
def dumpHead (index : Nat) (r : Rule) : String :=
  Decimal.renderTwo index ++ " " ++ r.action.render ++ " " ++ r.eports.renderBounds ++ " " ++
    Hexadecimal.renderEight r.subnet.address.toNat ++ "/" ++
    Hexadecimal.renderEight r.subnet.mask.toNat ++ " " ++ r.iports.renderBounds

def writeDump (index : Nat) (r : Rule) : Writing Unit := do
  let head := r.dumpHead index
  if dumpBufferSize < head.utf8ByteSize then throw .lineTooLong
  Sink.putText head
  if let some p := r.pattern then
    Sink.putText " "
    Sink.putText p.source
  Sink.putText "\n"

end Rule

def writeDumpFrom (start : Nat) : List Rule → Writing Unit
  | [] => return
  | r :: rules => do
    r.writeDump start
    writeDumpFrom (start + 1) rules

def writeDump (rules : List Rule) : Writing Unit := do
  Sink.putText "Permissions :\n"
  writeDumpFrom 0 rules

/-- Dumps to a sink, giving the outcome and the bytes that it took. -/
def dumpTo (room : Option Nat) (rules : List Rule) : Except DumpError Unit × List UInt8 :=
  let (outcome, sink) := (writeDump rules).run (.ofRoom room)
  (outcome, sink.written)

end PortGate
