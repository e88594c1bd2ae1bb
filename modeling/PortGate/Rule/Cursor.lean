import PortGate.Rule.Basic
import PortGate.Rule.Error
import PortGate.Text.Blank
import PortGate.Text.Bytes

/-! A place in a line, counted in bytes. Every step moves on by whole tokens. A token is found
byte by byte: separators are ASCII, so no byte of a longer character is mistaken for one and the
places at which a step stops lie between characters. -/

namespace PortGate
open Text

structure Cursor where
  line : String
  pos : Nat
  deriving DecidableEq

namespace Cursor

def start (line : String) : Cursor := ⟨line, 0⟩

def remaining (c : Cursor) : List UInt8 :=
  (encode c.line).drop c.pos

/-- The part of the line between two byte places, empty when one of them is inside a character. -/
def slice (line : String) (first last : Nat) : String :=
  (decode? (((encode line).drop first).take (last - first))).getD ""

/-- Moves over the bytes of a kind and gives the text passed over. -/
def takeWhile (c : Cursor) (kind : UInt8 → Bool) : String × Cursor :=
  let stop := c.pos + (c.remaining.takeWhile kind).length
  (slice c.line c.pos stop, { c with pos := stop })

def skipSeparators (c : Cursor) : Cursor :=
  (c.takeWhile isSeparatorByte).2

/-- The next token; `field` says what is missing when there is none. -/
def token (c : Cursor) (field : Field) : Except RuleError (String × Cursor) :=
  let (text, next) := c.skipSeparators.takeWhile fun b => !isSeparatorByte b
  if text.isEmpty then .error (.missing field) else .ok (text, next)

def rest (c : Cursor) : String :=
  slice c.line c.pos c.line.utf8ByteSize

def action (c : Cursor) : Except RuleError (Action × Cursor) := do
  let (text, c) ← c.token .action
  if text = "allow" then return (.allow, c)
  else if text = "deny" then return (.deny, c)
  else throw (.action text)

def bounds (c : Cursor) (field : Field) : Except RuleError ((Port × Port) × Cursor) := do
  let (text, c) ← c.token field
  return (← (readBounds text).mapError .ports, c)

def subnet (c : Cursor) : Except RuleError (Subnet × Cursor) := do
  let (text, c) ← c.token .subnet
  return (← (Subnet.read text).mapError .subnet, c)

/-- The rest of the line without leading blanks, blanks at its end included. -/
def pattern (c : Cursor) : Except RuleError (Option Pattern × Cursor) := do
  let source := trimStart c.rest
  let done : Cursor := { c with pos := c.line.utf8ByteSize }
  if source.isEmpty then return (none, done)
  else return (some (← (Pattern.ofSource source).mapError (.pattern source)), done)

end Cursor

end PortGate
