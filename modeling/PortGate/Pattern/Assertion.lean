/-! Conditions on a place between two characters. Each one looks at the character before the place
and the character after it, `none` standing for the end of the text on that side. -/

namespace PortGate.Pattern

inductive Assertion where
  | textStart
  | textEnd
  | lineStart
  | lineEnd
  | crlfLineStart
  | crlfLineEnd
  | wordBoundary
  | noWordBoundary
  | wordStart
  | wordEnd
  | wordStartHalf
  | wordEndHalf
  deriving DecidableEq, Repr

/-- ASCII letters, digits and the underscore. -/
def isWordChar (c : Char) : Bool :=
  c.isAlphanum || c == '_'

def isWordSide (side : Option Char) : Bool :=
  side.any isWordChar

/-- The line assertions for both line ends never hold between a carriage return and the line feed
that follows it. -/
def Assertion.holds (a : Assertion) (before after : Option Char) : Bool :=
  match a with
  | textStart => before.isNone
  | textEnd => after.isNone
  | lineStart => before.isNone || before == some '\n'
  | lineEnd => after.isNone || after == some '\n'
  | crlfLineStart =>
      before.isNone || before == some '\n' || (before == some '\r' && after != some '\n')
  | crlfLineEnd =>
      after.isNone || after == some '\r' || (after == some '\n' && before != some '\r')
  | wordBoundary => isWordSide before != isWordSide after
  | noWordBoundary => isWordSide before == isWordSide after
  | wordStart => !isWordSide before && isWordSide after
  | wordEnd => isWordSide before && !isWordSide after
  | wordStartHalf => !isWordSide before
  | wordEndHalf => !isWordSide after

end PortGate.Pattern
