import PortGate.Pattern.Error
import PortGate.Pattern.Node
import PortGate.Pattern.Scan
import PortGate.Text.Decimal

/-! Escapes: what a backslash and the characters after it stand for. Readers take the text after the
part that called for them and return what it means with the text that follows. -/

namespace PortGate.Pattern
open Text

def charOfCode? (n : Nat) : Option Char :=
  if n.isValidChar then some (Char.ofNat n) else none

def hexadecimalWidth? : Char → Option Nat
  | 'x' => some 2
  | 'u' => some 4
  | 'U' => some 8
  | _ => none

def readBracedHexadecimal (flags : Flags) (text : List Char) : Except Error (Node × List Char) :=
  match flags.takeAllSpaced Hexadecimal.isDigit text with
  | (_, []) => .error .bracedHexadecimalUnfinished
  | (digits, '\x7d' :: rest) =>
    if digits.isEmpty then .error .bracedHexadecimalEmpty
    else
      match charOfCode? (Hexadecimal.value digits) with
      | some c => .ok (.literal flags.ignoreCase c, flags.skip rest)
      | none => .error .bracedHexadecimalInvalid
  | _ => .error .bracedHexadecimalNoDigit

def readFixedHexadecimal (flags : Flags) (width : Nat) (text : List Char) :
    Except Error (Node × List Char) :=
  let (digits, rest) := flags.takeSpaced Hexadecimal.isDigit width false text
  if digits.length < width then
    .error (if rest.isEmpty then .fixedHexadecimalUnfinished else .fixedHexadecimalNoDigit)
  else
    match charOfCode? (Hexadecimal.value digits) with
    | some c => .ok (.literal flags.ignoreCase c, rest)
    | none => .error .fixedHexadecimalInvalid

def readHexadecimal (flags : Flags) (width : Nat) (text : List Char) :
    Except Error (Node × List Char) :=
  match flags.skip text with
  | [] => .error .hexadecimalMissing
  | '\x7b' :: rest => readBracedHexadecimal flags rest
  | rest => readFixedHexadecimal flags width rest

def isBoundaryNameChar (c : Char) : Bool :=
  c.isAlpha || c == '-'

def boundaryNamed? : String → Option Assertion
  | "start" => some .wordStart
  | "end" => some .wordEnd
  | "start-half" => some .wordStartHalf
  | "end-half" => some .wordEndHalf
  | _ => none

/-- What follows the letter of a word boundary. A brace opens the name of a special boundary when a
letter or a dash comes next, and else the count of a repetition. -/
def readBoundary (flags : Flags) : List Char → Except Error (Node × List Char)
  | '\x7b' :: text =>
    match flags.skip text with
    | [] => .error .boundaryUnfinished
    | c :: _ =>
      if isBoundaryNameChar c then
        match flags.takeAllSpaced isBoundaryNameChar text with
        | (name, '\x7d' :: rest) =>
          match boundaryNamed? (String.ofList name) with
          | some a => .ok (.assertion a, rest)
          | none => .error .boundaryUnknown
        | _ => .error .boundaryUnclosed
      else .ok (.assertion .wordBoundary, '\x7b' :: text)
  | text => .ok (.assertion .wordBoundary, text)

/-- The set of a letter that names one, an upper case letter naming the complement. -/
def setEscape? : Char → Option CharSet
  | 'd' => some .digit
  | 's' => some .space
  | 'w' => some .word
  | 'D' => some CharSet.digit.negate
  | 'S' => some CharSet.space.negate
  | 'W' => some CharSet.word.negate
  | _ => none

def controlEscape? : Char → Option Char
  | 'a' => some '\x07'
  | 'f' => some '\x0c'
  | 't' => some '\t'
  | 'n' => some '\n'
  | 'r' => some '\r'
  | 'v' => some '\x0b'
  | _ => none

def assertionEscape? : Char → Option Assertion
  | 'A' => some .textStart
  | 'z' => some .textEnd
  | 'B' => some .noWordBoundary
  | '<' => some .wordStart
  | '>' => some .wordEnd
  | _ => none

/-- Any other ASCII character stands for itself after a backslash. -/
def isSelfEscape (c : Char) : Bool :=
  c.toNat < 0x80 && !c.isAlphanum && c != '<' && c != '>'

def readEscape (flags : Flags) : List Char → Except Error (Node × List Char)
  | [] => .error .escapeUnfinished
  | c :: rest =>
    if c.isDigit then .error .backreference
    else if c == 'p' || c == 'P' then .error .unicodeClass
    else if c == 'b' then readBoundary flags rest
    else if isSelfEscape c then .ok (.char c, rest)
    else
      match hexadecimalWidth? c, setEscape? c, controlEscape? c, assertionEscape? c with
      | some width, _, _, _ => readHexadecimal flags width rest
      | _, some set, _, _ => .ok (.oneOf set, rest)
      | _, _, some control, _ => .ok (.char control, rest)
      | _, _, _, some a => .ok (.assertion a, rest)
      | none, none, none, none => .error .escapeUnknown

end PortGate.Pattern
