import PortGate.Pattern.Error
import PortGate.Pattern.Scan
import PortGate.Text.Decimal

/-! The counts of a repetition. Blanks may stand around a number in every mode. -/

namespace PortGate.Pattern
open Text

/-- A number of at most 32 bits. -/
def readDecimal (flags : Flags) (text : List Char) : Except Error (Nat × List Char) :=
  let (digits, rest) := flags.takeAllSpaced Char.isDigit (text.dropWhile isBlank)
  if digits.isEmpty then .error .countWithoutDigits
  else if Decimal.value digits < 4294967296 then
    .ok (Decimal.value digits, rest.dropWhile isBlank)
  else .error .countOverflow

/-- A question mark after an operator only asks for the shorter match first. -/
def dropQuestion : List Char → List Char
  | '?' :: rest => rest
  | text => text

/-- The upper bound and the text at the closing brace. Without a comma the bounds are the same. -/
def readMost (flags : Flags) (least : Nat) : List Char → Except Error (Option Nat × List Char)
  | [] => .error .countUnfinished
  | ',' :: rest =>
    match flags.skip rest with
    | [] => .error .countUnfinishedAfterComma
    | '\x7d' :: rest => .ok (none, '\x7d' :: rest)
    | rest => do
      match ← readDecimal flags rest with
      | (_, []) => .error .countUnfinishedAfterBounds
      | (most, rest) => .ok (some most, rest)
  | rest => .ok (some least, rest)

def readCount (flags : Flags) (text : List Char) :
    Except Error ((Nat × Option Nat) × List Char) := do
  match flags.skip text with
  | [] => .error .countUnclosed
  | text =>
    let (least, text) ← readDecimal flags text
    match ← readMost flags least text with
    | (most, '\x7d' :: rest) =>
      if most.any (· < least) then .error .countReversed
      else .ok ((least, most), dropQuestion (flags.skip rest))
    | _ => .error .countWithoutBrace

end PortGate.Pattern
