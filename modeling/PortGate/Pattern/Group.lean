import PortGate.Pattern.Error
import PortGate.Pattern.Flags
import PortGate.Pattern.Scan
import PortGate.Text.Alphabetic

/-! The start of a group: whether it captures, under which name, and which flags it sets. -/

namespace PortGate.Pattern
open Text

/-- A name starts with a letter or an underscore; later digits, dots and brackets may follow. -/
def isNameChar (first : Bool) (c : Char) : Bool :=
  if first then c == '_' || isAlphabetic c
  else c == '_' || c == '.' || c == '[' || c == ']' || isAlphanumeric c

def readNameChars : (first : Bool) → List Char → Except Error (List Char × List Char)
  | first, [] => .error (if first then .nameMissing else .nameUnclosed)
  | first, c :: rest =>
    if c == '>' then .ok ([], rest)
    else if isNameChar first c then
      (readNameChars false rest).map fun (name, after) => (c :: name, after)
    else .error .nameInvalid

def readName (used : List String) (text : List Char) : Except Error (String × List Char) := do
  let (name, rest) ← readNameChars true text
  if name.isEmpty then .error .nameEmpty
  else if String.ofList name ∈ used then .error .nameDuplicate
  else return (String.ofList name, rest)

/-- The state of a flag directive: letters after the dash switch flags off. -/
structure Directive where
  flags : Flags
  seen : List Flag
  negated : Bool
  /-- Whether the dash was the last character. -/
  dangling : Bool

/-- Reads letters up to a colon or a closing parenthesis, which stays in the text. -/
def Directive.read (d : Directive) : List Char → Except Error (Flags × List Char)
  | [] => .error .flagsUnclosed
  | c :: rest =>
    if c == ':' || c == ')' then
      if d.dangling then .error .flagNegationDangling else .ok (d.flags, c :: rest)
    else if c == '-' then
      if d.negated then .error .flagNegationRepeated
      else Directive.read { d with negated := true, dangling := true } rest
    else
      match Flag.ofChar? c with
      | none => .error .flagUnknown
      | some flag =>
        if flag ∈ d.seen then .error .flagDuplicate
        else
          Directive.read
            ⟨d.flags.set flag !d.negated, flag :: d.seen, d.negated, false⟩ rest

inductive GroupStart where
  | capture (name : Option String)
  /-- A group that captures nothing and is read with these flags. -/
  | plain (flags : Flags)
  /-- No group: the flags change up to the end of the group around. -/
  | directive (flags : Flags)
  deriving Repr

def readFlagGroup (flags : Flags) (text : List Char) : Except Error (GroupStart × List Char) := do
  if text.isEmpty then .error .groupUnclosedAfterQuestion
  else
    match ← Directive.read ⟨flags, [], false, false⟩ text with
    | (new, ':' :: rest) => return (.plain new, rest)
    | (new, rest) =>
      if text.head? = some ')' then .error .flagsEmpty
      else return (.directive new, rest.drop 1)

def readGroupStart (flags : Flags) (used : List String) (text : List Char) :
    Except Error (GroupStart × List Char) :=
  match flags.skip text with
  | '?' :: '=' :: _ => .error .lookAround
  | '?' :: '!' :: _ => .error .lookAround
  | '?' :: '<' :: '=' :: _ => .error .lookAround
  | '?' :: '<' :: '!' :: _ => .error .lookAround
  | '?' :: 'P' :: '<' :: rest => do
    let (name, rest) ← readName used rest
    return (.capture (some name), rest)
  | '?' :: '<' :: rest => do
    let (name, rest) ← readName used rest
    return (.capture (some name), rest)
  | '?' :: rest => readFlagGroup flags rest
  | rest => .ok (.capture none, rest)

end PortGate.Pattern
