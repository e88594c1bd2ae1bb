import PortGate.Pattern.Escape

/-! Bracketed classes. The intervals of all items are merged as they are read; when the class is
complete the other case of letters is added, and the complement comes last. -/

namespace PortGate.Pattern
open Text (CharRange)

def readNamedSet? : List Char → Option (CharSet × List Char)
  | ':' :: rest =>
    let (negated, rest) := match rest with
      | '^' :: rest => (true, rest)
      | rest => (false, rest)
    match rest.dropWhile (· != ':') with
    | ':' :: ']' :: after =>
      (CharSet.named? (String.ofList (rest.takeWhile (· != ':')))).map fun set =>
        (if negated then set.negate else set, after)
    | _ => none
  | _ => none

def readClassItem (flags : Flags) (c : Char) (rest : List Char) :
    Except Error (Node × List Char) :=
  if c == '\x5c' then readEscape flags rest else .ok (.char c, rest)

def itemRanges : Node → Except Error (List CharRange)
  | .char c => .ok [.single c]
  | .oneOf set => .ok set.ranges
  | _ => .error .classAssertion

/-- Both ends of a range are single characters in ascending order. -/
def rangeBetween : Node → Node → Except Error CharRange
  | .char first, .char last =>
    if last < first then .error .classRangeReversed else .ok ⟨first.toNat, last.toNat⟩
  | _, _ => .error .classRangeOfSets

/-- An item or a range that begins with `c`. A dash before the closing bracket or before another
dash makes no range. -/
def readClassRange (flags : Flags) (c : Char) (rest : List Char) :
    Except Error (List CharRange × List Char) := do
  let (first, rest) ← readClassItem flags c rest
  match flags.skip rest with
  | [] => .error .classUnclosedAfterItem
  | '-' :: after =>
    if flags.peek after = some ']' ∨ flags.peek after = some '-' then
      return (← itemRanges first, '-' :: after)
    match flags.skip after with
    | [] => .error .classUnclosedAfterDash
    | d :: after =>
      let (last, after) ← readClassItem flags d after
      return ([← rangeBetween first last], after)
  | after => return (← itemRanges first, after)

/-- The items up to the closing bracket. Each takes a character at least, so a count of turns that
starts at the length of the text never runs out before the text does. -/
def readClassItems (flags : Flags) :
    (turns : Nat) → CharSet → List Char → Except Error (CharSet × List Char)
  | 0, _, _ => .error .classUnclosed
  | turns + 1, found, text =>
    match flags.skip text with
    | [] => .error .classUnclosed
    | ']' :: rest => .ok (found, rest)
    | '[' :: rest =>
      match readNamedSet? rest with
      | some (set, rest) => readClassItems flags turns (found.insertAll set.ranges) rest
      | none => .error .classNested
    | '&' :: '&' :: _ => .error .classIntersection
    | '-' :: '-' :: _ => .error .classDifference
    | '~' :: '~' :: _ => .error .classSymmetricDifference
    | c :: rest => do
      let (ranges, rest) ← readClassRange flags c rest
      readClassItems flags turns (found.insertAll ranges) rest

/-- What may stand first in a class without being special: dashes, or else one closing bracket. -/
def readClassStart (flags : Flags) (text : List Char) :
    Except Error (CharSet × List Char) :=
  match flags.takeAllSpaced (· == '-') text with
  | ([], ']' :: rest) =>
    match flags.skip rest with
    | [] => .error .classUnclosedAfterBracket
    | rest => .ok (.single ']', rest)
  | ([], rest) => .ok (.empty, rest)
  | (_, []) => .error .classUnclosedAfterDash
  | (_, rest) => .ok (.single '-', rest)

/-- Whether a class is negated, and the text in which it lists its items. -/
def readClassNegation (flags : Flags) (text : List Char) : Except Error (Bool × List Char) :=
  match flags.skip text with
  | [] => .error .classUnclosed
  | '^' :: rest =>
    match flags.skip rest with
    | [] => .error .negatedClassUnclosed
    | rest => .ok (true, rest)
  | rest => .ok (false, rest)

/-- A class as it is written: the intervals of its items, joined but not folded yet, and the text behind
it. A negated class stands for what it does not list. -/
structure ClassListing where
  negated : Bool
  items : CharSet
  rest : List Char

def readClassListing (flags : Flags) (text : List Char) : Except Error ClassListing := do
  let (negated, text) ← readClassNegation flags text
  let (items, text) ← readClassStart flags text
  let (items, rest) ← readClassItems flags text.length items text
  return { negated, items, rest }

def ClassListing.set (listing : ClassListing) (ignoreCase : Bool) : CharSet :=
  let set := if ignoreCase then listing.items.fold else listing.items
  if listing.negated then set.negate else set

def readClass (flags : Flags) (text : List Char) : Except Error (Node × List Char) := do
  let listing ← readClassListing flags text
  return (.oneOf (listing.set flags.ignoreCase), listing.rest)

end PortGate.Pattern
