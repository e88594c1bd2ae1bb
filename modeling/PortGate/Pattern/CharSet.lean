import PortGate.Text.CharRange

/-! Sets of characters as ascending lists of intervals that neither overlap nor touch. Folding adds
the other case of ASCII letters interval by interval: an interval that reaches into the lower case
letters gains the upper case of that part only, and no other interval is looked at twice. -/

namespace PortGate.Pattern
open Text (CharRange)

/-- A set of characters. The operations below keep its intervals sorted and apart. -/
structure CharSet where
  ranges : List CharRange
  deriving DecidableEq, Repr

namespace CharSet

def contains (s : CharSet) (c : Char) : Bool :=
  s.ranges.any (·.contains c)

instance : Membership Char CharSet where
  mem s c := ∃ r ∈ s.ranges, c ∈ r

theorem mem_iff {s : CharSet} {c : Char} : c ∈ s ↔ ∃ r ∈ s.ranges, c ∈ r := Iff.rfl

@[simp] theorem contains_iff (s : CharSet) (c : Char) : s.contains c = true ↔ c ∈ s := by
  simp [contains, mem_iff]

def empty : CharSet := ⟨[]⟩

/-- Adds an interval to a sorted list, joining it with the intervals that it meets or touches. -/
def insertRange (r : CharRange) : List CharRange → List CharRange
  | [] => [r]
  | s :: rest =>
    if r.last + 1 < s.first then r :: s :: rest
    else if s.last + 1 < r.first then s :: insertRange r rest
    else insertRange ⟨min r.first s.first, max r.last s.last⟩ rest

def insert (s : CharSet) (r : CharRange) : CharSet :=
  ⟨insertRange r s.ranges⟩

def insertAll (s : CharSet) (ranges : List CharRange) : CharSet :=
  ranges.foldl insert s

def single (c : Char) : CharSet := ⟨[.single c]⟩

/-- The other case of the letters in an interval, lower case letters having precedence. -/
def otherCase? (r : CharRange) : Option CharRange :=
  if r.first ≤ 'z'.toNat ∧ 'a'.toNat ≤ r.last then
    some ⟨max r.first 'a'.toNat - 32, min r.last 'z'.toNat - 32⟩
  else if r.first ≤ 'Z'.toNat ∧ 'A'.toNat ≤ r.last then
    some ⟨max r.first 'A'.toNat + 32, min r.last 'Z'.toNat + 32⟩
  else none

def fold (s : CharSet) : CharSet :=
  s.insertAll (s.ranges.filterMap otherCase?)

def maxCodePoint : Nat := 0x10FFFF

/-- The gaps of a sorted list of intervals, from `start` to the largest code point. -/
def gaps (start : Nat) : List CharRange → List CharRange
  | [] => if start ≤ maxCodePoint then [⟨start, maxCodePoint⟩] else []
  | r :: rest =>
    if start < r.first then ⟨start, r.first - 1⟩ :: gaps (r.last + 1) rest
    else gaps (r.last + 1) rest

def negate (s : CharSet) : CharSet := ⟨gaps 0 s.ranges⟩

@[simp] theorem not_mem_empty (c : Char) : c ∉ empty := by
  simp [mem_iff, empty]

theorem mem_single (c d : Char) : d ∈ single c ↔ d.toNat = c.toNat := by
  simp [mem_iff, single, CharRange.mem_single]

end CharSet

/-! The named sets. -/

namespace CharSet

def digit : CharSet := ⟨[⟨0x30, 0x39⟩]⟩

def space : CharSet := ⟨[⟨0x9, 0xD⟩, ⟨0x20, 0x20⟩]⟩

def word : CharSet := ⟨[⟨0x30, 0x39⟩, ⟨0x41, 0x5A⟩, ⟨0x5F, 0x5F⟩, ⟨0x61, 0x7A⟩]⟩

/-- The sets that may be named between colons inside a class. -/
def named? : String → Option CharSet
  | "alnum" => some ⟨[⟨0x30, 0x39⟩, ⟨0x41, 0x5A⟩, ⟨0x61, 0x7A⟩]⟩
  | "alpha" => some ⟨[⟨0x41, 0x5A⟩, ⟨0x61, 0x7A⟩]⟩
  | "ascii" => some ⟨[⟨0x0, 0x7F⟩]⟩
  | "blank" => some ⟨[⟨0x9, 0x9⟩, ⟨0x20, 0x20⟩]⟩
  | "cntrl" => some ⟨[⟨0x0, 0x1F⟩, ⟨0x7F, 0x7F⟩]⟩
  | "digit" => some digit
  | "graph" => some ⟨[⟨0x21, 0x7E⟩]⟩
  | "lower" => some ⟨[⟨0x61, 0x7A⟩]⟩
  | "print" => some ⟨[⟨0x20, 0x7E⟩]⟩
  | "punct" => some ⟨[⟨0x21, 0x2F⟩, ⟨0x3A, 0x40⟩, ⟨0x5B, 0x60⟩, ⟨0x7B, 0x7E⟩]⟩
  | "space" => some space
  | "upper" => some ⟨[⟨0x41, 0x5A⟩]⟩
  | "word" => some word
  | "xdigit" => some ⟨[⟨0x30, 0x39⟩, ⟨0x41, 0x46⟩, ⟨0x61, 0x66⟩]⟩
  | _ => none

/-- Every character but the line feed, and with `crlf` but the carriage return as well. -/
def notLineEnd (crlf : Bool) : CharSet :=
  if crlf then negate ⟨[⟨0xA, 0xA⟩, ⟨0xD, 0xD⟩]⟩ else negate ⟨[⟨0xA, 0xA⟩]⟩

def all : CharSet := negate empty

end CharSet

end PortGate.Pattern
