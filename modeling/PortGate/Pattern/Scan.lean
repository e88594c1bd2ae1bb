import PortGate.Pattern.Flags
import PortGate.Text.Blank

/-! Looking ahead in the text of a pattern. In verbose mode blanks and comments stand between any
two characters that belong together; a comment runs from a number sign through the end of its
line. -/

namespace PortGate.Pattern
open Text (isBlank)

def skipVerbose : (inComment : Bool) → List Char → List Char
  | _, [] => []
  | true, c :: rest => skipVerbose (c != '\n') rest
  | false, c :: rest =>
    if isBlank c then skipVerbose false rest
    else if c == '#' then skipVerbose true rest
    else c :: rest

def Flags.skip (flags : Flags) (text : List Char) : List Char :=
  if flags.verbose then skipVerbose false text else text

/-- Takes at most `limit` characters of a kind, dropping what the mode ignores before, between and
after them. The second part of the result is the text that follows. -/
def Flags.takeSpaced (flags : Flags) (kind : Char → Bool) :
    (limit : Nat) → (inComment : Bool) → List Char → List Char × List Char
  | _, _, [] => ([], [])
  | limit, true, c :: rest => takeSpaced flags kind limit (c != '\n') rest
  | limit, false, c :: rest =>
    if flags.verbose && isBlank c then takeSpaced flags kind limit false rest
    else if flags.verbose && c == '#' then takeSpaced flags kind limit true rest
    else
      match limit with
      | 0 => ([], c :: rest)
      | limit + 1 =>
        if kind c then
          let (taken, after) := takeSpaced flags kind limit false rest
          (c :: taken, after)
        else ([], c :: rest)

def Flags.takeAllSpaced (flags : Flags) (kind : Char → Bool) (text : List Char) :
    List Char × List Char :=
  flags.takeSpaced kind text.length false text

/-- The first character that is no blank, the first number sign on the way not counted. -/
def firstVisible : (passedSign : Bool) → List Char → Option Char
  | _, [] => none
  | passedSign, c :: rest =>
    if isBlank c then firstVisible passedSign rest
    else if !passedSign && c == '#' then firstVisible true rest
    else some c

def Flags.peek (flags : Flags) (text : List Char) : Option Char :=
  if flags.verbose then (firstVisible false text).or text.head? else text.head?

@[simp] theorem Flags.skip_of_not_verbose {flags : Flags} (h : flags.verbose = false)
    (text : List Char) : flags.skip text = text := by
  simp [skip, h]

end PortGate.Pattern
