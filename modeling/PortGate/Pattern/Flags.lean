/-! The switches that change how a pattern is read. They hold from where they are set to the end of
the group around them. -/

namespace PortGate.Pattern

/-- `verbose` skips white space and comments between items, `crlf` counts carriage returns among the
line ends. -/
structure Flags where
  ignoreCase : Bool
  multiLine : Bool
  dotAll : Bool
  swapGreed : Bool
  crlf : Bool
  verbose : Bool
  deriving DecidableEq, Repr

/-- A pattern starts with letter case ignored and every other switch off. -/
def Flags.initial : Flags := ⟨true, false, false, false, false, false⟩

/-- A letter of a flag directive. `inert` is accepted and changes nothing. -/
inductive Flag where
  | ignoreCase
  | multiLine
  | dotAll
  | swapGreed
  | crlf
  | verbose
  | inert
  deriving DecidableEq, Repr

def Flag.ofChar? : Char → Option Flag
  | 'i' => some .ignoreCase
  | 'm' => some .multiLine
  | 's' => some .dotAll
  | 'U' => some .swapGreed
  | 'R' => some .crlf
  | 'x' => some .verbose
  | 'u' => some .inert
  | _ => none

def Flags.set (flags : Flags) (flag : Flag) (value : Bool) : Flags :=
  match flag with
  | .ignoreCase => { flags with ignoreCase := value }
  | .multiLine => { flags with multiLine := value }
  | .dotAll => { flags with dotAll := value }
  | .swapGreed => { flags with swapGreed := value }
  | .crlf => { flags with crlf := value }
  | .verbose => { flags with verbose := value }
  | .inert => flags

theorem Flags.ignoreCase_set (flags : Flags) {flag : Flag} (value : Bool)
    (h : flag ≠ .ignoreCase) : (flags.set flag value).ignoreCase = flags.ignoreCase := by
  cases flag <;> first | exact absurd rfl h | rfl

end PortGate.Pattern
