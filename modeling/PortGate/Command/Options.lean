import PortGate.Config.Loader

/-! The options in front of the command words. They are read from left to right up to the first word
that does not start with a dash, and the first decisive one, for help or the version, ends the
reading. -/

namespace PortGate.Command

inductive Verbosity where
  | normal
  | verbose
  | debug
  deriving DecidableEq, Repr

def Verbosity.mask : Verbosity → LogMask
  | normal => .upTo 5
  | verbose => .upTo 6
  | debug => .upTo 7

structure Options where
  /-- The configuration to load, the last one named. -/
  file : Option String
  policy : Policy
  /-- Rule lines that follow the rules of the configuration. -/
  lines : List String
  showsMessages : Bool
  verbosity : Verbosity
  words : List String
  deriving DecidableEq, Repr

def Options.initial : Options := ⟨none, .lenient, [], false, .normal, []⟩

inductive Switch where
  | help
  | version
  | file
  | line
  | strict
  | showMessages
  | verbosity (v : Verbosity)
  | unknown
  deriving DecidableEq, Repr

def Switch.ofText : String → Switch
  | "-h" => help
  | "--help" => help
  | "--version" => version
  | "-f" => file
  | "-A" => line
  | "-S" => strict
  | "-d" => showMessages
  | "-v" => verbosity .verbose
  | "-vv" => verbosity .debug
  | _ => unknown

inductive Invocation where
  | help
  | version
  /-- An option lacks its value. -/
  | valueMissing
  | unknownOption (text : String)
  | run (options : Options)
  deriving DecidableEq, Repr

def startsWithDash (text : String) : Bool := text.toList.head? == some '-'

def readOptions (o : Options) : List String → Invocation
  | [] => .run { o with words := [] }
  | arg :: rest =>
    if startsWithDash arg then
      match Switch.ofText arg, rest with
      | .help, _ => .help
      | .version, _ => .version
      | .file, [] => .valueMissing
      | .file, value :: rest => readOptions { o with file := some value } rest
      | .line, [] => .valueMissing
      | .line, value :: rest => readOptions { o with lines := o.lines ++ [value] } rest
      | .strict, rest => readOptions { o with policy := .strict } rest
      | .showMessages, rest => readOptions { o with showsMessages := true } rest
      | .verbosity v, rest => readOptions { o with verbosity := v } rest
      | .unknown, _ => .unknownOption arg
    else .run { o with words := arg :: rest }

namespace Invocation

def ofArguments (args : List String) : Invocation := readOptions .initial args

def file? : Invocation → Option String
  | run o => o.file
  | _ => none

def mask : Invocation → LogMask
  | run o => o.verbosity.mask
  | _ => .initial

/-- Whether messages are shown on the error stream too; lines always are. -/
def shows : Invocation → Event → Bool
  | _, .line _ => true
  | run o, .message _ _ => o.showsMessages
  | _, .message _ _ => false

end Invocation

end PortGate.Command
