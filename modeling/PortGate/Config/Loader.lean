import PortGate.Config.Line
import PortGate.Log.Logged
import PortGate.Rule.Reader
import PortGate.Text.Quoted

/-! Loading the rules of a configuration. Lines are handled one after the other, so everything
before a line that ends the loading has been logged by then. -/

namespace PortGate
open Text

/-- What to do with a rule line that does not read: leave it out, or refuse the whole file. -/
inductive Policy where
  | lenient
  | strict
  deriving DecidableEq, Repr

inductive IoFault where
  | notFound
  | accessDenied
  | isDirectory
  | invalidText
  deriving DecidableEq, Repr

def IoFault.message : IoFault → String
  | notFound => "No such file or directory (os error 2)"
  | accessDenied => "Permission denied (os error 13)"
  | isDirectory => "Is a directory (os error 21)"
  | invalidText => "stream did not contain valid UTF-8"

inductive LoadError where
  | io (fault : IoFault)
  | rule (line : Nat) (cause : RuleError)
  deriving DecidableEq, Repr

def LoadError.message : LoadError → String
  | io fault => "cannot read configuration: " ++ fault.message
  | rule line cause =>
    "invalid permission rule at line " ++ Decimal.render line ++ ": " ++ cause.message

/-- The rules of a configuration and the number of rule lines that were left out. -/
structure Loaded where
  rules : List Rule
  skipped : Nat
  deriving DecidableEq

namespace Loaded

def empty : Loaded := ⟨[], 0⟩

def withRule (loaded : Loaded) (rule : Rule) : Loaded :=
  { loaded with rules := rule :: loaded.rules }

def withSkipped (loaded : Loaded) : Loaded :=
  { loaded with skipped := loaded.skipped + 1 }

end Loaded

def loadLines (policy : Policy) : (n : Nat) → List (List UInt8) → Logged (Except LoadError Loaded)
  | _, [] => return .ok .empty
  | n, line :: lines => do
    match ConfigLine.ofBytes? line with
    | none => return .error (.io .invalidText)
    | some .ignored => loadLines policy (n + 1) lines
    | some (.rule text) =>
      match ← Rule.readLogged text with
      | .ok rule => (·.map (·.withRule rule)) <$> loadLines policy (n + 1) lines
      | .error cause =>
        match policy with
        | .strict => return .error (.rule n cause)
        | .lenient =>
          Logged.message .warning
            ("ignoring permission rule at line " ++ Decimal.render n ++ ": " ++ cause.message)
          (·.map (·.withSkipped)) <$> loadLines policy (n + 1) lines
    | some (.option key) =>
      Logged.line ("skipping option " ++ key)
      loadLines policy (n + 1) lines
    | some (.unknown text) =>
      Logged.message .error ("cannot parse option " ++ text)
      loadLines policy (n + 1) lines

def load (policy : Policy) (bytes : List UInt8) : Logged (Except LoadError Loaded) :=
  loadLines policy 1 (lines bytes)

inductive FileContent where
  | unreadable (fault : IoFault)
  | bytes (content : List UInt8)
  deriving DecidableEq

/-- Loads a file. Its name is logged before it is opened. -/
def loadFile (policy : Policy) (name : String) (content : FileContent) :
    Logged (Except LoadError Loaded) := do
  Logged.line ("Reading configuration from file " ++ Quoted.render name)
  match content with
  | .unreadable fault => return .error (.io fault)
  | .bytes content => load policy content

end PortGate
