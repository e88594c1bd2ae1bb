import PortGate.Config.Loader
import PortGate.RuleList.Decision
import PortGate.RuleList.PermittedPorts

/-! The rule list in use. Each list that is installed is a generation of its own, equal to no
other even if the rules are the same, and a list that was taken out of the store never changes. -/

namespace PortGate
open Text

structure Generation where
  serial : Nat
  rules : List Rule
  deriving DecidableEq

/-- The generation in use and the number of the next one. -/
structure Store where
  current : Generation
  nextSerial : Nat
  deriving DecidableEq

namespace Store

def ofRules (rules : List Rule) : Store := ⟨⟨0, rules⟩, 1⟩

def empty : Store := ofRules []

def snapshot (s : Store) : Generation := s.current

/-- Installs rules and gives back the generation that was in use. -/
def replace (s : Store) (rules : List Rule) : Generation × Store :=
  (s.current, ⟨⟨s.nextSerial, rules⟩, s.nextSerial + 1⟩)

/-- Loads a file completely and installs its rules, giving their number. On an error the store stays
as it is. -/
def reload (s : Store) (policy : Policy) (name : String) (content : FileContent) :
    Logged (Except LoadError Nat × Store) := do
  match ← loadFile policy name content with
  | .error e =>
    Logged.message .error
      ("reloading permissions from " ++ Quoted.render name ++ " failed: " ++ e.message)
    return (.error e, s)
  | .ok loaded =>
    let count := loaded.rules.length
    Logged.message .notice
      ("permissions reloaded from " ++ Quoted.render name ++ ": " ++
        Decimal.render count ++ " rules, " ++ Decimal.render loaded.skipped ++ " skipped")
    return (.ok count, (s.replace loaded.rules).2)

end Store

end PortGate
