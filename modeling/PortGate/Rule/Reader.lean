import PortGate.Log.Logged
import PortGate.Rule.Cursor

/-! Reading a rule from its line: an action, external ports, a subnet and internal ports, then the
pattern. The leftmost defect decides the error. -/

namespace PortGate

namespace Rule

/-- A rule from its parts. The ends of both ranges have to be in order. -/
def ofParts (action : Action) (eports : Port × Port) (subnet : Subnet) (iports : Port × Port)
    (pattern : Option Pattern) : Except RuleError Rule := do
  let eports ← (PortRange.ofBounds eports.1 eports.2).mapError .ports
  let iports ← (PortRange.ofBounds iports.1 iports.2).mapError .ports
  return { action, eports, subnet, iports, pattern }

def read (line : String) : Except RuleError Rule := do
  let (action, c) ← (Cursor.start line).action
  let (eports, c) ← c.bounds .externalPort
  let (subnet, c) ← c.subnet
  let (iports, c) ← c.bounds .internalPort
  let (pattern, _) ← c.pattern
  ofParts action eports subnet iports pattern

def readLogged (line : String) : Logged (Except RuleError Rule) := do
  match read line with
  | .ok rule =>
    Logged.line ("perm rule added : " ++ rule.render)
    return .ok rule
  | .error e => return .error e

def readAll : List String → Logged (Except RuleError (List Rule))
  | [] => return .ok []
  | line :: lines => do
    match ← readLogged line with
    | .error e => return .error e
    | .ok rule => (·.map (rule :: ·)) <$> readAll lines

end Rule

end PortGate
