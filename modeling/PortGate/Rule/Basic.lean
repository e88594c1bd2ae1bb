import PortGate.Net.Port
import PortGate.Net.Subnet
import PortGate.Pattern.Basic

/-! A permission rule and the requests that it matches. A rule names external ports, a block of
internal addresses, internal ports and possibly a pattern for the description of a mapping. -/

namespace PortGate

inductive Action where
  | allow
  | deny
  deriving DecidableEq, Repr

def Action.render : Action → String
  | allow => "allow"
  | deny => "deny"

/-- Where a mapping leads inside the network. -/
structure Endpoint where
  address : Address
  port : Port
  deriving DecidableEq

structure Request where
  external : Port
  internal : Endpoint
  description : Option String
  deriving DecidableEq

structure Rule where
  action : Action
  eports : PortRange
  subnet : Subnet
  iports : PortRange
  pattern : Option Pattern
  deriving DecidableEq

namespace Rule

/-- The part of a match that concerns the internal endpoint. -/
def matchesInternal (r : Rule) (endpoint : Endpoint) : Bool :=
  decide (endpoint.port ∈ r.iports) && r.subnet.contains endpoint.address

/-- A rule without a pattern takes any description, and a request without a description suits any
pattern. -/
def matchesDescription (r : Rule) : Option String → Bool
  | none => true
  | some text => r.pattern.all (·.isMatch text)

def matchesRequest (r : Rule) (q : Request) : Bool :=
  decide (q.external ∈ r.eports) && r.matchesInternal q.internal &&
    r.matchesDescription q.description

def render (r : Rule) : String :=
  r.action.render ++ " " ++ r.eports.render ++ " " ++ r.subnet.render ++ " " ++ r.iports.render ++
    r.pattern.elim "" fun p => " " ++ p.source

end Rule

end PortGate
