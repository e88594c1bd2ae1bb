import PortGate.PortSet.Fill
import PortGate.Rule.Basic

/-! The external ports that an endpoint may use. The rules are gone through from the last to the
first and each that concerns the endpoint overwrites its range, so the first rule has the last
word. Patterns play no part. -/

namespace PortGate

def applyRule (endpoint : Endpoint) (allowed : PortSet) (r : Rule) : PortSet :=
  if r.matchesInternal endpoint then allowed.fill r.eports.lo r.eports.hi (r.action == .allow)
  else allowed

def permittedPorts (rules : List Rule) (endpoint : Endpoint) : PortSet :=
  rules.reverse.foldl (applyRule endpoint) .all

end PortGate
