import PortGate.Rule.Basic

/-! The command words. Arguments are looked at from left to right. -/

namespace PortGate
open Text

inductive Command where
  | list
  | check (request : Request)
  | ports (endpoint : Endpoint)
  | free (wanted : Port) (endpoint : Endpoint)
  deriving DecidableEq

namespace Command

inductive WordError where
  /-- No such command, or the wrong number of arguments. -/
  | unknown
  | invalidArgument (what text : String)
  deriving DecidableEq, Repr

/-- Digits with a value below 65536; one plus sign may lead them. -/
def readNumber? (text : String) : Option Port := do
  let digits := match text.toList with
    | '+' :: rest => rest
    | chars => chars
  let n ← Decimal.read? digits
  if n < 65536 then some (UInt16.ofNat n) else none

def readPortArgument (what text : String) : Except WordError Port :=
  (readNumber? text).elim (.error (.invalidArgument what text)) .ok

def readAddressArgument (text : String) : Except WordError Address :=
  (Address.read? text.toList).elim (.error (.invalidArgument "address" text)) .ok

def readEndpoint (address port : String) : Except WordError Endpoint := do
  let address ← readAddressArgument address
  let port ← readPortArgument "internal port" port
  return { address, port }

def readCheck (external address port : String) (description : Option String) :
    Except WordError Command := do
  let external ← readPortArgument "external port" external
  let internal ← readEndpoint address port
  return .check { external, internal, description }

def read : List String → Except WordError Command
  | ["list"] => .ok .list
  | ["check", external, address, port] => readCheck external address port none
  | ["check", external, address, port, text] => readCheck external address port (some text)
  | ["ports", address, port] => do return .ports (← readEndpoint address port)
  | ["free", wanted, address, port] => do
    let wanted ← readPortArgument "external port" wanted
    return .free wanted (← readEndpoint address port)
  | _ => .error .unknown

end Command

end PortGate
