import PortGate.Net.Port
import PortGate.Net.Subnet
import PortGate.Pattern.Error

/-! Why a line is no rule. -/

namespace PortGate

inductive Field where
  | action
  | externalPort
  | subnet
  | internalPort
  deriving DecidableEq, Repr

def Field.label : Field → String
  | action => "action"
  | externalPort => "external port"
  | subnet => "ip/mask"
  | internalPort => "internal port"

inductive RuleError where
  | missing (field : Field)
  | action (text : String)
  | ports (cause : PortRangeError)
  | subnet (cause : SubnetError)
  | pattern (source : String) (cause : Pattern.Error)
  deriving DecidableEq, Repr

def RuleError.message : RuleError → String
  | missing field => "permission rule truncated: missing " ++ field.label
  | action text => "invalid permission action \"" ++ text ++ "\", expected allow or deny"
  | ports cause => cause.message
  | subnet cause => cause.message
  | pattern source cause => "err when compiling regex \"" ++ source ++ "\": " ++ cause.message

end PortGate
