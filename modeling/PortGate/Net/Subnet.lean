import PortGate.Net.Address

/-! Blocks of addresses. A mask selects the bits that count; it is written as the number of its
leading ones, or in dotted form when its ones do not all lead. -/

namespace PortGate
open Text

structure Subnet where
  address : Address
  mask : Address
  deriving DecidableEq

inductive SubnetError where
  /-- The text holds more than one slash. -/
  | malformed (text : String)
  | invalidAddress (text : String)
  | invalidMask (text : String)
  deriving DecidableEq, Repr

def SubnetError.message : SubnetError → String
  | malformed text => "malformed permission rule near \"" ++ text ++ "\""
  | invalidAddress text => "invalid IPv4 address \"" ++ text ++ "\""
  | invalidMask text => "invalid subnet mask \"" ++ text ++ "\""

namespace Subnet

def maskOfBits (bits : Nat) : Address :=
  BitVec.allOnes 32 <<< (32 - bits)

def bitsOfMask? (mask : Address) : Option Nat :=
  (List.range 33).find? fun bits => maskOfBits bits = mask

/-- The addresses that agree with the subnet's address wherever the mask is set. -/
def contains (s : Subnet) (address : Address) : Bool :=
  address &&& s.mask == s.address &&& s.mask

def readMask? (text : List Char) : Option Address :=
  match Decimal.read? text with
  | some bits => if bits ≤ 32 then some (maskOfBits bits) else none
  | none => Address.read? text

/-- The address is looked at before the mask. Without a mask all bits count. -/
def read (text : String) : Except SubnetError Subnet := do
  if 1 < text.toList.count '/' then throw (.malformed text)
  let (address, mask?) := match splitOnce '/' text.toList with
    | some (address, mask) => (address, some mask)
    | none => (text.toList, none)
  let some address := Address.read? address | throw (.invalidAddress (String.ofList address))
  match mask? with
  | none => return ⟨address, BitVec.allOnes 32⟩
  | some mask =>
    match readMask? mask with
    | some bits => return ⟨address, bits⟩
    | none => throw (.invalidMask (String.ofList mask))

def renderMask (mask : Address) : String :=
  match bitsOfMask? mask with
  | some bits => Decimal.render bits
  | none => mask.render

def render (s : Subnet) : String :=
  s.address.render ++ "/" ++ renderMask s.mask

end Subnet

end PortGate
