import PortGate.PortSet.Basic

/-! The maximal runs of a set of ports, ascending. Between two neighbours at least one port is
missing. -/

namespace PortGate.PortSet

/-- Puts a port in front of ascending runs, joining it with a run that starts right after it. -/
def attach (p : Port) : List PortRange → List PortRange
  | [] => [.single p]
  | r :: rest =>
    if h : p.toNat + 1 = r.lo.toNat then
      ⟨p, r.hi, UInt16.le_iff_toNat_le.2 (by
        have := UInt16.le_iff_toNat_le.1 r.lo_le_hi
        omega)⟩ :: rest
    else .single p :: r :: rest

def runs (s : PortSet) : List PortRange :=
  s.toList.foldr attach []

end PortGate.PortSet
