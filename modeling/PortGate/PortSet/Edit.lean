import PortGate.PortSet.Fill

/-! Changes to a set of ports as data. -/

namespace PortGate.PortSet

inductive Edit where
  | allowAll
  | denyAll
  | allow (p : Port)
  | deny (p : Port)
  | allowBlock (base : Port)
  | denyBlock (base : Port)
  | fill (lo hi : Port) (allowed : Bool)
  deriving DecidableEq, Repr

def Edit.apply (s : PortSet) : Edit → PortSet
  | allowAll => all
  | denyAll => empty
  | allow p => s.allow p
  | deny p => s.deny p
  | allowBlock base => s.allowBlock base
  | denyBlock base => s.denyBlock base
  | fill lo hi allowed => s.fill lo hi allowed

def applyAll (s : PortSet) (edits : List Edit) : PortSet :=
  edits.foldl Edit.apply s

end PortGate.PortSet
