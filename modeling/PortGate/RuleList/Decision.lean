import PortGate.Log.Logged
import PortGate.Rule.Basic

/-! Which rule of a list decides a request: the first that matches. When none does the request is
accepted. -/

namespace PortGate

inductive Verdict where
  /-- The rule at `index` was the first to match. -/
  | matched (index : Nat) (action : Action)
  | byDefault
  deriving DecidableEq, Repr

namespace Verdict

def action : Verdict → Action
  | matched _ action => action
  | byDefault => .allow

def isAllowed (v : Verdict) : Bool := v.action == .allow

def index? : Verdict → Option Nat
  | matched index _ => some index
  | byDefault => none

/-- The verdict of a list that stands behind `n` other rules. -/
def shift (n : Nat) : Verdict → Verdict
  | matched index action => matched (n + index) action
  | byDefault => byDefault

/-- What is logged about a verdict on a list of `n` rules. -/
def explain (n : Nat) : Verdict → String
  | matched index action =>
    "UPnP permission rule " ++ Text.Decimal.render index ++ " matched : port mapping " ++
      if action = .allow then "accepted" else "rejected"
  | byDefault =>
    "no permission rule matched : accept by default (n_perms=" ++ Text.Decimal.render n ++ ")"

end Verdict

/-- The verdict on a request, the first rule counted as `start`. -/
def decideFrom (start : Nat) : List Rule → Request → Verdict
  | [], _ => .byDefault
  | r :: rules, q =>
    if r.matchesRequest q then .matched start r.action else decideFrom (start + 1) rules q

def decideRequest (rules : List Rule) (q : Request) : Verdict :=
  decideFrom 0 rules q

def evaluate (rules : List Rule) (q : Request) : Logged Verdict := do
  let verdict := decideRequest rules q
  Logged.message .debug (verdict.explain rules.length)
  return verdict

end PortGate
