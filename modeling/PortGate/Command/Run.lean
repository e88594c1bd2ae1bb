import PortGate.Command.Options
import PortGate.Command.Words
import PortGate.PortSet.Candidates
import PortGate.PortSet.Runs
import PortGate.RuleList.Decision
import PortGate.RuleList.Dump
import PortGate.RuleList.PermittedPorts

/-! A whole run of the command line: options, the rules in effect, and one command on them. The exit
code is 0 for an answer, 1 for a refusal and 2 when there is nothing to answer. -/

namespace PortGate.Command
open Text

def programName : String := "upnpperm"

def version : String := "2.3.7"

def defaultConfigFile : String := "/etc/miniupnpd/miniupnpd.conf"

def usage : String :=
  "Usage:\n" ++
  "    \tupnpperm [-f config_file] [-A \"permission rule\"]... [-S] [-d] [-v] COMMAND\n" ++
  "    \n" ++
  "Commands:\n" ++
  "    \tlist                          dump the permission rules\n" ++
  "    \tcheck EPORT ADDR IPORT [DESC] check one port mapping request\n" ++
  "    \tports ADDR IPORT              external ports ADDR:IPORT may map\n" ++
  "    \tfree EPORT ADDR IPORT         nearest permitted external port to EPORT\n" ++
  "    \n" ++
  "Notes:\n" ++
  "    \tDefault config file is '" ++ defaultConfigFile ++ "', it is only read with -f.\n" ++
  "    \t-A use following syntax for permission rules :\n" ++
  "    \t  (allow|deny) (external port range) ip/mask (internal port range) [regex]\n" ++
  "    \texamples :\n" ++
  "    \t  \"allow 1024-65535 192.168.1.0/24 1024-65535\"\n" ++
  "    \t  \"deny 0-65535 0.0.0.0/0 0-65535\"\n" ++
  "    \t-S refuse the whole configuration file on the first invalid rule.\n" ++
  "    \t-d also print log messages on stderr.\n" ++
  "    \t-v enables LOG_INFO messages, -vv LOG_DEBUG as well.\n" ++
  "    \t-h / --help prints this help and quits.\n" ++
  "    "

structure Outcome where
  exit : UInt8
  output : String
  deriving DecidableEq, Repr

namespace Outcome

def answer (output : String) : Outcome := ⟨0, output⟩

def refusal (output : String) : Outcome := ⟨1, output⟩

def failure : Outcome := ⟨2, ""⟩

end Outcome

def answerList (rules : List Rule) : Logged Outcome := do
  match dumpTo none rules with
  | (.ok _, bytes) => return .answer ((decode? bytes).getD "")
  | (.error e, bytes) =>
    Logged.line ("cannot write permissions: " ++ e.message)
    return .refusal ((decode? bytes).getD "")

def describeVerdict (rules : List Rule) (v : Verdict) : String :=
  (if v.isAllowed then "accepted" else "rejected") ++
    match v.index? with
    | none => " by default\n"
    | some index =>
      " by rule " ++ Decimal.renderTwo index ++ " (" ++ (rules[index]?.elim "" Rule.render) ++ ")\n"

def answerCheck (rules : List Rule) (q : Request) : Logged Outcome := do
  let v ← evaluate rules q
  let text := describeVerdict rules v
  return if v.isAllowed then .answer text else .refusal text

def answerPorts (rules : List Rule) (endpoint : Endpoint) : Outcome :=
  let allowed := permittedPorts rules endpoint
  .answer (String.join (allowed.runs.map fun r => r.render ++ "\n") ++
    Decimal.render allowed.size ++ " ports permitted\n")

def answerFree (rules : List Rule) (wanted : Port) (endpoint : Endpoint) : Outcome :=
  match ((permittedPorts rules endpoint).pick wanted fun _ _ => true).port with
  | some p => .answer (Decimal.render p.toNat ++ "\n")
  | none => .refusal "NoPortMapsAvailable\n"

def answer (rules : List Rule) : Command → Logged Outcome
  | list => answerList rules
  | check q => answerCheck rules q
  | ports endpoint => return answerPorts rules endpoint
  | free wanted endpoint => return answerFree rules wanted endpoint

def failWithUsage : Logged Outcome := do
  Logged.line usage
  return .failure

def runWords (rules : List Rule) (words : List String) : Logged Outcome := do
  match read words with
  | .ok command => command.answer rules
  | .error .unknown => failWithUsage
  | .error (.invalidArgument what text) =>
    Logged.line ("invalid " ++ what ++ " \"" ++ text ++ "\"")
    failWithUsage

def fileRules (files : String → FileContent) (o : Options) : Logged (Option (List Rule)) := do
  match o.file with
  | none => return some []
  | some name =>
    match ← loadFile o.policy name (files name) with
    | .ok loaded => return some loaded.rules
    | .error e =>
      let text := "Error reading configuration file " ++ name ++ ": " ++ e.message
      Logged.line text
      Logged.message .error text
      return none

def lineRules : List String → Logged (Option (List Rule))
  | [] => return some []
  | line :: lines => do
    match ← Rule.readLogged line with
    | .ok rule => (·.map (rule :: ·)) <$> lineRules lines
    | .error e =>
      Logged.line ("invalid permission rule \"" ++ line ++ "\": " ++ e.message)
      return none

/-- The rules in effect: those of the configuration, then those of the arguments. -/
def rulesInEffect (files : String → FileContent) (o : Options) : Logged (Option (List Rule)) := do
  let some fromFile ← fileRules files o | return none
  let some fromLines ← lineRules o.lines | return none
  return some (fromFile ++ fromLines)

def Invocation.perform (files : String → FileContent) : Invocation → Logged Outcome
  | help => do
    Logged.line usage
    return .answer ""
  | version => return .answer (programName ++ " version " ++ Command.version ++ "\n")
  | valueMissing => failWithUsage
  | unknownOption text => do
    Logged.line ("unknown option " ++ text)
    failWithUsage
  | run o => do
    match ← rulesInEffect files o with
    | none => return .failure
    | some rules => runWords rules o.words

structure Transcript where
  outcome : Outcome
  errors : String
  deriving DecidableEq, Repr

/-- Runs the program on arguments; `ident` stands before each message that is shown. -/
def execute (ident : String) (files : String → FileContent) (args : List String) : Transcript :=
  let invocation := Invocation.ofArguments args
  let trail := (invocation.perform files).run invocation.mask
  ⟨trail.value, String.join ((trail.events.filter invocation.shows).map (Event.render ident))⟩

end PortGate.Command
