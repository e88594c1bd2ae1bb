import PortGate.Main
import PortGate.PortSet.Edit
import PortGate.Proofs.Command.Agreement
import PortGate.Proofs.Config.Concatenation
import PortGate.Proofs.Config.Interleaving
import PortGate.Proofs.Net.SubnetNotation
import PortGate.Proofs.Text.BoundedNumerals
import PortGate.Proofs.Rule.RoundTrip
import PortGate.Proofs.Store.Session
import PortGate.Proofs.PortSet.LastWrite
import PortGate.Proofs.RuleList.DeadRules
import PortGate.Proofs.Command.Settings
import PortGate.Proofs.RuleList.DumpText
import PortGate.Proofs.Command.ExitCodes
import PortGate.Proofs.RuleList.Insertion
import PortGate.Proofs.RuleList.Reordering
import PortGate.Proofs.PortSet.Asking
import PortGate.Proofs.PortSet.RunScan
import PortGate.Proofs.RuleList.DecidingRule
import PortGate.Proofs.Rule.LeftmostDefect
import PortGate.Proofs.Rule.SubnetBlocks
import PortGate.Proofs.RuleList.DumpDecoding
import PortGate.Proofs.Pattern.CaseFolding
import PortGate.Proofs.Pattern.PlainText
import PortGate.Proofs.Config.LineEndings
import PortGate.Proofs.Config.LoadingLog
import PortGate.Proofs.Log.Levels
import PortGate.Proofs.Pattern.CaseChange
import PortGate.Proofs.Pattern.Turns
import PortGate.Proofs.Pattern.CaseReading
import PortGate.Proofs.RuleList.DescriptionCase
import PortGate.Proofs.Net.PortReading
import PortGate.Proofs.Net.SubnetReading
import PortGate.Proofs.Rule.CursorSteps
