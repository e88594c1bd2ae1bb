import PortGate.Text.Blank
import PortGate.Text.Bytes
import PortGate.Text.Split

/-! What a line of a configuration file is for. A line that begins like a rule is a rule, even if it
holds an equals sign; other lines with one belong to other programs. -/

namespace PortGate
open Text

inductive ConfigLine where
  /-- An empty line or a comment. -/
  | ignored
  | rule (text : String)
  /-- An option that is not for this program. -/
  | option (key : String)
  | unknown (text : String)
  deriving DecidableEq, Repr

namespace ConfigLine

/-- One carriage return at the end and all blanks at the start do not count. -/
def prepare (line : String) : String :=
  let chars := line.toList
  trimStart (String.ofList (if chars.getLast? = some '\r' then chars.dropLast else chars))

def beginsLikeRule (chars : List Char) : Bool :=
  "allow".toList.isPrefixOf chars || "deny".toList.isPrefixOf chars

def classify (text : String) : ConfigLine :=
  let chars := text.toList
  if chars.isEmpty || chars.head? = some '#' then ignored
  else if beginsLikeRule chars then rule text
  else
    match splitOnce '=' chars with
    | some (key, _) => option (trim (String.ofList key))
    | none => unknown text

def ofBytes? (bytes : List UInt8) : Option ConfigLine :=
  (decode? bytes).map fun line => classify (prepare line)

end ConfigLine

end PortGate
