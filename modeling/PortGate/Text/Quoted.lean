import PortGate.Text.Decimal
import PortGate.Text.Printable

/-! Text between double quotes, with the escapes that keep it on one line and free of characters
that have no shape of their own. -/

namespace PortGate.Text.Quoted

def escape (c : Char) : String :=
  if c = '\x00' then "\\0"
  else if c = '\t' then "\\t"
  else if c = '\r' then "\\r"
  else if c = '\n' then "\\n"
  else if c = '\x22' ∨ c = '\x5c' then "\\" ++ String.singleton c
  else if isPrintable c then String.singleton c
  else "\\u\x7b" ++ Hexadecimal.render c.toNat ++ "\x7d"

def render (s : String) : String :=
  "\"" ++ String.join (s.toList.map escape) ++ "\""

end PortGate.Text.Quoted
