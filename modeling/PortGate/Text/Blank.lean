/-! The two notions of white space that a configuration line meets. Tokens are separated by
`isSeparator` characters, which are all ASCII; text is trimmed of `isBlank` characters, the
Unicode property `White_Space`. Every separator is blank, and vertical tab shows that the
converse fails. -/

namespace PortGate.Text

/-- Tab, line feed, form feed, carriage return and space. Vertical tab is not among them. -/
def isSeparatorByte (b : UInt8) : Bool :=
  b == 9 || b == 10 || b == 12 || b == 13 || b == 32

def isSeparator (c : Char) : Bool :=
  c == '\t' || c == '\n' || c == '\x0c' || c == '\r' || c == ' '

/-- The Unicode property `White_Space`. -/
def isBlank (c : Char) : Bool :=
  let n := c.toNat
  (0x9 ≤ n && n ≤ 0xD) || n == 0x20 || n == 0x85 || n == 0xA0 || n == 0x1680 ||
    (0x2000 ≤ n && n ≤ 0x200A) || n == 0x2028 || n == 0x2029 || n == 0x202F ||
    n == 0x205F || n == 0x3000

theorem isBlank_of_isSeparator {c : Char} (h : isSeparator c = true) : isBlank c = true := by
  simp only [isSeparator, Bool.or_eq_true, beq_iff_eq] at h
  rcases h with (((rfl | rfl) | rfl) | rfl) | rfl <;> decide

example : isBlank '\x0b' = true ∧ isSeparator '\x0b' = false := by decide

def trimStart (text : String) : String :=
  String.ofList (text.toList.dropWhile isBlank)

def trimEnd (text : String) : String :=
  String.ofList (text.toList.reverse.dropWhile isBlank).reverse

def trim (text : String) : String :=
  trimEnd (trimStart text)

@[simp] theorem toList_trimStart (text : String) :
    (trimStart text).toList = text.toList.dropWhile isBlank := by
  simp [trimStart]

end PortGate.Text
