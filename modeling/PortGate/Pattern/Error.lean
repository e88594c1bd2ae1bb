/-! Why a text is no pattern. Reading goes from left to right and the first defect decides; the two
limits, on nesting and on size, are looked at last. -/

namespace PortGate.Pattern

inductive Error where
  | tooMuchNesting
  | tooLarge
  -- repetitions
  | repetitionWithoutOperand
  | countWithoutOperand
  | countUnclosed
  | countWithoutDigits
  | countOverflow
  | countUnfinished
  | countUnfinishedAfterComma
  | countUnfinishedAfterBounds
  | countWithoutBrace
  | countReversed
  -- groups
  | lookAround
  | groupUnclosed
  | groupUnopened
  | groupUnclosedAfterQuestion
  | nameMissing
  | nameInvalid
  | nameUnclosed
  | nameEmpty
  | nameDuplicate
  -- inline flags
  | flagsEmpty
  | flagsUnclosed
  | flagUnknown
  | flagDuplicate
  | flagNegationRepeated
  | flagNegationDangling
  -- escapes
  | escapeUnfinished
  | escapeUnknown
  | backreference
  | unicodeClass
  | hexadecimalMissing
  | fixedHexadecimalUnfinished
  | fixedHexadecimalNoDigit
  | fixedHexadecimalInvalid
  | bracedHexadecimalUnfinished
  | bracedHexadecimalNoDigit
  | bracedHexadecimalEmpty
  | bracedHexadecimalInvalid
  | boundaryUnfinished
  | boundaryUnclosed
  | boundaryUnknown
  -- classes
  | classUnclosed
  | negatedClassUnclosed
  | classUnclosedAfterDash
  | classUnclosedAfterBracket
  | classUnclosedAfterItem
  | classNested
  | classIntersection
  | classDifference
  | classSymmetricDifference
  | classAssertion
  | classRangeOfSets
  | classRangeReversed
  deriving DecidableEq, Repr

def Error.message : Error → String
  | tooMuchNesting => "pattern has too much nesting"
  | tooLarge => "compiled regex exceeded size limit"
  | repetitionWithoutOperand =>
      "uncounted repetition operator must be applied to a sub-expression"
  | countWithoutOperand => "counted repetition operator must be applied to a sub-expression"
  | countUnclosed => "found unclosed counted repetition operator"
  | countWithoutDigits => "expected decimal number, but found no digits"
  | countOverflow => "got invalid decimal number"
  | countUnfinished => "found incomplete and unclosed counted repetition operator"
  | countUnfinishedAfterComma => "found counted repetition operator with a comma that is unclosed"
  | countUnfinishedAfterBounds => "found counted repetition with min and max that is unclosed"
  | countWithoutBrace =>
      "expected closing brace for counted repetition, but got something else"
  | countReversed => "found counted repetition with a min bigger than its max"
  | lookAround => "look-around is not supported"
  | groupUnclosed => "found open group without closing ')'"
  | groupUnopened => "found closing ')' without matching '('"
  | groupUnclosedAfterQuestion => "expected closing ')', but got end of pattern"
  | nameMissing => "expected capture group name, but got end of pattern"
  | nameInvalid => "invalid group name"
  | nameUnclosed => "expected end of capture group name, but got end of pattern"
  | nameEmpty => "empty capture group names are not allowed"
  | nameDuplicate => "duplicate capture group name"
  | flagsEmpty => "empty flag directive '(?)' is not allowed"
  | flagsUnclosed => "expected ':' or ')' to end inline flags, but got end of pattern"
  | flagUnknown => "unrecognized inline flag"
  | flagDuplicate => "duplicate inline flag is not allowed"
  | flagNegationRepeated => "inline flag negation cannot be repeated"
  | flagNegationDangling => "inline flags cannot end with negation directive"
  | escapeUnfinished =>
      "saw start of escape sequence, but saw end of pattern before it finished"
  | escapeUnknown => "unrecognized escape sequence"
  | backreference => "backreferences are not supported"
  | unicodeClass => "Unicode character classes are not supported"
  | hexadecimalMissing => "expected hexadecimal number, but saw end of pattern first"
  | fixedHexadecimalUnfinished =>
      "expected fixed length hexadecimal number, but saw end of pattern first"
  | fixedHexadecimalNoDigit =>
      "expected fixed length hexadecimal number, but got non-hex digit"
  | fixedHexadecimalInvalid => "got invalid fixed length hexadecimal number"
  | bracedHexadecimalUnfinished =>
      "expected hexadecimal number, but saw end of pattern before closing brace"
  | bracedHexadecimalNoDigit => "expected hexadecimal number in braces, but got non-hex digit"
  | bracedHexadecimalEmpty => "expected hexadecimal number in braces, but got no digits"
  | bracedHexadecimalInvalid => "got invalid hexadecimal number in braces"
  | boundaryUnfinished => "found start of special word boundary or repetition without an end"
  | boundaryUnclosed =>
      "special word boundary assertion is unclosed or has an invalid character"
  | boundaryUnknown => "special word boundary assertion is unrecognized"
  | classUnclosed => "found unclosed character class"
  | negatedClassUnclosed => "negated character class has no closing bracket"
  | classUnclosedAfterDash => "non-empty character class has no closing bracket after dash"
  | classUnclosedAfterBracket =>
      "character class begins with literal ']' but has no closing bracket"
  | classUnclosedAfterItem => "non-empty character class has no closing bracket"
  | classNested => "nested character classes are not supported"
  | classIntersection => "character class intersection is not supported"
  | classDifference => "character class difference is not supported"
  | classSymmetricDifference => "character class symmetric difference is not supported"
  | classAssertion => "invalid escape sequence in character class"
  | classRangeOfSets => "character class ranges must start and end with a single character"
  | classRangeReversed => "invalid range in character class"

end PortGate.Pattern
