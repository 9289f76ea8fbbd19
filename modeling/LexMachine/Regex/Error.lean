/-!
# What can be wrong with a regular expression
-/

namespace LexMachine.Regex

/-- Why a pattern is no regular expression. -/
inductive PatternError where
  | repetitionMissing
  | repetitionUnclosed
  | repetitionCountEmpty
  | repetitionCountReversed
  | numberTooLarge
  | escapeUnfinished
  | escapeUnknown
  | hexEmpty
  | hexDigitInvalid
  | hexInvalid
  | backreference
  | lookAround
  | groupUnclosed
  | groupUnopened
  | groupNameEmpty
  | groupNameInvalid
  | groupNameUnfinished
  | groupNameDuplicate
  | flagUnknown
  | flagDuplicate
  | flagNegatedTwice
  | flagNegationDangling
  | flagUnfinished
  | classUnclosed
  | classRangeReversed
  | classRangeLiteral
  | classEscapeInvalid
  | wordBoundaryUnfinished
  | wordBoundaryUnclosed
  | wordBoundaryUnknown
  | propertyInvalid
  | propertyUnknown
  | propertyValueUnknown
  | unicodeNotAllowed
  | invalidUtf8
  | nestedTooDeep
  | tooLarge
deriving Repr, DecidableEq

/-- The text of an error. -/
def PatternError.message : PatternError → String
  | repetitionMissing => "repetition operator missing expression"
  | repetitionUnclosed => "unclosed counted repetition"
  | repetitionCountEmpty => "repetition quantifier expects a valid decimal"
  | repetitionCountReversed => "invalid repetition count range, the start must be <= the end"
  | numberTooLarge => "decimal literal invalid"
  | escapeUnfinished => "incomplete escape sequence, reached end of pattern prematurely"
  | escapeUnknown => "unrecognized escape sequence"
  | hexEmpty => "hexadecimal literal empty"
  | hexDigitInvalid => "invalid hexadecimal digit"
  | hexInvalid => "hexadecimal literal is not a Unicode scalar value"
  | backreference => "backreferences are not supported"
  | lookAround => "look-around, including look-ahead and look-behind, is not supported"
  | groupUnclosed => "unclosed group"
  | groupUnopened => "unopened group"
  | groupNameEmpty => "empty capture group name"
  | groupNameInvalid => "invalid capture group character"
  | groupNameUnfinished => "unclosed capture group name"
  | groupNameDuplicate => "duplicate capture group name"
  | flagUnknown => "unrecognized flag"
  | flagDuplicate => "duplicate flag"
  | flagNegatedTwice => "flag negation operator repeated"
  | flagNegationDangling => "dangling flag negation operator"
  | flagUnfinished => "expected flag but got end of regex"
  | classUnclosed => "unclosed character class"
  | classRangeReversed => "invalid character class range, the start must be <= the end"
  | classRangeLiteral => "invalid range boundary, must be a literal"
  | classEscapeInvalid => "invalid escape sequence found in character class"
  | wordBoundaryUnfinished =>
    "found either the beginning of a special word boundary or a bounded repetition on a \\b " ++
    "with an opening brace, but no closing brace"
  | wordBoundaryUnclosed =>
    "special word boundary assertion is either unclosed or contains an invalid character"
  | wordBoundaryUnknown =>
    "unrecognized special word boundary assertion, valid choices are: start, end, start-half " ++
    "or end-half"
  | propertyInvalid => "invalid Unicode character class"
  | propertyUnknown => "Unicode property not found"
  | propertyValueUnknown => "Unicode property value not found"
  | unicodeNotAllowed => "Unicode not allowed here"
  | invalidUtf8 => "pattern can match invalid UTF-8"
  | nestedTooDeep => "exceed the maximum number of nested parentheses/brackets (250)"
  | tooLarge => "Compiled regex exceeds size limit of 10485760 bytes."

end LexMachine.Regex
