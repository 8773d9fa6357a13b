/-
# Errors in patterns

`Error.Kind` lists what can be wrong with a pattern.  `Error.report` shows the
pattern with carets under the place in question.  A pattern of several lines is
shown between two rulers with its line numbers, and a complaint about more than
one line names the lines instead.
-/

import Remedy.Pattern.Syntax

namespace Remedy
namespace Pattern

namespace Error

/-- What is wrong with a pattern. -/
inductive Kind where
  | classEscapeInvalid
  | classRangeInvalid
  | classRangeLiteral
  | classUnclosed
  | decimalInvalid
  | escapeHexEmpty
  | escapeHexInvalid
  | escapeHexInvalidDigit
  | escapeUnexpectedEnd
  | escapeUnrecognized
  | flagDanglingNegation
  | flagDuplicate
  | flagRepeatedNegation
  | flagUnexpectedEnd
  | flagUnrecognized
  | groupNameDuplicate
  | groupNameEmpty
  | groupNameInvalid
  | groupNameUnexpectedEnd
  | groupUnclosed
  | groupUnopened
  | nestLimitExceeded (limit : Nat)
  | repetitionCountInvalid
  | repetitionCountDecimalEmpty
  | repetitionCountUnclosed
  | repetitionMissing
  | wordBoundaryUnclosed
  | wordBoundaryUnrecognized
  | wordBoundaryOrRepetitionUnexpectedEnd
  | unicodeClassInvalid
  | unsupportedBackreference
  | unsupportedLookAround
  | unicodeNotAllowed
  | invalidUtf8
  | propertyNotFound
  | propertyValueNotFound
  deriving DecidableEq, Repr

/-- What is told about each. -/
def Kind.message : Kind → String
  | classEscapeInvalid => "invalid escape sequence found in character class"
  | classRangeInvalid => "invalid character class range, the start must be <= the end"
  | classRangeLiteral => "invalid range boundary, must be a literal"
  | classUnclosed => "unclosed character class"
  | decimalInvalid => "decimal literal invalid"
  | escapeHexEmpty => "hexadecimal literal empty"
  | escapeHexInvalid => "hexadecimal literal is not a Unicode scalar value"
  | escapeHexInvalidDigit => "invalid hexadecimal digit"
  | escapeUnexpectedEnd => "incomplete escape sequence, reached end of pattern prematurely"
  | escapeUnrecognized => "unrecognized escape sequence"
  | flagDanglingNegation => "dangling flag negation operator"
  | flagDuplicate => "duplicate flag"
  | flagRepeatedNegation => "flag negation operator repeated"
  | flagUnexpectedEnd => "expected flag but got end of regex"
  | flagUnrecognized => "unrecognized flag"
  | groupNameDuplicate => "duplicate capture group name"
  | groupNameEmpty => "empty capture group name"
  | groupNameInvalid => "invalid capture group character"
  | groupNameUnexpectedEnd => "unclosed capture group name"
  | groupUnclosed => "unclosed group"
  | groupUnopened => "unopened group"
  | nestLimitExceeded limit =>
    "exceed the maximum number of nested parentheses/brackets (" ++ toString limit ++ ")"
  | repetitionCountInvalid => "invalid repetition count range, the start must be <= the end"
  | repetitionCountDecimalEmpty => "repetition quantifier expects a valid decimal"
  | repetitionCountUnclosed => "unclosed counted repetition"
  | repetitionMissing => "repetition operator missing expression"
  | wordBoundaryUnclosed =>
    "special word boundary assertion is either unclosed or contains an invalid character"
  | wordBoundaryUnrecognized =>
    "unrecognized special word boundary assertion, valid choices are: start, end, start-half " ++
      "or end-half"
  | wordBoundaryOrRepetitionUnexpectedEnd =>
    "found either the beginning of a special word boundary or a bounded repetition on a \\b " ++
      "with an opening brace, but no closing brace"
  | unicodeClassInvalid => "invalid Unicode character class"
  | unsupportedBackreference => "backreferences are not supported"
  | unsupportedLookAround =>
    "look-around, including look-ahead and look-behind, is not supported"
  | unicodeNotAllowed => "Unicode not allowed here"
  | invalidUtf8 => "pattern can match invalid UTF-8"
  | propertyNotFound => "Unicode property not found"
  | propertyValueNotFound => "Unicode property value not found"

end Error

/-- What is wrong and where; `earlier` is the place that the error refers back
to, such as the first of two equal flags. -/
structure Error where
  kind : Error.Kind
  span : Span
  earlier : Option Span
  deriving DecidableEq, Repr

namespace Error

/-- The lines of a text, without their ends; what a last line end is followed by
counts only if it is not empty. -/
def linesFrom : List Char → List Char → List (List Char)
  | [], [] => []
  | line, [] => [line.reverse]
  | line, '\n' :: rest =>
    (match line with
      | '\r' :: before => before.reverse
      | _ => line.reverse) :: linesFrom [] rest
  | line, c :: rest => linesFrom (c :: line) rest

/-- The lines of a pattern. -/
def lines (pattern : List Char) : List (List Char) := linesFrom [] pattern

/-- As many blanks. -/
def blanks (n : Nat) : List Char := List.replicate n ' '

/-- Carets under spans of one line, which come in order; `column` is where the
next one goes. -/
def carets : Nat → List Span → List Char
  | _, [] => []
  | column, s :: rest =>
    let width := max 1 (s.stop.column - s.start.column)
    let start := max column s.start.column
    blanks (start - column) ++ List.replicate width '^' ++ carets (start + width) rest

/-- Whether a span begins and ends on the same line. -/
def isOneLine (s : Span) : Bool := s.start.line == s.stop.line

/-- The spans of an error in the order in which they stand in the pattern. -/
def spans (e : Error) : List Span :=
  match e.earlier with
  | none => [e.span]
  | some s => if s.start.index < e.span.start.index then [s, e.span] else [e.span, s]

/-- A line number, filled up with blanks to a width. -/
def lineNumber (width n : Nat) : List Char :=
  let digits := (toString n).toList
  blanks (width - digits.length) ++ digits

/-- The lines of a pattern from line `n` on, with the carets under them. -/
def notate (width : Nat) (ss : List Span) : Nat → List (List Char) → List Char
  | _, [] => []
  | n, line :: rest =>
    let margin := if width = 0 then blanks 4 else lineNumber width n ++ [':', ' ']
    let here := ss.filter fun s => s.start.line == n
    let notes :=
      if here.isEmpty then [] else blanks margin.length ++ carets 1 here ++ ['\n']
    margin ++ line ++ ['\n'] ++ notes ++ notate width ss (n + 1) rest

/-- The complaint about a span of several lines. -/
def reach (s : Span) : String :=
  "on line " ++ toString s.start.line ++ " (column " ++ toString s.start.column ++
    ") through line " ++ toString s.stop.line ++ " (column " ++ toString (s.stop.column - 1) ++ ")"

/-- The ruler around a pattern of several lines. -/
def ruler : List Char := List.replicate 79 '~' ++ ['\n']

/-- The pattern with what is wrong with it. -/
def report (e : Error) (pattern : String) : String :=
  let cs := pattern.toList
  let ls := lines cs
  let count := ls.length + if cs.getLast? = some '\n' then 1 else 0
  let width := if count ≤ 1 then 0 else (toString count).length
  let notated := notate width (e.spans.filter isOneLine) 1 ls
  let wide := (e.spans.filter fun s => !isOneLine s).map reach
  let body :=
    if cs.contains '\n' then
      ruler ++ notated ++ ruler
        ++ (if wide.isEmpty then [] else ("\n".intercalate wide).toList ++ ['\n'])
    else notated
  "regex parse error:\n" ++ String.ofList body ++ "error: " ++ e.kind.message

end Error
end Pattern
end Remedy
