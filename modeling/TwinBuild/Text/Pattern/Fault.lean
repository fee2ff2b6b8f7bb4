import TwinBuild.Text.Lines

/-!
# Faults of written patterns

What can be wrong with a written pattern, and how a message shows it: the pattern with carets under
the places concerned, and what is wrong there. The lines of a pattern of several lines are numbered.
-/

namespace TwinBuild.Text.Pattern

/-- A position in a written pattern. -/
structure Position where
  /-- How many characters come before it. -/
  offset : Nat := 0
  line : Nat := 1
  column : Nat := 1
deriving DecidableEq, Repr

/-- The position after one more character. -/
def Position.after (p : Position) (c : Char) : Position :=
  if c = '\n' then { offset := p.offset + 1, line := p.line + 1, column := 1 }
  else { offset := p.offset + 1, line := p.line, column := p.column + 1 }

/-- A stretch of a written pattern. -/
structure Span where
  start : Position
  stop : Position
deriving DecidableEq, Repr

/-- What is wrong with a written pattern. -/
inductive FaultKind where
  | classEscape
  | classRange
  | classRangeBound
  | classUnclosed
  | countEmpty
  | countTooLarge
  | countRange
  | countUnclosed
  | hexEmpty
  | hexTooLarge
  | hexDigit
  | escapeUnfinished
  | escapeUnknown
  | flagDangling
  | flagTwice (first : Span)
  | flagNegatedTwice (first : Span)
  | flagUnfinished
  | flagUnknown
  | nameTwice (first : Span)
  | nameEmpty
  | nameCharacter
  | nameUnclosed
  | groupUnclosed
  | groupUnopened
  | nestedTooDeep
  | nothingRepeated
  | wordEdgeUnclosed
  | wordEdgeUnknown
  | wordEdgeUnfinished
  | property
  | backReference
  | lookAround
  | notInOctets
  | brokenText
  | propertyUnknown
  | propertyValueUnknown
  | wordClass
  | caseFolding
deriving DecidableEq, Repr

/-- How deep brackets and parentheses may be nested. -/
def maxDepth : Nat := 250

namespace FaultKind

/-- What a message says of a fault. -/
def text : FaultKind → String
  | classEscape => "invalid escape sequence found in character class"
  | classRange => "invalid character class range, the start must be <= the end"
  | classRangeBound => "invalid range boundary, must be a literal"
  | classUnclosed => "unclosed character class"
  | countEmpty => "repetition quantifier expects a valid decimal"
  | countTooLarge => "decimal literal invalid"
  | countRange => "invalid repetition count range, the start must be <= the end"
  | countUnclosed => "unclosed counted repetition"
  | hexEmpty => "hexadecimal literal empty"
  | hexTooLarge => "hexadecimal literal is not a Unicode scalar value"
  | hexDigit => "invalid hexadecimal digit"
  | escapeUnfinished => "incomplete escape sequence, reached end of pattern prematurely"
  | escapeUnknown => "unrecognized escape sequence"
  | flagDangling => "dangling flag negation operator"
  | flagTwice _ => "duplicate flag"
  | flagNegatedTwice _ => "flag negation operator repeated"
  | flagUnfinished => "expected flag but got end of regex"
  | flagUnknown => "unrecognized flag"
  | nameTwice _ => "duplicate capture group name"
  | nameEmpty => "empty capture group name"
  | nameCharacter => "invalid capture group character"
  | nameUnclosed => "unclosed capture group name"
  | groupUnclosed => "unclosed group"
  | groupUnopened => "unopened group"
  | nestedTooDeep =>
    "exceed the maximum number of nested parentheses/brackets (" ++ toString maxDepth ++ ")"
  | nothingRepeated => "repetition operator missing expression"
  | wordEdgeUnclosed =>
    "special word boundary assertion is either unclosed or contains an invalid character"
  | wordEdgeUnknown =>
    "unrecognized special word boundary assertion, valid choices are: start, end, start-half or "
      ++ "end-half"
  | wordEdgeUnfinished =>
    "found either the beginning of a special word boundary or a bounded repetition on a \\b with "
      ++ "an opening brace, but no closing brace"
  | property => "invalid Unicode character class"
  | backReference => "backreferences are not supported"
  | lookAround => "look-around, including look-ahead and look-behind, is not supported"
  | notInOctets => "Unicode not allowed here"
  | brokenText => "pattern can match invalid UTF-8"
  | propertyUnknown => "Unicode property not found"
  | propertyValueUnknown => "Unicode property value not found"
  | wordClass =>
    "Unicode-aware Perl class not found (make sure the unicode-perl feature is enabled)"
  | caseFolding =>
    "Unicode-aware case insensitivity matching is not available (make sure the unicode-case "
      ++ "feature is enabled)"

/-- A second place that a message points at. -/
def other? : FaultKind → Option Span
  | flagTwice first => some first
  | flagNegatedTwice first => some first
  | nameTwice first => some first
  | _ => none

end FaultKind

/-- A fault of a written pattern and where it is. -/
structure PatternFault where
  kind : FaultKind
  span : Span
deriving DecidableEq, Repr

namespace PatternFault

/-- The stretches that a message points at, in order. -/
def spans (f : PatternFault) : List Span :=
  match f.kind.other? with
  | none => [f.span]
  | some other => if other.start.offset ≤ f.span.start.offset then [other, f.span] else [f.span, other]

/-- A stretch that stays in one line. -/
def isInLine (s : Span) : Bool := s.start.line = s.stop.line

/-- Carets under stretches of a line, of which the first `column` columns are written. -/
def carets (column : Nat) : List Span → List Char
  | [] => []
  | s :: rest =>
    let gap := s.start.column - 1 - column
    let wide := max 1 (s.stop.column - s.start.column)
    List.replicate gap ' ' ++ List.replicate wide '^' ++ carets (column + gap + wide) rest

/-- A line of the pattern, with its head and, if stretches in it are meant, a line of carets. -/
def shownLine (head : List Char) (spans : List Span) (line : List Char) : List (List Char) :=
  (head ++ line) ::
    (if spans.isEmpty then [] else [List.replicate head.length ' ' ++ carets 0 spans])

/-- The head of a numbered line. -/
def lineHead (columns number : Nat) : List Char :=
  let digits := (toString number).toList
  List.replicate (columns - digits.length) ' ' ++ digits ++ [':', ' ']

/-- Where a stretch of several lines is. -/
def placeText (s : Span) : String :=
  "on line " ++ toString s.start.line ++ " (column " ++ toString s.start.column ++ ") through line "
    ++ toString s.stop.line ++ " (column " ++ toString (s.stop.column - 1) ++ ")"

/-- The line drawn above and below a pattern of several lines. -/
def divider : String := String.ofList (List.replicate 79 '~')

/-- What a message says of a fault in a pattern. -/
def text (f : PatternFault) (pattern : List Char) : String :=
  let lines := Text.lines pattern
  let count := if pattern.getLast? = some '\n' then lines.length + 1 else lines.length
  let columns := (toString count).length
  let spansIn (number : Nat) := f.spans.filter fun s => isInLine s && s.start.line == number
  let shown := (lines.zipIdx 1).flatMap fun (line, number) =>
    shownLine (if count ≤ 1 then "    ".toList else lineHead columns number) (spansIn number) line
  let notes := (f.spans.filter fun s => !isInLine s).map placeText
  let body := shown.map String.ofList
  let framed := if pattern.contains '\n' then [divider] ++ body ++ [divider] ++ notes else body
  String.join ((["regex parse error:"] ++ framed).map (· ++ "\n")) ++ "error: " ++ f.kind.text

end PatternFault

end TwinBuild.Text.Pattern
