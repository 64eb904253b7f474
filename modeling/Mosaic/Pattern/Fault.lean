import Mosaic.Text.Blank

/-!
# Faults of written patterns

A fault names what is wrong with a written pattern and the stretch of it that is
wrong; some faults also point at an earlier stretch with which the later one
collides. A report shows the pattern with its faulty stretches underlined. A
pattern of several lines is shown with line numbers between two rules.

## Main definitions

* `Pattern.Place`, `Pattern.Span` — where something stands in a written pattern
* `Pattern.Trouble` — what can be wrong
* `Pattern.Fault` — what is wrong, and where
* `Pattern.Fault.report` — how it is shown
-/

set_option autoImplicit false

namespace Mosaic.Pattern

/-- A line and a column of a written pattern, both counted from one. -/
structure Place where
  line : Nat
  column : Nat
deriving DecidableEq, Repr

namespace Place

/-- The place after a character. -/
def after (p : Place) (c : Char) : Place :=
  if c = '\n' then ⟨p.line + 1, 1⟩ else ⟨p.line, p.column + 1⟩

/-- Whether a place comes before another. -/
def before (p q : Place) : Bool := p.line < q.line || (p.line == q.line && p.column < q.column)

end Place

/-- A stretch of a written pattern. -/
structure Span where
  start : Place
  stop : Place
deriving DecidableEq, Repr

namespace Span

/-- The stretch without a character at a place. -/
def point (p : Place) : Span := ⟨p, p⟩

/-- Whether a stretch stands on one line. -/
def isSingle (s : Span) : Bool := s.start.line == s.stop.line

/-- Whether a stretch comes before another. -/
def before (s t : Span) : Bool :=
  s.start.before t.start || (s.start == t.start && s.stop.before t.stop)

end Span

/-- What can be wrong with a written pattern. -/
inductive Trouble where
  | classEscape
  | classRangeOrder
  | classRangeEnd
  | classOpen
  | numberEmpty
  | numberTooBig
  | hexEmpty
  | hexNoCharacter
  | hexDigit
  | escapeEnd
  | escapeUnknown
  | flagAfterMinus
  | flagTwice
  | flagMinusTwice
  | flagEnd
  | flagUnknown
  | nameTwice
  | nameEmpty
  | nameCharacter
  | nameEnd
  | groupOpen
  | groupUnopened
  | tooDeep (limit : Nat)
  | countOrder
  | countEmpty
  | countOpen
  | nothingToRepeat
  | edgeOpen
  | edgeUnknown
  | edgeEnd
  | propertyName
  | backReference
  | lookAround
  | notUnicode
  | invalidText
  | propertyUnknown
  | propertyValueUnknown
  | shorthandUnknown
  | casesUnknown
deriving DecidableEq, Repr

/-- What a trouble is called. -/
def Trouble.message : Trouble → String
  | classEscape => "invalid escape sequence found in character class"
  | classRangeOrder => "invalid character class range, the start must be <= the end"
  | classRangeEnd => "invalid range boundary, must be a literal"
  | classOpen => "unclosed character class"
  | numberEmpty => "decimal literal empty"
  | numberTooBig => "decimal literal invalid"
  | hexEmpty => "hexadecimal literal empty"
  | hexNoCharacter => "hexadecimal literal is not a Unicode scalar value"
  | hexDigit => "invalid hexadecimal digit"
  | escapeEnd => "incomplete escape sequence, reached end of pattern prematurely"
  | escapeUnknown => "unrecognized escape sequence"
  | flagAfterMinus => "dangling flag negation operator"
  | flagTwice => "duplicate flag"
  | flagMinusTwice => "flag negation operator repeated"
  | flagEnd => "expected flag but got end of regex"
  | flagUnknown => "unrecognized flag"
  | nameTwice => "duplicate capture group name"
  | nameEmpty => "empty capture group name"
  | nameCharacter => "invalid capture group character"
  | nameEnd => "unclosed capture group name"
  | groupOpen => "unclosed group"
  | groupUnopened => "unopened group"
  | tooDeep limit =>
    s!"exceeded the maximum number of nested parentheses/brackets ({limit})"
  | countOrder => "invalid repetition count range, the start must be <= the end"
  | countEmpty => "repetition quantifier expects a valid decimal"
  | countOpen => "unclosed counted repetition"
  | nothingToRepeat => "repetition operator missing expression"
  | edgeOpen =>
    "special word boundary assertion is either unclosed or contains an invalid character"
  | edgeUnknown =>
    "unrecognized special word boundary assertion, valid choices are: " ++
      "start, end, start-half or end-half"
  | edgeEnd =>
    "found either the beginning of a special word boundary or a bounded repetition on a \\b " ++
      "with an opening brace, but no closing brace"
  | propertyName => "invalid Unicode character class"
  | backReference => "backreferences are not supported"
  | lookAround => "look-around, including look-ahead and look-behind, is not supported"
  | notUnicode => "Unicode not allowed here"
  | invalidText => "pattern can match invalid UTF-8"
  | propertyUnknown => "Unicode property not found"
  | propertyValueUnknown => "Unicode property value not found"
  | shorthandUnknown =>
    "Unicode-aware Perl class not found (make sure the unicode-perl feature is enabled)"
  | casesUnknown =>
    "Unicode-aware case insensitivity matching is not available " ++
      "(make sure the unicode-case feature is enabled)"

/-- What is wrong with a written pattern, and where. -/
structure Fault where
  trouble : Trouble
  span : Span
  /-- What the faulty stretch collides with. -/
  rival : Option Span := none
deriving DecidableEq, Repr

namespace Fault

/-- The lines of a text. A line break ends a line, with or without a carriage return before it. -/
def rows (cs : List Char) : List (List Char) :=
  let pieces := Text.cutAt '\n' cs
  let ended := pieces.dropLast.map fun row =>
    if row.getLast? = some '\r' then row.dropLast else row
  ended ++ (pieces.getLast?.toList.filter fun row => !row.isEmpty)

/-- The stretches that a fault shows, in order. -/
def spans (f : Fault) : List Span :=
  match f.rival with
  | none => [f.span]
  | some rival => if rival.before f.span then [rival, f.span] else [f.span, rival]

/-- Carets under stretches of one line, behind a margin. -/
def underline (margin : Nat) (spans : List Span) : List Char :=
  spans.foldl
    (fun drawn span =>
      drawn ++ List.replicate (margin + (span.start.column - 1) - drawn.length) ' ' ++
        List.replicate (Nat.max 1 (span.stop.column - span.start.column)) '^')
    (List.replicate margin ' ')

/-- A number, with blanks before it up to a width. -/
def padded (width n : Nat) : List Char :=
  let digits := (toString n).toList
  List.replicate (width - digits.length) ' ' ++ digits

/-- The lines of a pattern, each with its carets below it. -/
def picture (cs : List Char) (width : Nat) (spans : List Span) : List String :=
  ((rows cs).zipIdx 1).flatMap fun (row, n) =>
    let head := if width = 0 then List.replicate 4 ' ' else padded width n ++ [':', ' ']
    let here := spans.filter fun span => span.isSingle && span.start.line == n
    String.ofList (head ++ row) ::
      if here.isEmpty then [] else [String.ofList (underline head.length here)]

/-- Where a stretch of several lines begins and ends. -/
def stretch (s : Span) : String :=
  s!"on line {s.start.line} (column {s.start.column}) through line {s.stop.line} " ++
    s!"(column {s.stop.column - 1})"

/-- How a fault is shown, line by line. -/
def reportLines (f : Fault) (pattern : String) : List String :=
  let cs := pattern.toList
  let last := "error: " ++ f.trouble.message
  if cs.contains '\n' then
    let count := (rows cs).length + (if cs.getLast? = some '\n' then 1 else 0)
    let width := if count ≤ 1 then 0 else (toString count).length
    let rule := String.ofList (List.replicate 79 '~')
    let wide := f.spans.filter fun span => !span.isSingle
    "regex parse error:" :: rule :: picture cs width f.spans ++ [rule] ++ wide.map stretch ++
      [last]
  else "regex parse error:" :: picture cs 0 f.spans ++ [last]

/-- How a fault is shown. -/
def report (f : Fault) (pattern : String) : String :=
  "\n".intercalate (f.reportLines pattern)

end Fault

end Mosaic.Pattern
