import CommandFront.Text.Split

/-!
# Why a pattern is refused

- `Place`, `Span`: a place in the text of a pattern, and a part of that text.
- `PatternFault`: the causes, with their wording in `PatternFault.message`.
- `PatternError`: a fault with the parts of the pattern that it is about.
- `PatternError.report`: the error with the pattern, marked where the fault is.
-/

namespace CommandFront

/-- A place in the text of a pattern. -/
structure Place where
  /-- The number of characters before it. -/
  offset : Nat
  /-- The number of its line, from one on. -/
  line : Nat
  /-- Its column in the line, from one on. -/
  column : Nat
deriving DecidableEq, Repr

namespace Place

/-- The place where a text begins. -/
def start : Place :=
  ⟨0, 1, 1⟩

/-- The place after a character. -/
def after (p : Place) (c : Char) : Place :=
  if c = '\n' then ⟨p.offset + 1, p.line + 1, 1⟩ else ⟨p.offset + 1, p.line, p.column + 1⟩

end Place

/-- A part of the text of a pattern. -/
structure Span where
  /-- Where it begins. -/
  first : Place
  /-- The place after its last character. -/
  last : Place
deriving DecidableEq, Repr

namespace Span

/-- The empty part at a place. -/
def point (p : Place) : Span :=
  ⟨p, p⟩

/-- Whether the part lies in one line. -/
def isOneLine (s : Span) : Bool :=
  s.first.line = s.last.line

/-- How many marks the part gets: one for each character, and one if it is empty. -/
def width (s : Span) : Nat :=
  max 1 (s.last.column - s.first.column)

end Span

/-- Why a pattern is refused. -/
inductive PatternFault where
  /-- An escape sequence that cannot stand in a class. -/
  | classEscape
  /-- A range whose ends are the wrong way round. -/
  | classRange
  /-- A range with an end that is no single character. -/
  | classRangeEnd
  /-- A class without its closing bracket. -/
  | classUnclosed
  /-- A number that is too large. -/
  | number
  /-- A repetition without its number. -/
  | countMissing
  /-- A repetition whose bounds are the wrong way round. -/
  | countOrder
  /-- A counted repetition without its closing brace. -/
  | countUnclosed
  /-- A repetition of nothing. -/
  | repetitionOfNothing
  /-- An escape sequence for a code point without digits. -/
  | hexEmpty
  /-- An escape sequence for a code point that no character has. -/
  | hexNoCharacter
  /-- An escape sequence for a code point with something else than a digit. -/
  | hexDigit
  /-- An escape sequence that breaks off. -/
  | escapeEnd
  /-- An escape sequence that has no meaning. -/
  | escapeUnknown
  /-- A reference to an earlier group. -/
  | backreference
  /-- A look-around. -/
  | lookAround
  /-- A minus sign that no flag follows. -/
  | flagDangling
  /-- A flag that is given twice. -/
  | flagTwice
  /-- A second minus sign between flags. -/
  | flagNegatedTwice
  /-- Flags that break off. -/
  | flagEnd
  /-- A flag that has no meaning. -/
  | flagUnknown
  /-- A group name that is given twice. -/
  | nameTwice
  /-- An empty group name. -/
  | nameEmpty
  /-- A character that cannot stand in a group name. -/
  | nameCharacter
  /-- A group name that breaks off. -/
  | nameEnd
  /-- A group without its closing parenthesis. -/
  | groupUnclosed
  /-- A closing parenthesis without a group. -/
  | groupUnopened
  /-- A kind of word boundary that is not closed. -/
  | boundaryUnclosed
  /-- A kind of word boundary that has no meaning. -/
  | boundaryUnknown
  /-- A brace after a word boundary that breaks off. -/
  | boundaryEnd
  /-- A property class of a backslash. -/
  | propertyLetter
  /-- A property that is not known. -/
  | propertyUnknown
  /-- A value of a property that is not known. -/
  | propertyValueUnknown
  /-- A character beyond ASCII where only ASCII is wanted. -/
  | beyondAscii
  /-- A pattern that could match part of a character. -/
  | partOfCharacter
deriving DecidableEq, Repr

/-- The fault in words. -/
def PatternFault.message : PatternFault → String
  | classEscape => "invalid escape sequence found in character class"
  | classRange => "invalid character class range, the start must be <= the end"
  | classRangeEnd => "invalid range boundary, must be a literal"
  | classUnclosed => "unclosed character class"
  | number => "decimal literal invalid"
  | countMissing => "repetition quantifier expects a valid decimal"
  | countOrder => "invalid repetition count range, the start must be <= the end"
  | countUnclosed => "unclosed counted repetition"
  | repetitionOfNothing => "repetition operator missing expression"
  | hexEmpty => "hexadecimal literal empty"
  | hexNoCharacter => "hexadecimal literal is not a Unicode scalar value"
  | hexDigit => "invalid hexadecimal digit"
  | escapeEnd => "incomplete escape sequence, reached end of pattern prematurely"
  | escapeUnknown => "unrecognized escape sequence"
  | backreference => "backreferences are not supported"
  | lookAround => "look-around, including look-ahead and look-behind, is not supported"
  | flagDangling => "dangling flag negation operator"
  | flagTwice => "duplicate flag"
  | flagNegatedTwice => "flag negation operator repeated"
  | flagEnd => "expected flag but got end of regex"
  | flagUnknown => "unrecognized flag"
  | nameTwice => "duplicate capture group name"
  | nameEmpty => "empty capture group name"
  | nameCharacter => "invalid capture group character"
  | nameEnd => "unclosed capture group name"
  | groupUnclosed => "unclosed group"
  | groupUnopened => "unopened group"
  | boundaryUnclosed =>
    "special word boundary assertion is either unclosed or contains an invalid character"
  | boundaryUnknown =>
    "unrecognized special word boundary assertion, valid choices are: start, end, start-half "
      ++ "or end-half"
  | boundaryEnd =>
    "found either the beginning of a special word boundary or a bounded repetition on a \\b with "
      ++ "an opening brace, but no closing brace"
  | propertyLetter => "invalid Unicode character class"
  | propertyUnknown => "Unicode property not found"
  | propertyValueUnknown => "Unicode property value not found"
  | beyondAscii => "Unicode not allowed here"
  | partOfCharacter => "pattern can match invalid UTF-8"

/-- A fault with the parts of the pattern that it is about. -/
structure PatternError where
  /-- The fault. -/
  fault : PatternFault
  /-- Where it is. -/
  span : Span
  /-- An earlier part that it is in conflict with. -/
  earlier : Option Span := none
deriving DecidableEq, Repr

namespace PatternError

/-- The parts of the pattern, in their order. -/
def spans (e : PatternError) : List Span :=
  match e.earlier with
  | none => [e.span]
  | some s => if s.first.offset ≤ e.span.first.offset then [s, e.span] else [e.span, s]

/-- A run of the same character. -/
def run (n : Nat) (c : Char) : List Char :=
  List.replicate n c

/-- The marks under a line, from a column on. -/
def marks : Nat → List Span → List Char
  | _, [] => []
  | column, s :: rest =>
    let gap := s.first.column - column
    run gap ' ' ++ run s.width '^' ++ marks (column + gap + s.width) rest

/-- The lines of a pattern. A carriage return before a line break goes with it, and a line break at
the end begins no line. -/
def lines (pattern : List Char) : List (List Char) :=
  let parts := Text.split '\n' pattern
  let ended (line : List Char) : List Char :=
    if line.getLast? = some '\r' then line.dropLast else line
  parts.dropLast.map ended ++ parts.getLast?.toList.filter (· ≠ [])

/-- The pattern, each line with the marks under it; `gutter` makes what stands before a line. -/
def marked (e : PatternError) (pattern : List Char) (gutter : Nat → List Char) : List Char :=
  let block (numbered : List Char × Nat) : List Char :=
    let (line, index) := numbered
    let here := e.spans.filter fun s => s.isOneLine && s.first.line = index + 1
    let under :=
      if here.isEmpty then []
      else run (gutter (index + 1)).length ' ' ++ marks 1 here ++ ['\n']
    gutter (index + 1) ++ line ++ '\n' :: under
  (lines pattern).zipIdx.flatMap block

/-- A number with blanks before it. -/
def padded (width n : Nat) : List Char :=
  let digits := (toString n).toList
  run (width - digits.length) ' ' ++ digits

/-- What is said of a part of the pattern that runs over several lines. -/
def spread (s : Span) : List Char :=
  ("on line " ++ toString s.first.line ++ " (column " ++ toString s.first.column
    ++ ") through line " ++ toString s.last.line ++ " (column " ++ toString (s.last.column - 1)
    ++ ")").toList ++ ['\n']

/-- The error with the pattern, marked where the fault is. Lines are numbered if there are
several. -/
def report (e : PatternError) (pattern : String) : String :=
  let text := pattern.toList
  let body :=
    if '\n' ∈ text then
      let count := (lines text).length + if text.getLast? = some '\n' then 1 else 0
      let width := (toString count).length
      let divider := run 79 '~' ++ ['\n']
      let gutter (n : Nat) : List Char :=
        if count ≤ 1 then run 4 ' ' else padded width n ++ ": ".toList
      divider ++ e.marked text gutter ++ divider
        ++ (e.spans.filter fun s => !s.isOneLine).flatMap spread
    else e.marked text fun _ => run 4 ' '
  "regex parse error:\n" ++ .ofList body ++ "error: " ++ e.fault.message

example :
    (PatternError.mk .groupUnclosed ⟨⟨1, 1, 2⟩, ⟨2, 1, 3⟩⟩ none).report "a(b"
      = "regex parse error:\n    a(b\n     ^\nerror: unclosed group" := by decide

end PatternError

end CommandFront
