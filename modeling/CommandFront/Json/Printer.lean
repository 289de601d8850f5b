import CommandFront.Json.Basic
import CommandFront.Numeric.Shortest

/-!
# Written JSON

- `Json.compact`: a value on one line and without blanks.
- `Json.pretty`: a value with one item or member on a line, each level indented by two spaces.

Both share `Json.write`, which takes the layout as a parameter.
-/

namespace CommandFront

namespace Json

/-! ## Strings -/

/-- How a character is written between the quotes of a string. -/
def escape (c : Char) : List Char :=
  match c with
  | '"' => ['\\', '"']
  | '\\' => ['\\', '\\']
  | '\x08' => ['\\', 'b']
  | '\x0c' => ['\\', 'f']
  | '\n' => ['\\', 'n']
  | '\r' => ['\\', 'r']
  | '\t' => ['\\', 't']
  | c =>
    if c < ' ' then
      ['\\', 'u', '0', '0', Nat.digitChar (c.toNat / 16), Nat.digitChar (c.toNat % 16)]
    else [c]

/-- A text as a JSON string. -/
def writeText (s : String) : List Char :=
  '"' :: s.toList.flatMap escape ++ ['"']

/-! ## Numbers -/

/-- A number of the format binary64, of two equally near decimals the even one; JSON has no word
for those that are not finite. -/
def writeReal (x : Numeric.Binary64) : List Char :=
  match x with
  | .finite negative magnitude =>
    (Numeric.Binary64.sign negative
      ++ magnitude.text Numeric.halfEven Numeric.Decimal.plainOrScientific).toList
  | .infinity _ => "null".toList
  | .nan => "null".toList

/-! ## Values -/

/-- How values are laid out. -/
inductive Layout where
  /-- On one line. -/
  | compact
  /-- On many lines. -/
  | pretty
deriving DecidableEq, Repr

namespace Layout

/-- What stands before an item at a given depth. -/
def lineBreak (layout : Layout) (depth : Nat) : List Char :=
  match layout with
  | compact => []
  | pretty => '\n' :: List.replicate (2 * depth) ' '

/-- What stands between a name and its value. -/
def colon : Layout → List Char
  | compact => [':']
  | pretty => [':', ' ']

end Layout

mutual

/-- Writes a value that stands at a given depth. -/
def write (layout : Layout) (depth : Nat) : Json → List Char
  | .null => "null".toList
  | .bool true => "true".toList
  | .bool false => "false".toList
  | .integer n => (toString n).toList
  | .real x => writeReal x
  | .text s => writeText s
  | .array [] => ['[', ']']
  | .array (item :: items) =>
    '[' :: layout.lineBreak (depth + 1) ++ write layout (depth + 1) item
      ++ writeItems layout (depth + 1) items ++ layout.lineBreak depth ++ [']']
  | .object [] => ['\x7b', '\x7d']
  | .object ((name, value) :: members) =>
    '\x7b' :: layout.lineBreak (depth + 1) ++ writeText name ++ layout.colon
      ++ write layout (depth + 1) value ++ writeMembers layout (depth + 1) members
      ++ layout.lineBreak depth ++ ['\x7d']

/-- Writes the items after the first. -/
def writeItems (layout : Layout) (depth : Nat) : List Json → List Char
  | [] => []
  | item :: items =>
    ',' :: layout.lineBreak depth ++ write layout depth item ++ writeItems layout depth items

/-- Writes the members after the first. -/
def writeMembers (layout : Layout) (depth : Nat) : List (String × Json) → List Char
  | [] => []
  | (name, value) :: members =>
    ',' :: layout.lineBreak depth ++ writeText name ++ layout.colon ++ write layout depth value
      ++ writeMembers layout depth members

end

/-- The value on one line. -/
def compact (j : Json) : String :=
  .ofList (write .compact 0 j)

/-- The value on many lines. -/
def pretty (j : Json) : String :=
  .ofList (write .pretty 0 j)

end Json

end CommandFront
