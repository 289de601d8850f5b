import CommandFront.Numeric.Binary64

/-!
# JSON values

- `Json`: a value; the members of an object keep their order.
-/

namespace CommandFront

/-- A JSON value. -/
inductive Json where
  /-- No value. -/
  | null
  /-- A truth value. -/
  | bool (b : Bool)
  /-- A whole number. -/
  | integer (n : Int)
  /-- A number of the format binary64. -/
  | real (x : Numeric.Binary64)
  /-- A text. -/
  | text (s : String)
  /-- A list of values. -/
  | array (items : List Json)
  /-- Named values in their order. -/
  | object (members : List (String × Json))
deriving Repr, Inhabited

namespace Json

/-- A text, or nothing. -/
def ofOption : Option String → Json
  | some s => .text s
  | none => .null

end Json

end CommandFront
