import CommandFront.Toml.Number

/-!
# Written TOML values

- `Toml.readKey`: reads a key, whose parts stand between points.
- `Toml.readValue`: reads a value. Values are nested to a bounded depth.
-/

namespace CommandFront

namespace Toml

/-- What follows the blanks of a line. -/
def afterSpaces (s : List Char) : List Char :=
  s.dropWhile isSpace

/-! ## Keys -/

/-- Whether a character may stand in a key without quotes. -/
def isBareKey (c : Char) : Bool :=
  c.isAlphanum || c = '_' || c = '-'

/-- Reads one part of a key. -/
def readPart (s : List Char) : Option (String × List Char) :=
  match s with
  | '"' :: rest => (readBasic rest).map fun (inside, rest) => (.ofList inside, rest)
  | '\'' :: rest => (readLiteral rest).map fun (inside, rest) => (.ofList inside, rest)
  | _ =>
    let bare := s.takeWhile isBareKey
    if bare = [] then none else some (.ofList bare, s.dropWhile isBareKey)

/-- Reads the parts of a key, at most so many. -/
def readParts : Nat → List Char → Option (List String × List Char)
  | 0, _ => none
  | parts + 1, s => do
    let (part, rest) ← readPart (afterSpaces s)
    match afterSpaces rest with
    | '.' :: after => do
      let (more, rest) ← readParts parts after
      return (part :: more, rest)
    | rest => return ([part], rest)

/-- How deep values and keys are nested at most. -/
def deepest : Nat :=
  79

/-- Reads a key and the blanks after it. -/
def readKey (s : List Char) : Option (List String × List Char) :=
  readParts deepest s

/-! ## Values -/

/-- What follows a comment. -/
def afterComment (s : List Char) : List Char :=
  s.dropWhile isPrintable

/-- What follows blanks, ends of lines and comments. A comment ends with its line. The number
bounds the steps. -/
def afterFiller : Nat → List Char → Option (List Char)
  | 0, _ => none
  | steps + 1, s =>
    match afterSpaces s with
    | '#' :: rest => do afterFiller steps (← afterLine? (afterComment rest))
    | '\n' :: rest => afterFiller steps rest
    | '\r' :: rest => do afterFiller steps (← afterLine? ('\r' :: rest))
    | rest => some rest

/-- Reads the items of an array up to its closing bracket; an item is read by `item`. A comma may
follow the last one. The number bounds the steps. -/
def readItems (item : List Char → Option (Toml × List Char)) :
    Nat → List Char → Option (List Toml × List Char)
  | 0, _ => none
  | steps + 1, s => do
    match ← afterFiller (s.length + 1) s with
    | ']' :: rest => return ([], rest)
    | rest => do
      let (value, rest) ← item rest
      match ← afterFiller (rest.length + 1) rest with
      | ',' :: rest => do
        let (more, rest) ← readItems item steps rest
        return (value :: more, rest)
      | ']' :: rest => return ([value], rest)
      | _ => none

/-- Reads a key and its value. -/
def readMember (item : List Char → Option (Toml × List Char)) (s : List Char) :
    Option ((List String × Toml) × List Char) := do
  let (key, rest) ← readKey s
  let (value, rest) ← item (afterSpaces (← readChar '=' rest))
  return ((key, value), afterSpaces rest)

/-- Reads members up to the closing brace. No comma follows the last one. The number bounds the
steps. -/
def readMembers (item : List Char → Option (Toml × List Char)) :
    Nat → List Char → Option (List (List String × Toml) × List Char)
  | 0, _ => none
  | steps + 1, s => do
    let (member, rest) ← readMember item s
    match rest with
    | ',' :: rest => do
      let (more, rest) ← readMembers item steps rest
      return (member :: more, rest)
    | '\x7d' :: rest => return ([member], rest)
    | _ => none

/-- Adds a member whose key may have points. -/
def addMember (members : Members) (member : List String × Toml) : Option Members := do
  add member.1.dropLast (← member.1.getLast?) member.2 members

/-- Reads a value that may have so many levels of arrays and tables. -/
def readValueWithin : Nat → List Char → Option (Toml × List Char)
  | depth, s =>
    match s with
    | '[' :: rest =>
      match depth with
      | 0 => none
      | depth + 1 => do
        let (items, rest) ← readItems (readValueWithin depth) (rest.length + 1) rest
        return (.array items, rest)
    | '\x7b' :: rest =>
      match depth with
      | 0 => none
      | depth + 1 =>
        match afterSpaces rest with
        | '\x7d' :: rest => some (.table .closed [], rest)
        | rest => do
          let (members, rest) ← readMembers (readValueWithin depth) (rest.length + 1) rest
          return (.table .closed (← members.foldlM addMember []), rest)
    | 't' :: 'r' :: 'u' :: 'e' :: rest => some (.bool true, rest)
    | 'f' :: 'a' :: 'l' :: 's' :: 'e' :: rest => some (.bool false, rest)
    | '"' :: _ => (readText s).map fun (inside, rest) => (.text inside, rest)
    | '\'' :: _ => (readText s).map fun (inside, rest) => (.text inside, rest)
    | _ =>
      match readMoment s with
      | some read => read.map fun rest => (.moment, rest)
      | none => readNumber s

/-- Reads a value. -/
def readValue (s : List Char) : Option (Toml × List Char) :=
  readValueWithin deepest s

end Toml

end CommandFront
