import CommandFront.Toml.Value

/-!
# TOML documents

- `Toml.Draft`: the tables of the headers read so far, and the one that keys are being added to.
- `Toml.parse?`: the table of a document. There is none if the text breaks the grammar, a key
  comes twice, or a header names a table that is there already.
-/

namespace CommandFront

namespace Toml

/-- A document of which some lines have been read. -/
structure Draft where
  /-- The tables of the headers before the last. -/
  root : Members := []
  /-- The table of the last header. -/
  current : Members := []
  /-- The keys of the last header; none before the first header. -/
  path : List String := []
  /-- Whether the last header stands in double brackets. -/
  repeats : Bool := false

namespace Draft

/-- Puts the table of the last header into its place. -/
def finish (d : Draft) : Option Members :=
  match d.path.getLast? with
  | none => some d.current
  | some key =>
    let put (_ : Origin) (members : Members) : Option (Members × Unit) :=
      match members.get? key, d.repeats with
      | none, true => some (members.set key (.tables [d.current]), ())
      | some (.tables items), true => some (members.set key (.tables (items ++ [d.current])), ())
      | none, false => some (members.set key (.table .header d.current), ())
      | _, _ => none
    (alter false put d.path.dropLast .header d.root).map Prod.fst

/-- Starts the table of a header. A table that other headers have passed through is taken up. -/
def start (root : Members) (path : List String) : Option Draft := do
  let key ← path.getLast?
  let takeUp (_ : Origin) (members : Members) : Option (Members × Members) :=
    match members.get? key with
    | none => some (members, [])
    | some (.table .passed below) => some (members.erase key, below)
    | _ => none
  let (root, current) ← alter false takeUp path.dropLast .header root
  return { root, current, path }

/-- Starts a table in a list of tables. -/
def startElement (root : Members) (path : List String) : Option Draft := do
  let key ← path.getLast?
  let check (_ : Origin) (members : Members) : Option (Members × Unit) :=
    match members.get? key with
    | none => some (members, ())
    | some (.tables _) => some (members, ())
    | _ => none
  let (root, _) ← alter false check path.dropLast .header root
  return { root, path, repeats := true }

end Draft

/-- What follows the end of a line, after blanks and a comment; the last line needs no end. -/
def endLine (s : List Char) : Option (List Char) :=
  let rest :=
    match afterSpaces s with
    | '#' :: comment => afterComment comment
    | rest => rest
  if rest = [] then some [] else afterLine? rest

/-- Reads a header after its opening brackets. -/
def readHeader (d : Draft) (s : List Char) : Option (Draft × List Char) := do
  match s with
  | '[' :: s => do
    let (path, rest) ← readKey s
    let rest ← endLine (← readChar ']' (← readChar ']' rest))
    return (← Draft.startElement (← d.finish) path, rest)
  | s => do
    let (path, rest) ← readKey s
    let rest ← endLine (← readChar ']' rest)
    return (← Draft.start (← d.finish) path, rest)

/-- Reads a line that is not blank. -/
def readLine (d : Draft) (s : List Char) : Option (Draft × List Char) := do
  match s with
  | '[' :: rest => readHeader d rest
  | _ => do
    let (member, rest) ← readMember readValue s
    return ({ d with current := ← addMember d.current member }, ← endLine rest)

/-- Reads lines; their number bounds the steps. -/
def readLines : Nat → Draft → List Char → Option Draft
  | 0, _, _ => none
  | lines + 1, d, s =>
    match afterSpaces s with
    | [] => some d
    | rest =>
      match endLine rest with
      | some after => readLines lines d after
      | none => do
        let (next, after) ← readLine d rest
        readLines lines next after

/-- The table of a document. -/
def parse? (s : String) : Option Members := do
  let source :=
    match s.toList with
    | '\uFEFF' :: rest => rest
    | source => source
  (← readLines (source.length + 1) {} source).finish

end Toml

end CommandFront
