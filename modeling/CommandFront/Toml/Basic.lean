import CommandFront.Numeric.Binary64

/-!
# TOML values

- `Toml`: a value. A table keeps the order of its keys and how it came to be, for that decides
  whether more may be added to it.
- `Toml.Members`: the keys of a table with their values, and `Members.get?`, `Members.set`,
  `Members.erase` on them.
- `Toml.alter`: changes the table at the end of a path of keys.
-/

namespace CommandFront

/-- How a table came to be. -/
inductive Toml.Origin where
  /-- From a header of its own. -/
  | header
  /-- From the header of a table below it. -/
  | passed
  /-- From a key with points. -/
  | dotted
  /-- Between braces; nothing can be added. -/
  | closed
deriving DecidableEq, Repr

/-- A TOML value. -/
inductive Toml where
  /-- A text. -/
  | text (s : String)
  /-- A whole number. -/
  | integer (n : Int)
  /-- A number of the format binary64. -/
  | real (x : Numeric.Binary64)
  /-- A truth value. -/
  | bool (b : Bool)
  /-- A date, a time, or both. -/
  | moment
  /-- A list of values. -/
  | array (items : List Toml)
  /-- A table. -/
  | table (origin : Toml.Origin) (members : List (String × Toml))
  /-- Tables that come from headers in double brackets. -/
  | tables (items : List (List (String × Toml)))
deriving Repr

namespace Toml

/-- The keys of a table with their values. -/
abbrev Members := List (String × Toml)

namespace Members

/-- The value of a key. -/
def get? (members : Members) (key : String) : Option Toml :=
  members.lookup key

/-- Gives a key a value: in its place, or at the end if it is new. -/
def set (members : Members) (key : String) (value : Toml) : Members :=
  if (members.get? key).isSome then
    members.map fun member => if member.1 = key then (key, value) else member
  else members ++ [(key, value)]

/-- Takes a key away. -/
def erase (members : Members) (key : String) : Members :=
  members.filter fun member => decide (member.1 ≠ key)

end Members

/-- Changes the table at the end of a path from a given table. Tables that are missing on the way
are made; keys with points go only through tables that are not from headers. -/
def alter {α : Type} (dotted : Bool) (change : Origin → Members → Option (Members × α)) :
    List String → Origin → Members → Option (Members × α)
  | [], origin, members => change origin members
  | key :: path, _, members =>
    match members.get? key with
    | none => do
      let origin := if dotted then Origin.dotted else Origin.passed
      let (below, a) ← alter dotted change path origin []
      return (members.set key (.table origin below), a)
    | some (.table origin old) =>
      if origin = .closed ∨ (dotted ∧ origin = .header) then none
      else do
        let (below, a) ← alter dotted change path origin old
        return (members.set key (.table origin below), a)
    | some (.tables items) => do
      let (below, a) ← alter dotted change path .header (← items.getLast?)
      return (members.set key (.tables (items.dropLast ++ [below])), a)
    | some _ => none

/-- Adds a key with a value to the table at the end of a path. A table from a header takes keys of
its own only, and no key comes twice. -/
def add (path : List String) (key : String) (value : Toml) (members : Members) : Option Members :=
  let put (origin : Origin) (below : Members) : Option (Members × Unit) :=
    if (path ≠ [] ∧ origin ≠ .dotted) ∨ (below.get? key).isSome then none
    else some (below.set key value, ())
  (alter true put path .header members).map Prod.fst

end Toml

end CommandFront
