import CommandFront.Flag.Basic

/-!
# What flags hold

A default is an entry like any other, but for the mark that it was not given. The mark is what lets
a value on one level win against the default of the same flag on another, and it is what tells apart
the two ways in which a text is asked for.

- `Entry`: what a flag holds, and whether it was given or holds its default.
- `Matches`: the entries of a level by the names of its flags.
- `Matches.ofOperands`: the entries of a sub-command without flags.
- `Matches.merge`: the entries that two levels share. What was given beats a default, and the
  inner level beats the outer one.
-/

namespace CommandFront

/-- What a flag holds. -/
inductive FlagContent where
  /-- A switch is on or off. -/
  | toggle (on : Bool)
  /-- A flag with a value holds a text. -/
  | text (value : String)
deriving DecidableEq, Repr

/-- What a flag holds on a level, and whether it was given there. -/
structure Entry where
  /-- What it holds. -/
  content : FlagContent
  /-- Whether it was given; otherwise it holds its default. -/
  given : Bool
deriving DecidableEq, Repr

namespace Entry

/-- The text of an entry that holds one. -/
def text? (e : Entry) : Option String :=
  match e.content with
  | .text value => some value
  | .toggle _ => none

/-- Whether the entry is a switch that is on. -/
def isOn (e : Entry) : Bool :=
  match e.content with
  | .toggle on => on
  | .text _ => false

/-- The entry that holds on two levels: the inner one, unless only the outer one was given. -/
def merge (outer inner : Entry) : Entry :=
  if outer.given && !inner.given then outer else inner

end Entry

/-- What a flag holds when it is not given. -/
def Flag.defaultEntry (f : Flag) : Option Entry :=
  match f.kind with
  | .switch => some ⟨.toggle false, false⟩
  | .value => f.default.map fun text => ⟨.text text, false⟩

/-- The entries of a level by the names of its flags. -/
abbrev Matches := String → Option Entry

namespace Matches

/-- The level without entries. -/
def empty : Matches := fun _ => none

/-- The level of a foreign sub-command. It has no flags; the first of its operands is held under the
empty name, which no flag bears. -/
def ofOperands (operands : List String) : Matches := fun name =>
  if name = "" then operands.head?.map fun operand => ⟨.text operand, true⟩ else none

theorem ofOperands_of_ne {operands : List String} {name : String} (h : name ≠ "") :
    ofOperands operands name = none := by
  simp [ofOperands, h]

/-- The entries of two levels as one. -/
def merge (outer inner : Matches) : Matches := fun name =>
  match outer name, inner name with
  | some o, some i => some (o.merge i)
  | some o, none => some o
  | none, i => i

/-- The entries of a level, those of some names taken from elsewhere. -/
def share (m : Matches) (names : List String) (shared : Matches) : Matches := fun name =>
  if name ∈ names then shared name else m name

theorem share_of_mem {m shared : Matches} {names : List String} {name : String}
    (h : name ∈ names) : m.share names shared name = shared name := by
  simp [share, h]

theorem share_of_not_mem {m shared : Matches} {names : List String} {name : String}
    (h : name ∉ names) : m.share names shared name = m name := by
  simp [share, h]

end Matches

end CommandFront
