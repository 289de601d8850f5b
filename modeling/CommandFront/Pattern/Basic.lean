import CommandFront.Pattern.CharClass

/-!
# Patterns of text

- `Pattern`: a regular expression.
- `Anchor.Holds`: what an anchor demands of the place where it stands.
- `Pattern.ends p text i`: the places where a match of `p` that begins at `i` may end.
- `Pattern.Occurs p s`: some part of `s` is a match of `p`.
- `Pattern.weight`: how large a pattern is when its repetitions are written out.
-/

namespace CommandFront

/-- What a pattern demands of a place in a text. -/
inductive Anchor where
  /-- The beginning of the text. -/
  | textStart
  /-- The end of the text. -/
  | textEnd
  /-- The beginning of a line; lines may also end in a carriage return. -/
  | lineStart (returns : Bool)
  /-- The end of a line; lines may also end in a carriage return. -/
  | lineEnd (returns : Bool)
  /-- A place with a character of a word on exactly one side. -/
  | boundary (word : CharClass)
  /-- A place that is no boundary. -/
  | inside (word : CharClass)
  /-- The beginning of a word. -/
  | wordStart (word : CharClass)
  /-- The end of a word. -/
  | wordEnd (word : CharClass)
  /-- A place that no character of a word comes before. -/
  | afterNoWord (word : CharClass)
  /-- A place that no character of a word follows. -/
  | beforeNoWord (word : CharClass)
deriving DecidableEq, Repr

namespace Anchor

/-- Whether an anchor holds between two neighbours; a neighbour is missing at an end of the text. -/
def holdsBetween (a : Anchor) (before after : Option Char) : Bool :=
  let within (word : CharClass) (c : Option Char) : Bool := c.any word.contains
  match a with
  | textStart => before.isNone
  | textEnd => after.isNone
  | lineStart false => before.all (· = '\n')
  | lineStart true =>
    before.all fun c => c = '\n' || (c = '\r' && decide (after ≠ some '\n'))
  | lineEnd false => after.all (· = '\n')
  | lineEnd true =>
    after.all fun c => c = '\r' || (c = '\n' && decide (before ≠ some '\r'))
  | boundary word => within word before != within word after
  | inside word => within word before == within word after
  | wordStart word => !within word before && within word after
  | wordEnd word => within word before && !within word after
  | afterNoWord word => !within word before
  | beforeNoWord word => !within word after

/-- What stands before a place in a text. -/
def before (text : Array Char) (i : Nat) : Option Char :=
  if i = 0 then none else text[i - 1]?

/-- An anchor holds at a place when it holds between the neighbours of the place. -/
def Holds (a : Anchor) (text : Array Char) (i : Nat) : Prop :=
  a.holdsBetween (before text i) text[i]? = true

instance (a : Anchor) (text : Array Char) (i : Nat) : Decidable (a.Holds text i) :=
  inferInstanceAs (Decidable (_ = _))

end Anchor

/-- A regular expression. -/
inductive Pattern where
  /-- Matches the empty text. -/
  | empty
  /-- Matches a character of a class. -/
  | one (k : CharClass)
  /-- Matches the empty text at some places. -/
  | anchor (a : Anchor)
  /-- Matches a match of the first and then one of the second. -/
  | sequence (p q : Pattern)
  /-- Matches what either of them matches. -/
  | choice (p q : Pattern)
  /-- Matches a number of matches in a row. -/
  | repeated (p : Pattern) (least : Nat) (most : Option Nat)
deriving DecidableEq, Repr

namespace Pattern

/-- The places that one more match leads to. -/
def advance (step : Nat → List Nat) (places : List Nat) : List Nat :=
  (places.flatMap step).eraseDups

/-- The places that at most one more match leads to. -/
def spread (step : Nat → List Nat) (places : List Nat) : List Nat :=
  (places ++ places.flatMap step).eraseDups

/-- Applies a function a number of times. -/
def times {α : Type} (f : α → α) : Nat → α → α
  | 0, a => a
  | n + 1, a => times f n (f a)

/-- The places where a match that begins at `i` may end. A text of `n` characters has `n + 1`
places, so `n` further repetitions reach all that any number of them reaches. -/
def ends (text : Array Char) : Pattern → Nat → List Nat
  | empty, i => [i]
  | one k, i => if text[i]?.any k.contains then [i + 1] else []
  | anchor a, i => if a.Holds text i then [i] else []
  | sequence p q, i => advance (ends text q) (ends text p i)
  | choice p q, i => (ends text p i ++ ends text q i).eraseDups
  | repeated p least most, i =>
    let further := most.elim text.size fun m => min (m - least) text.size
    times (spread (ends text p)) further (times (advance (ends text p)) least [i])

/-- A pattern occurs in a text when some part of the text is a match. -/
def Occurs (p : Pattern) (s : String) : Prop :=
  ∃ i ∈ List.range (s.toList.length + 1), p.ends s.toList.toArray i ≠ []

instance (p : Pattern) (s : String) : Decidable (p.Occurs s) :=
  inferInstanceAs (Decidable (∃ i ∈ List.range (s.toList.length + 1), _))

/-- The size of a pattern with its repetitions written out. -/
def weight : Pattern → Nat
  | empty => 1
  | one _ => 1
  | anchor _ => 1
  | sequence p q => p.weight + q.weight
  | choice p q => p.weight + q.weight + 1
  | repeated p least most => p.weight * max 1 (most.getD least) + 1

/-- Some patterns in a row. -/
def row : List Pattern → Pattern
  | [] => empty
  | [p] => p
  | p :: rest => sequence p (row rest)

/-- The choice between some patterns. -/
def alternatives : List Pattern → Pattern
  | [] => empty
  | [p] => p
  | p :: rest => choice p (alternatives rest)

/-- The pattern of a text that stands for itself. -/
def ofText (s : String) : Pattern :=
  row (s.toList.map fun c => one (.single c))

example : (repeated (ofText "ab") 2 none).Occurs "xababx" := by decide

example : ¬(repeated (ofText "ab") 3 none).Occurs "xababx" := by decide

end Pattern

end CommandFront
