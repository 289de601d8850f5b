import CommandFront.Text.Decimal

/-!
# Versions of the compiler

The text comes from a compiler and may hold anything, such as the name of the program, a date or the
hash of a commit. Digits are looked for in the sense of Unicode, and converted in the sense of
ASCII; and once three runs are found, no later place is tried.

- `CompilerVersion`: three numbers, compared from the left.
- `CompilerVersion.triple?`: the leftmost place of a text where three runs of digits follow each
  other with a point between them.
- `CompilerVersion.parse?`: the version at that place. The numbers have to be written in ASCII and
  fit into a machine word.
-/

namespace CommandFront

/-- The version of a compiler. -/
structure CompilerVersion where
  /-- The first number. -/
  major : Nat
  /-- The second number. -/
  minor : Nat
  /-- The third number. -/
  patch : Nat
deriving DecidableEq, Repr

namespace CompilerVersion

/-- A version comes before another when it is less at the first number where they differ. -/
def Precedes (a b : CompilerVersion) : Prop :=
  a.major < b.major ∨
    (a.major = b.major ∧ (a.minor < b.minor ∨ (a.minor = b.minor ∧ a.patch < b.patch)))

instance (a b : CompilerVersion) : Decidable (a.Precedes b) :=
  inferInstanceAs (Decidable (_ ∨ _))

/-- The version with points between its numbers. -/
def text (v : CompilerVersion) : String :=
  toString v.major ++ "." ++ toString v.minor ++ "." ++ toString v.patch

/-! ## Reading -/

/-- The run of digits at the beginning of a text and what follows it, if there is one. -/
def run? (s : List Char) : Option (List Char × List Char) :=
  let digits := s.takeWhile Text.isDecimalDigit
  if digits = [] then none else some (digits, s.dropWhile Text.isDecimalDigit)

/-- What follows a point. -/
def afterPoint? : List Char → Option (List Char)
  | '.' :: rest => some rest
  | _ => none

/-- The three runs of digits at the beginning of a text. -/
def tripleHere? (s : List Char) : Option (List Char × List Char × List Char) := do
  let (major, s₁) ← run? s
  let (minor, s₂) ← run? (← afterPoint? s₁)
  let (patch, _) ← run? (← afterPoint? s₂)
  return (major, minor, patch)

/-- The three runs of digits at the leftmost place where there are three. -/
def triple? : List Char → Option (List Char × List Char × List Char)
  | [] => none
  | c :: rest => (tripleHere? (c :: rest)).or (triple? rest)

/-- The number of a run of digits. -/
def number? (digits : List Char) : Option Nat :=
  let n := Nat.ofDigitChars 10 digits 0
  if digits.all Char.isDigit = true ∧ n < Nat.pow 2 64 then some n else none

/-- The version in a text. -/
def parse? (s : String) : Option CompilerVersion := do
  let (major, minor, patch) ← triple? s.toList
  return ⟨← number? major, ← number? minor, ← number? patch⟩

end CompilerVersion

end CommandFront
