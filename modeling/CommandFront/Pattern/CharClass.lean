import CommandFront.Text.Blank
import CommandFront.Text.CaseFolding
import CommandFront.Text.Category

/-!
# Classes of characters

- `CharClass`: a set of characters as a pattern describes it.
- `CharClass.contains`: whether a character belongs to a class.
- `CharClass.word`: the letters, marks, digits and connectors of which words are made.
-/

namespace CommandFront

/-- A set of characters, as a pattern describes it. -/
inductive CharClass where
  /-- The characters from a first one to a last one. -/
  | span (first last : Char)
  /-- The characters of a category. -/
  | category (k : Text.Category)
  /-- The characters that are white space. -/
  | blank
  /-- No character. -/
  | nothing
  /-- What belongs to one class or the other. -/
  | union (left right : CharClass)
  /-- What belongs to both classes. -/
  | inter (left right : CharClass)
  /-- What does not belong to the class. -/
  | complement (k : CharClass)
  /-- What belongs to the class in one case or another. -/
  | anyCase (k : CharClass)
  /-- What belongs to the class if the case of letters of ASCII does not count. -/
  | anyAsciiCase (k : CharClass)
deriving DecidableEq, Repr

namespace CharClass

/-- The letter of ASCII in its other case, and every other character itself. -/
def otherAsciiCase (c : Char) : Char :=
  if c.isLower then c.toUpper else c.toLower

/-- Whether a character belongs to a class. -/
def contains : CharClass → Char → Bool
  | span first last, c => first ≤ c && c ≤ last
  | category k, c => k.contains c
  | blank, c => Text.isBlank c
  | nothing, _ => false
  | union left right, c => left.contains c || right.contains c
  | inter left right, c => left.contains c && right.contains c
  | complement k, c => !k.contains c
  | anyCase k, c => (Text.caseOrbit c).any fun d => k.contains d
  | anyAsciiCase k, c => k.contains c || k.contains (otherAsciiCase c)

/-- The class of one character. -/
def single (c : Char) : CharClass :=
  span c c

/-- The union of some classes. -/
def unions : List CharClass → CharClass
  | [] => nothing
  | [k] => k
  | k :: rest => union k (unions rest)

/-- The characters of some spans. -/
def spans (l : List (Char × Char)) : CharClass :=
  unions (l.map fun (first, last) => span first last)

/-- What belongs to the first class and not to the second. -/
def diff (left right : CharClass) : CharClass :=
  inter left (complement right)

/-- What belongs to exactly one of the classes. -/
def symmDiff (left right : CharClass) : CharClass :=
  union (diff left right) (diff right left)

/-- Every character. -/
def any : CharClass :=
  span '\x00' (Char.ofNat 0x10FFFF)

/-- The decimal digits. -/
def digit : CharClass :=
  category .decimalNumber

/-- The letters, and what counts as one: numbers and circled symbols that look like letters. -/
def letter : CharClass :=
  union (unions (Text.Category.letters.map category))
    (union (category .letterNumber)
      (spans
        [(Char.ofNat 0x24B6, Char.ofNat 0x24E9), (Char.ofNat 0x1F130, Char.ofNat 0x1F149),
          (Char.ofNat 0x1F150, Char.ofNat 0x1F169), (Char.ofNat 0x1F170, Char.ofNat 0x1F189)]))

/-- The characters of which words are made. -/
def word : CharClass :=
  unions
    (letter :: digit :: category .connectorPunctuation :: span '\u200c' '\u200d'
      :: Text.Category.marks.map category)

/-- The decimal digits of ASCII. -/
def asciiDigit : CharClass :=
  span '0' '9'

/-- The white space of ASCII. -/
def asciiBlank : CharClass :=
  spans [('\t', '\r'), (' ', ' ')]

/-- The characters of ASCII of which words are made. -/
def asciiWord : CharClass :=
  spans [('0', '9'), ('A', 'Z'), ('_', '_'), ('a', 'z')]

/-- The classes of ASCII that have a name. -/
def ascii? (name : String) : Option CharClass :=
  match name with
  | "alnum" => some (spans [('0', '9'), ('A', 'Z'), ('a', 'z')])
  | "alpha" => some (spans [('A', 'Z'), ('a', 'z')])
  | "ascii" => some (span '\x00' '\x7f')
  | "blank" => some (spans [('\t', '\t'), (' ', ' ')])
  | "cntrl" => some (spans [('\x00', '\x1f'), ('\x7f', '\x7f')])
  | "digit" => some asciiDigit
  | "graph" => some (span '!' '~')
  | "lower" => some (span 'a' 'z')
  | "print" => some (span ' ' '~')
  | "punct" => some (spans [('!', '/'), (':', '@'), ('[', '\x60'), ('\x7b', '~')])
  | "space" => some asciiBlank
  | "upper" => some (span 'A' 'Z')
  | "word" => some asciiWord
  | "xdigit" => some (spans [('0', '9'), ('A', 'F'), ('a', 'f')])
  | _ => none

/-- The classes that go by the name of a property. -/
def property? (name : String) : Option CharClass :=
  match name with
  | "whitespace" | "wspace" | "space" => some blank
  | "ascii" => some (span '\x00' '\x7f')
  | name => (Text.Category.group? name).map fun l => unions (l.map category)

end CharClass

end CommandFront
