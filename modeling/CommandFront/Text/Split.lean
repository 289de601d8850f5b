import CommandFront.Text.Blank

/-!
# Parts of a text

- `split sep s`: the parts of `s` between the occurrences of `sep`. There is one more part than
  there are occurrences.
- `trim s`: `s` without the blanks at its ends.
-/

namespace CommandFront

namespace Text

/-- The parts between the occurrences of a separator. -/
def split {α : Type} [DecidableEq α] (sep : α) : List α → List (List α)
  | [] => [[]]
  | c :: rest =>
    if c = sep then [] :: split sep rest
    else
      match split sep rest with
      | [] => [[c]]
      | part :: parts => (c :: part) :: parts

/-- The text without the blanks at its ends. -/
def trim (s : List Char) : List Char :=
  ((s.dropWhile isBlank).reverse.dropWhile isBlank).reverse

end Text

end CommandFront
