import CommandFront.Text.RangeTable

/-!
# Blank characters

- `isBlank c`: whether `c` has the Unicode property `White_Space`.
- `IsName s`: what a command or a flag may be called: text that is not empty and
  holds no blank.
-/

namespace CommandFront

namespace Text

/-- The characters with the Unicode property `White_Space`. -/
def blanks : RangeTable :=
  [(0x09, 0x0D), (0x20, 0x20), (0x85, 0x85), (0xA0, 0xA0), (0x1680, 0x1680), (0x2000, 0x200A),
    (0x2028, 0x2029), (0x202F, 0x202F), (0x205F, 0x205F), (0x3000, 0x3000)]

/-- Whether a character is white space. -/
def isBlank (c : Char) : Bool :=
  blanks.contains c

/-- A usable name: not empty and without blanks. -/
def IsName (s : String) : Prop :=
  s ≠ "" ∧ ∀ c ∈ s.toList, isBlank c = false

instance (s : String) : Decidable (IsName s) :=
  -- not by a search over all characters
  have : Decidable (∀ c ∈ s.toList, isBlank c = false) := List.decidableBAll _ s.toList
  inferInstanceAs (Decidable (_ ∧ _))

theorem not_isName_empty : ¬IsName "" := fun h => h.1 rfl

end Text

end CommandFront
