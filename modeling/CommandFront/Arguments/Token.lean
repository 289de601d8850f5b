import CommandFront.Text.OsText

/-!
# Tokens of a command line

The shape of an argument is read from its first glyphs alone, before it is known which flags there
are. That a spelling is no flag of the level is found out later, and then the argument is refused:
it is not taken for a value after all.

- `Token`: an argument by its shape.
- `Token.ofText`: reads the shape. A lone `-` is a plain token, and so is the empty one.
- `Token.toText`: the argument again.
-/

namespace CommandFront

/-- An argument by its shape. -/
inductive Token where
  /-- The token `--`, after which no flag comes. -/
  | separator
  /-- A long spelling, as in `--name`, or with a value, as in `--name=value`. -/
  | long (name : OsText) (value : Option OsText)
  /-- Short spellings after one hyphen, as in `-vj`. -/
  | cluster (letters : OsText)
  /-- Any other token. -/
  | plain (text : OsText)
deriving DecidableEq, Repr

namespace Token

/-- The glyph between a flag and its value. -/
def equalsSign : Glyph :=
  .scalar '='

/-- The glyph that opens a flag. -/
def hyphen : Glyph :=
  .scalar '-'

/-- A long spelling; the first equals sign ends the name. -/
def ofLong (text : OsText) : Token :=
  .long (text.takeWhile (· != equalsSign)) (text.dropWhile (· != equalsSign)).tail?

/-- Reads the shape of an argument. -/
def ofText (text : OsText) : Token :=
  match text with
  | first :: second :: rest =>
    if first ≠ hyphen then .plain text
    else if second ≠ hyphen then .cluster (second :: rest)
    else if rest = [] then .separator
    else ofLong rest
  | _ => .plain text

/-- The argument with a given shape. -/
def toText : Token → OsText
  | separator => [hyphen, hyphen]
  | long name none => hyphen :: hyphen :: name
  | long name (some value) => hyphen :: hyphen :: (name ++ equalsSign :: value)
  | cluster letters => hyphen :: letters
  | plain text => text

theorem toText_ofLong (text : OsText) : (ofLong text).toText = hyphen :: hyphen :: text := by
  have hsplit := List.takeWhile_append_dropWhile (p := (· != equalsSign)) (l := text)
  unfold ofLong
  cases htail : text.dropWhile (· != equalsSign) with
  | nil =>
    rw [htail, List.append_nil] at hsplit
    show hyphen :: hyphen :: _ = _
    rw [hsplit]
  | cons c value =>
    have hc : c = equalsSign := by
      have hhead := List.head?_dropWhile_not (p := (· != equalsSign)) (l := text)
      rw [htail] at hhead
      simpa using hhead
    rw [htail, hc] at hsplit
    show hyphen :: hyphen :: (_ ++ equalsSign :: value) = _
    rw [hsplit]

/-- Reading loses nothing. -/
theorem toText_ofText (text : OsText) : (ofText text).toText = text := by
  match text with
  | [] => rfl
  | [c] => rfl
  | first :: second :: rest =>
    by_cases h₁ : first = hyphen
    · by_cases h₂ : second = hyphen
      · by_cases h₃ : rest = []
        · simp [ofText, toText, h₁, h₂, h₃]
        · simp [ofText, h₁, h₂, h₃, toText_ofLong]
      · simp [ofText, toText, h₁, h₂]
    · simp [ofText, toText, h₁]

end Token

end CommandFront
