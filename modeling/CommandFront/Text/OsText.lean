/-!
# Text that may hold ill-formed bytes

Arguments, paths and file contents come as bytes that need not be UTF-8.

- `OsText`: such text as a list of glyphs, a glyph being a character or a run of stray bytes.
- `OsText.ofBytes`: reads bytes; a stray run is a longest start of a character that breaks off.
- `OsText.toString?`: the text, if no byte is stray.
- `OsText.lossy`: the text with U+FFFD for each stray run.
-/

namespace CommandFront

/-- A character, or bytes that are none. -/
inductive Glyph where
  /-- A character. -/
  | scalar (c : Char)
  /-- Bytes that begin a character and break off, or that no character holds. -/
  | stray (bytes : List UInt8)
deriving DecidableEq, Repr

namespace Glyph

/-- The character of a glyph that is one. -/
def char? : Glyph → Option Char
  | scalar c => some c
  | stray _ => none

/-- The character shown for a glyph. -/
def shown : Glyph → Char
  | scalar c => c
  | stray _ => '\uFFFD'

end Glyph

/-- Text as the operating system hands it over. -/
abbrev OsText := List Glyph

namespace OsText

/-- Text without stray bytes. -/
def ofString (s : String) : OsText :=
  s.toList.map .scalar

/-- The text, if it has no stray bytes. -/
def toString? (t : OsText) : Option String :=
  (t.mapM Glyph.char?).map String.ofList

/-- The text with a replacement character for each run of stray bytes. -/
def lossy (t : OsText) : String :=
  .ofList (t.map Glyph.shown)

theorem mapM_char?_map_scalar (l : List Char) : (l.map Glyph.scalar).mapM Glyph.char? = some l := by
  induction l with
  | nil => rfl
  | cons c l ih => simp [Glyph.char?, ih]

@[simp] theorem toString?_ofString (s : String) : (ofString s).toString? = some s := by
  simp only [toString?, ofString, mapM_char?_map_scalar, Option.map_some, String.ofList_toList]

@[simp] theorem lossy_ofString (s : String) : (ofString s).lossy = s := by
  have h : (Glyph.shown ∘ Glyph.scalar) = id := rfl
  simp [lossy, ofString, h]

/-! ## Reading UTF-8 -/

/-- A character whose first bytes have been read. -/
structure Partial where
  /-- How many bytes are still owed. -/
  owed : Nat
  /-- The least byte that may come next. -/
  least : UInt8
  /-- The greatest byte that may come next. -/
  greatest : UInt8
  /-- The bytes read. -/
  bytes : List UInt8
  /-- The code point so far. -/
  value : Nat

/-- The character that a first byte opens, if it opens one of several bytes. -/
def opening (b : UInt8) : Option Partial :=
  let open2 (owed : Nat) (least greatest : UInt8) (value : Nat) : Option Partial :=
    some ⟨owed, least, greatest, [b], value⟩
  if 0xC2 ≤ b ∧ b ≤ 0xDF then open2 1 0x80 0xBF (b.toNat - 0xC0)
  else if b = 0xE0 then open2 2 0xA0 0xBF 0
  else if b = 0xED then open2 2 0x80 0x9F 0xD
  else if 0xE1 ≤ b ∧ b ≤ 0xEF then open2 2 0x80 0xBF (b.toNat - 0xE0)
  else if b = 0xF0 then open2 3 0x90 0xBF 0
  else if b = 0xF4 then open2 3 0x80 0x8F 4
  else if 0xF1 ≤ b ∧ b ≤ 0xF3 then open2 3 0x80 0xBF (b.toNat - 0xF0)
  else none

/-- The glyphs and the open character after a byte that starts afresh. -/
def afresh (b : UInt8) : List Glyph × Option Partial :=
  if b < 0x80 then ([.scalar (Char.ofNat b.toNat)], none)
  else
    match opening b with
    | some p => ([], some p)
    | none => ([.stray [b]], none)

/-- The glyphs and the open character after a byte that follows an open one. -/
def Partial.step (p : Partial) (b : UInt8) : List Glyph × Option Partial :=
  if p.least ≤ b ∧ b ≤ p.greatest then
    let value := p.value * 64 + (b.toNat - 0x80)
    if p.owed ≤ 1 then ([.scalar (Char.ofNat value)], none)
    else ([], some ⟨p.owed - 1, 0x80, 0xBF, p.bytes ++ [b], value⟩)
  else
    let next := afresh b
    (.stray p.bytes :: next.1, next.2)

/-- Reads bytes that follow an open character, if there is one. -/
def decode : Option Partial → List UInt8 → OsText
  | none, [] => []
  | some p, [] => [.stray p.bytes]
  | none, b :: rest =>
    let next := afresh b
    next.1 ++ decode next.2 rest
  | some p, b :: rest =>
    let next := p.step b
    next.1 ++ decode next.2 rest

/-- Reads bytes as UTF-8. -/
def ofBytes (bytes : List UInt8) : OsText :=
  decode none bytes

end OsText

end CommandFront
