/-!
# TOML strings

Readers for the four kinds of strings. A reader starts after the opening quotes and gives the text
with what follows the closing ones.

- `Toml.readBasic`, `Toml.readLiteral`: strings on one line, with and without escapes.
- `Toml.readLongBasic`, `Toml.readLongLiteral`: strings between triple quotes.
- `Toml.readText`: any of them, from its opening quotes on.
-/

namespace CommandFront

namespace Toml

/-- Whether a character stands for itself in a string or comment: a tab or no control. -/
def isPrintable (c : Char) : Bool :=
  c = '\t' || (' ' ≤ c && c ≠ '\x7f')

/-- The value of a hexadecimal digit. -/
def hexValue? (c : Char) : Option Nat :=
  if c.isDigit then some (c.toNat - '0'.toNat)
  else if 'a' ≤ c ∧ c ≤ 'f' then some (c.toNat - 'a'.toNat + 10)
  else if 'A' ≤ c ∧ c ≤ 'F' then some (c.toNat - 'A'.toNat + 10)
  else none

/-- The character of a code point in hexadecimal digits. -/
def hexChar? (digits : List Char) : Option Char := do
  let values ← digits.mapM hexValue?
  let n := values.foldl (fun n value => 16 * n + value) 0
  if n.isValidChar then some (Char.ofNat n) else none

/-- The character of a letter after a backslash. -/
def escaped? : Char → Option Char
  | 'b' => some '\x08'
  | 'f' => some '\x0c'
  | 'n' => some '\n'
  | 'r' => some '\r'
  | 't' => some '\t'
  | '"' => some '"'
  | '\\' => some '\\'
  | _ => none

/-- Reads an escape after its backslash: the character and how many characters stand for it. -/
def readEscape : List Char → Option (Char × Nat)
  | 'u' :: rest => do
    let digits := rest.take 4
    if digits.length = 4 then return (← hexChar? digits, 5) else none
  | 'U' :: rest => do
    let digits := rest.take 8
    if digits.length = 8 then return (← hexChar? digits, 9) else none
  | c :: _ => do return (← escaped? c, 1)
  | [] => none

/-- Puts a character before the text that has been read. -/
def before (c : Char) (read : Option (List Char × List Char)) : Option (List Char × List Char) :=
  read.map fun (inside, rest) => (c :: inside, rest)

/-- Reads the inside of a string with escapes; the first `skip` characters have been read. -/
def readBasicFrom : Nat → List Char → Option (List Char × List Char)
  | _, [] => none
  | skip + 1, _ :: rest => readBasicFrom skip rest
  | 0, c :: rest =>
    if c = '"' then some ([], rest)
    else if c = '\\' then do
      let (meant, width) ← readEscape rest
      before meant (readBasicFrom width rest)
    else if isPrintable c then before c (readBasicFrom 0 rest)
    else none

/-- Reads a string with escapes. -/
def readBasic (s : List Char) : Option (List Char × List Char) :=
  readBasicFrom 0 s

/-- Reads a string without escapes. -/
def readLiteral : List Char → Option (List Char × List Char)
  | [] => none
  | c :: rest =>
    if c = '\'' then some ([], rest)
    else if isPrintable c then before c (readLiteral rest)
    else none

/-! ## Strings of many lines -/

/-- Whether a character is a blank within a line. -/
def isSpace (c : Char) : Bool :=
  c = ' ' || c = '\t'

/-- What follows the end of a line. -/
def afterLine? : List Char → Option (List Char)
  | '\n' :: rest => some rest
  | '\r' :: '\n' :: rest => some rest
  | _ => none

/-- Closes a string after three quotes: up to two more belong to its text. -/
def closeLong (quote : Char) : List Char → List Char × List Char
  | c :: d :: rest =>
    if c = quote ∧ d = quote then ([c, d], rest)
    else if c = quote then ([c], d :: rest)
    else ([], c :: d :: rest)
  | [c] => if c = quote then ([c], []) else ([], [c])
  | [] => ([], [])

/-- Whether three quotes come next. -/
def closes (quote : Char) (s : List Char) : Bool :=
  [quote, quote, quote].isPrefixOf s

/-- Reads the inside of a string with escapes between triple quotes. The first `skip` characters
have been read; while `trimming`, blanks and ends of lines are left out. -/
def readLongBasicFrom : Nat → Bool → List Char → Option (List Char × List Char)
  | _, _, [] => none
  | skip + 1, trimming, _ :: rest => readLongBasicFrom skip trimming rest
  | 0, trimming, c :: rest =>
    if trimming && isSpace c then readLongBasicFrom 0 true rest
    else if (afterLine? (c :: rest)).isSome then
      let after := readLongBasicFrom (if c = '\r' then 1 else 0) trimming rest
      if trimming then after else before '\n' after
    else if closes '"' (c :: rest) then some (closeLong '"' (rest.drop 2))
    else if c = '\\' then
      if (afterLine? (rest.dropWhile isSpace)).isSome then readLongBasicFrom 0 true rest
      else do
        let (meant, width) ← readEscape rest
        before meant (readLongBasicFrom width false rest)
    else if isPrintable c then before c (readLongBasicFrom 0 false rest)
    else none

/-- Reads the inside of a string without escapes between triple quotes; the first `skip` characters
have been read. -/
def readLongLiteralFrom : Nat → List Char → Option (List Char × List Char)
  | _, [] => none
  | skip + 1, _ :: rest => readLongLiteralFrom skip rest
  | 0, c :: rest =>
    if (afterLine? (c :: rest)).isSome then
      before '\n' (readLongLiteralFrom (if c = '\r' then 1 else 0) rest)
    else if closes '\'' (c :: rest) then some (closeLong '\'' (rest.drop 2))
    else if isPrintable c then before c (readLongLiteralFrom 0 rest)
    else none

/-- Reads a string with escapes between triple quotes; an end of line right after the opening ones
is left out. -/
def readLongBasic (s : List Char) : Option (List Char × List Char) :=
  readLongBasicFrom 0 false ((afterLine? s).getD s)

/-- Reads a string without escapes between triple quotes; an end of line right after the opening
ones is left out. -/
def readLongLiteral (s : List Char) : Option (List Char × List Char) :=
  readLongLiteralFrom 0 ((afterLine? s).getD s)

/-- Reads a string from its opening quotes on. -/
def readText (s : List Char) : Option (String × List Char) :=
  let read :=
    match s with
    | '"' :: rest => if closes '"' s then readLongBasic (rest.drop 2) else readBasic rest
    | '\'' :: rest => if closes '\'' s then readLongLiteral (rest.drop 2) else readLiteral rest
    | _ => none
  read.map fun (inside, rest) => (.ofList inside, rest)

end Toml

end CommandFront
