import CommandFront.Text.Invisible

/-!
# Quoted text

- `quote s`: `s` between double quotes, on one line and with every character visible. A quote
  or backslash has a backslash before it, the common controls have their letters, and any other
  invisible character is written by its code point, as in `\u{200b}`.
-/

namespace CommandFront

namespace Text

/-- The lower-case hexadecimal digits of a number. -/
def hexDigits (n : Nat) : List Char :=
  Nat.toDigits 16 n

/-- How one character is written between the quotes. -/
def quotedChar (c : Char) : List Char :=
  match c with
  | '\x00' => ['\\', '0']
  | '\t' => ['\\', 't']
  | '\n' => ['\\', 'n']
  | '\r' => ['\\', 'r']
  | '"' => ['\\', '"']
  | '\\' => ['\\', '\\']
  | c => if isInvisible c then '\\' :: 'u' :: '\x7b' :: hexDigits c.toNat ++ ['\x7d'] else [c]

/-- The quoted form of a text. -/
def quote (s : String) : String :=
  .ofList ('"' :: s.toList.flatMap quotedChar ++ ['"'])

end Text

end CommandFront
