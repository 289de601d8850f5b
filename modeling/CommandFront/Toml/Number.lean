import CommandFront.Toml.Basic
import CommandFront.Toml.Text

/-!
# TOML numbers, dates and times

- `Toml.readNumber`: reads a whole number or a number of the format binary64. Whole numbers fit
  into 64 bits with a sign; a number with a fraction or an exponent is rounded, and one that is
  too great is refused, while one that is too small becomes an infinity.
- `Toml.readMoment`: reads a date, a time, or both, and checks that they exist.
-/

namespace CommandFront

namespace Toml

/-! ## Digits -/

/-- Reads digits after the first. An underscore may stand between two digits and is left out. -/
def readMore (isDigit : Char → Bool) : List Char → Option (List Char × List Char)
  | [] => some ([], [])
  | '_' :: rest =>
    match rest with
    | c :: after => if isDigit c then before c (readMore isDigit after) else none
    | [] => none
  | c :: rest => if isDigit c then before c (readMore isDigit rest) else some ([], c :: rest)

/-- Reads at least one digit. -/
def readDigits (isDigit : Char → Bool) : List Char → Option (List Char × List Char)
  | c :: rest => if isDigit c then before c (readMore isDigit rest) else none
  | [] => none

/-- Reads a sign, if there is one, and tells whether it is a minus. -/
def readSign : List Char → Bool × List Char
  | '+' :: rest => (false, rest)
  | '-' :: rest => (true, rest)
  | s => (false, s)

/-- Reads a decimal whole number without a sign; no zero comes before another digit. -/
def readWhole : List Char → Option (List Char × List Char)
  | '0' :: rest => some (['0'], rest)
  | s => readDigits Char.isDigit s

/-- The value of digits to a base. -/
def valueOf (base : Nat) (digits : List Char) : Nat :=
  digits.foldl (fun n c => base * n + (hexValue? c).getD 0) 0

/-! ## Numbers -/

/-- A whole number that fits into 64 bits with a sign. -/
def integer? (negative : Bool) (magnitude : Nat) : Option Toml :=
  if negative then if magnitude ≤ Nat.pow 2 63 then some (.integer (-magnitude)) else none
  else if magnitude < Nat.pow 2 63 then some (.integer magnitude)
  else none

/-- A number of the format binary64 that is not too great. -/
def real? (negative : Bool) (digits : List Char) (scale : Int) : Option Toml :=
  match Numeric.Binary64.ofDecimal negative (valueOf 10 digits) scale with
  | .infinity false => none
  | x => some (.real x)

/-- Reads a whole number to a base other than ten. -/
def readBased (base : Nat) (isDigit : Char → Bool) (s : List Char) :
    Option (Toml × List Char) := do
  let (digits, rest) ← readDigits isDigit s
  return (← integer? false (valueOf base digits), rest)

/-- Reads the exponent of ten after its letter. -/
def readExponent (s : List Char) : Option (Int × List Char) := do
  let (negative, unsigned) := readSign s
  let (digits, rest) ← readDigits Char.isDigit unsigned
  return (if negative then -(valueOf 10 digits : Int) else valueOf 10 digits, rest)

/-- Whether a character opens an exponent. -/
def opensExponent (c : Char) : Bool :=
  c = 'e' || c = 'E'

/-- Reads what follows the whole part of a decimal number. -/
def readTail (negative : Bool) (whole : List Char) : List Char → Option (Toml × List Char)
  | '.' :: s => do
    let (fraction, rest) ← readDigits Char.isDigit s
    let scale : Int := -fraction.length
    match rest with
    | c :: after =>
      if opensExponent c then
        let (exponent, rest) ← readExponent after
        return (← real? negative (whole ++ fraction) (scale + exponent), rest)
      else return (← real? negative (whole ++ fraction) scale, rest)
    | [] => return (← real? negative (whole ++ fraction) scale, rest)
  | c :: s =>
    if opensExponent c then do
      let (exponent, rest) ← readExponent s
      return (← real? negative whole exponent, rest)
    else do return (← integer? negative (valueOf 10 whole), c :: s)
  | [] => do return (← integer? negative (valueOf 10 whole), [])

/-- Reads a number. -/
def readNumber (s : List Char) : Option (Toml × List Char) :=
  match s with
  | '0' :: 'x' :: rest => readBased 16 (fun c => (hexValue? c).isSome) rest
  | '0' :: 'o' :: rest => readBased 8 (fun c => '0' ≤ c && c ≤ '7') rest
  | '0' :: 'b' :: rest => readBased 2 (fun c => c = '0' || c = '1') rest
  | _ =>
    let (negative, unsigned) := readSign s
    match unsigned with
    | 'i' :: 'n' :: 'f' :: rest => some (.real (.infinity negative), rest)
    | 'n' :: 'a' :: 'n' :: rest => some (.real .nan, rest)
    | _ => do
      let (whole, rest) ← readWhole unsigned
      readTail negative whole rest

/-! ## Dates and times -/

/-- Reads a number of a fixed count of digits. -/
def readFixed (count : Nat) (s : List Char) : Option (Nat × List Char) :=
  let digits := s.take count
  if digits.length = count ∧ digits.all Char.isDigit then some (valueOf 10 digits, s.drop count)
  else none

/-- Reads a number of two digits between two bounds. -/
def readPair (least greatest : Nat) (s : List Char) : Option (Nat × List Char) := do
  let (n, rest) ← readFixed 2 s
  if least ≤ n ∧ n ≤ greatest then some (n, rest) else none

/-- Reads a given character. -/
def readChar (c : Char) : List Char → Option (List Char)
  | d :: rest => if d = c then some rest else none
  | [] => none

/-- How many days a month has. -/
def daysIn (year month : Nat) : Nat :=
  if month = 2 then
    if year % 4 = 0 ∧ (year % 100 ≠ 0 ∨ year % 400 = 0) then 29 else 28
  else if month ∈ [4, 6, 9, 11] then 30
  else 31

/-- Reads a date after its year and a hyphen. -/
def readDate (year : Nat) (s : List Char) : Option (List Char) := do
  let (month, s) ← readPair 1 12 s
  let (day, s) ← readPair 1 31 (← readChar '-' s)
  if day ≤ daysIn year month then some s else none

/-- Reads a time after its hour and a colon. -/
def readTime (s : List Char) : Option (List Char) := do
  let (_, s) ← readPair 0 59 s
  let (_, s) ← readPair 0 60 (← readChar ':' s)
  match s with
  | '.' :: c :: rest => return if c.isDigit then rest.dropWhile Char.isDigit else s
  | _ => return s

/-- Reads the distance from universal time, if there is one. -/
def readOffset (s : List Char) : Option (List Char) :=
  match s with
  | c :: rest =>
    if c = 'Z' ∨ c = 'z' then some rest
    else if c = '+' ∨ c = '-' then do
      let (_, s) ← readPair 0 23 rest
      let (_, s) ← readPair 0 59 (← readChar ':' s)
      return s
    else some s
  | [] => some s

/-- What follows an hour and a colon. -/
def afterHour? (s : List Char) : Option (List Char) := do
  let (_, s) ← readPair 0 23 s
  readChar ':' s

/-- Reads the time after a date, if there is one. -/
def readTimeOfDay (s : List Char) : Option (List Char) :=
  match s with
  | c :: rest =>
    if c = 'T' ∨ c = 't' ∨ c = ' ' then
      match afterHour? rest with
      | some time => do readOffset (← readTime time)
      | none => some s
    else some s
  | [] => some s

/-- Reads a date or a time; there is no result if neither begins here, and a failure inside if one
begins and does not exist. -/
def readMoment (s : List Char) : Option (Option (List Char)) :=
  match readFixed 4 s with
  | some (year, '-' :: rest) =>
    some (do readTimeOfDay (← readDate year rest))
  | _ =>
    match afterHour? s with
    | some time => some (readTime time)
    | none => none

end Toml

end CommandFront
