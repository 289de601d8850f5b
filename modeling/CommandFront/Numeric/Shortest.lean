import CommandFront.Numeric.Binary64

/-!
# The shortest decimal of a binary64 number

- `Decimal`: the number `digits · 10 ^ scale`.
- `shortest round d`: the decimal with the fewest digits among those that round to `d`, and of
  these the one nearest to `d`. Where two are equally near, `round` decides: `halfEven` takes the
  one that ends in an even digit, `halfUp` the larger one.
- `Decimal.positional` writes all places; `Decimal.scientific` takes a power of ten for numbers
  that are very large or very small.
-/

namespace CommandFront

namespace Numeric

/-- The number `digits · 10 ^ scale`. -/
structure Decimal where
  /-- The digits, as a whole number. -/
  digits : Nat
  /-- The power of ten. -/
  scale : Int
deriving DecidableEq, Repr

/-- The interval of the numbers that round to a magnitude, in quarters of its last place. -/
structure Basin where
  /-- The lower end. -/
  lower : Nat
  /-- The magnitude itself. -/
  centre : Nat
  /-- The upper end. -/
  upper : Nat
  /-- Whether the ends round to the magnitude too. -/
  closed : Bool

/-- The numbers that round to a magnitude. The gap below a power of two is half as wide. -/
def Dyadic64.basin (d : Dyadic64) : Basin where
  lower := 4 * d.mantissa - if d.mantissa = Nat.pow 2 52 ∧ -1074 < d.exponent then 1 else 2
  centre := 4 * d.mantissa
  upper := 4 * d.mantissa + 2
  closed := d.mantissa % 2 = 0

/-- The point of the grid of the multiples of `10 ^ scale` that rounds to `d` and is nearest to
it, if one does. -/
def gridPoint? (round : Nat → Nat → Nat) (d : Dyadic64) (scale : Int) : Option Decimal :=
  let quarter := d.exponent - 2
  -- A quarter of the last place is `place / unit` steps of the grid.
  let place := Nat.pow 2 quarter.toNat * Nat.pow 10 (-scale).toNat
  let unit := Nat.pow 2 (-quarter).toNat * Nat.pow 10 scale.toNat
  let basin := d.basin
  let inside (n : Nat) : Bool :=
    if basin.closed then basin.lower * place ≤ n * unit && n * unit ≤ basin.upper * place
    else basin.lower * place < n * unit && n * unit < basin.upper * place
  let below := basin.centre * place / unit
  match inside below, inside (below + 1) with
  | true, true => some ⟨round (basin.centre * place) unit, scale⟩
  | true, false => some ⟨below, scale⟩
  | false, true => some ⟨below + 1, scale⟩
  | false, false => none

/-- The shortest decimal of a magnitude that is not zero: the grids are tried from coarse to
fine, and seventeen digits always suffice. -/
def shortest (round : Nat → Nat → Nat) (d : Dyadic64) : Decimal :=
  let coarsest : Int := (d.exponent + d.mantissa.log2) * 30103 / 100000 + 1
  let grids := (List.range 20).map fun step : Nat => coarsest - (step : Int)
  (grids.findSome? (gridPoint? round d)).getD ⟨0, 0⟩

namespace Decimal

/-- The digits as text. -/
def figures (d : Decimal) : String :=
  toString d.digits

/-- The place of the point, counted from the first digit. -/
def point (d : Decimal) : Int :=
  d.figures.length + d.scale

/-- A run of zeros. -/
def zeros (n : Nat) : String :=
  .ofList (List.replicate n '0')

/-- The number with a point and at least one digit on each side of it. -/
def pointed (d : Decimal) : String :=
  let figures := d.figures.toList
  if 0 ≤ d.scale then d.figures ++ zeros d.scale.toNat ++ ".0"
  else if 0 < d.point then
    .ofList (figures.take d.point.toNat) ++ "." ++ .ofList (figures.drop d.point.toNat)
  else "0." ++ zeros (-d.point).toNat ++ d.figures

/-- A power of ten, always with a sign. -/
def power (exponent : Int) : String :=
  if exponent < 0 then "e" ++ toString exponent else "e+" ++ toString exponent

/-- The number with its point after the first digit and a power of ten. -/
def scientific (d : Decimal) : String :=
  match d.figures.toList with
  | [] => ""
  | [c] => String.singleton c ++ power (d.point - 1)
  | c :: rest => String.singleton c ++ "." ++ .ofList rest ++ power (d.point - 1)

/-- The number with all its places from `10 ^ -5` up to `10 ^ 16`, and with a power of ten
beyond. -/
def plainOrScientific (d : Decimal) : String :=
  if -5 < d.point ∧ d.point ≤ 16 then d.pointed else d.scientific

end Decimal

example : shortest halfEven (nearest 1 10) = ⟨1, -1⟩ := by decide

example : (shortest halfEven (nearest 1 10)).pointed = "0.1" := by decide

example :
    (shortest halfEven (nearest 4737128376513109 4)).pointed = "1184282094128277.2" := by decide

example :
    (shortest halfUp (nearest 4737128376513109 4)).pointed = "1184282094128277.3" := by decide

/-- Writes a magnitude with a given form for the numbers other than zero. -/
def Dyadic64.text (round : Nat → Nat → Nat) (form : Decimal → String) (d : Dyadic64) : String :=
  if d.mantissa = 0 then "0.0" else form (shortest round d)

namespace Binary64

/-- A minus sign, where one is due. -/
def sign (negative : Bool) : String :=
  if negative then "-" else ""

/-- The value with all its places. Of two decimals that are equally near the larger magnitude is
taken. -/
def positional : Binary64 → String
  | finite negative magnitude => sign negative ++ magnitude.text halfUp Decimal.pointed
  | infinity negative => sign negative ++ "inf"
  | nan => "NaN"

end Binary64

end Numeric

end CommandFront
