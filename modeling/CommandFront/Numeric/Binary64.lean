/-!
# Rounding to binary64

The magnitudes of the IEEE format binary64, as exact numbers.

- `Dyadic64`: a magnitude `mantissa · 2 ^ exponent`.
- `halfEven num den`: the nearest integer to `num / den`, a half going to the even one.
- `nearest num den`: the magnitude nearest to `num / den`, with 53 significant bits, a half going
  to the even mantissa. Its exponent is not bounded above; `Dyadic64.isInfinite` says when the
  format has no room for it.
- `Binary64`: the values of the format, and `Binary64.ofDecimal` the value nearest to a decimal.
-/

namespace CommandFront

namespace Numeric

/-- The integer nearest to `num / den`, a half going to the even one. -/
def halfEven (num den : Nat) : Nat :=
  let quotient := num / den
  let rest := 2 * (num % den)
  if rest < den then quotient
  else if den < rest then quotient + 1
  else quotient + quotient % 2

/-- The integer nearest to `num / den`, a half going up. -/
def halfUp (num den : Nat) : Nat :=
  (2 * num + den) / (2 * den)

/-- The number `mantissa · 2 ^ exponent`. -/
structure Dyadic64 where
  /-- The factor, below `2 ^ 53`. -/
  mantissa : Nat
  /-- The power of two. -/
  exponent : Int
deriving DecidableEq, Repr

namespace Dyadic64

/-- The numerator of the number as a fraction. -/
def num (d : Dyadic64) : Nat :=
  d.mantissa * Nat.pow 2 d.exponent.toNat

/-- The denominator of the number as a fraction, a power of two. -/
def den (d : Dyadic64) : Nat :=
  Nat.pow 2 (-d.exponent).toNat

theorem den_pos (d : Dyadic64) : 0 < d.den :=
  Nat.two_pow_pos _

/-- Whether the format has no room for the number and takes infinity for it. -/
def isInfinite (d : Dyadic64) : Bool :=
  971 < d.exponent

end Dyadic64

/-- The exponent at which `num / den` has a mantissa of 53 bits, or the least one of the format. -/
def exponentFor (num den : Nat) : Int :=
  let guess : Int := (num.log2 : Int) - den.log2 - 52
  -- The guess is exact or one too high.
  let scaled := num * Nat.pow 2 (-guess).toNat
  let exact :=
    if scaled < Nat.pow 2 52 * (den * Nat.pow 2 guess.toNat) then guess - 1 else guess
  max exact (-1074)

/-- The magnitude nearest to `num / den`. -/
def nearest (num den : Nat) : Dyadic64 :=
  if num = 0 then ⟨0, -1074⟩
  else
    let exponent := exponentFor num den
    let mantissa :=
      halfEven (num * Nat.pow 2 (-exponent).toNat) (den * Nat.pow 2 exponent.toNat)
    if mantissa < Nat.pow 2 53 then ⟨mantissa, exponent⟩ else ⟨Nat.pow 2 52, exponent + 1⟩

/-- A value of the format. -/
inductive Binary64 where
  /-- A number, which may be a zero of either sign. -/
  | finite (negative : Bool) (magnitude : Dyadic64)
  /-- An infinity. -/
  | infinity (negative : Bool)
  /-- Not a number. -/
  | nan
deriving DecidableEq, Repr

/-- The value nearest to `digits · 10 ^ scale`, with the given sign. -/
def Binary64.ofDecimal (negative : Bool) (digits : Nat) (scale : Int) : Binary64 :=
  let places : Int := (Nat.toDigits 10 digits).length
  -- Beyond these bounds the power of ten alone decides.
  if digits = 0 ∨ scale + places < -330 then .finite negative ⟨0, -1074⟩
  else if 310 < scale + places then .infinity negative
  else
    let magnitude := nearest (digits * Nat.pow 10 scale.toNat) (Nat.pow 10 (-scale).toNat)
    if magnitude.isInfinite then .infinity negative else .finite negative magnitude

example : nearest 1 10 = ⟨0x1999999999999A, -56⟩ := by decide

example : nearest (2 ^ 64 - 1) 1 = ⟨2 ^ 52, 12⟩ := by decide

end Numeric

end CommandFront
