import CommandFront.Numeric.Binary64

/-!
# Byte counts for people

- `ByteSize.exponent b`: the power of a thousand that the unit of `b` stands for.
- `ByteSize.tenths b`: the count in that unit, rounded to tenths.
- `ByteSize.text b`: the count with its unit, as in `82 MB` or `1.5 kB`: one decimal below ten
  and none from ten on.

The arithmetic is that of binary64, step by step, so a count just below a power of a thousand
may already take the next unit, and a half may fall either way.
-/

namespace CommandFront

namespace Numeric

namespace ByteSize

/-- The units, each a thousand times the one before. -/
def units : List String :=
  ["B", "kB", "MB", "GB", "TB", "PB", "EB"]

/-- For each unit after the first, the least count whose common logarithm is that of the unit or
more, as the platform computes logarithms in binary64. That is not always the correctly rounded one:
the logarithm of the last of these counts is 18 on the platform, and correctly rounded it is the
number before 18. -/
def thresholds : List Nat :=
  [1000, 1000000, 1000000000, 1000000000000, 999999999999998, 999999999999995840]

/-- The power of a thousand that the unit of a count stands for. -/
def exponent (bytes : Nat) : Nat :=
  thresholds.countP (· ≤ bytes)

theorem exponent_le (bytes : Nat) : exponent bytes ≤ 6 :=
  List.countP_le_length

/-- The count in its unit, in tenths: the quotient and its tenfold are rounded to binary64, and the
result to the nearest integer, a half going up. -/
def tenths (bytes : Nat) : Nat :=
  let count := nearest bytes 1
  let quotient := nearest count.num (count.den * Nat.pow 1000 (exponent bytes))
  let tenfold := nearest (quotient.num * 10) quotient.den
  halfUp tenfold.num tenfold.den

/-- The number that is shown before the unit. -/
def figure (tenths : Nat) : String :=
  if tenths < 100 then toString (tenths / 10) ++ "." ++ toString (tenths % 10)
  else toString (halfEven tenths 10)

/-- The count with its unit. -/
def text (bytes : Nat) : String :=
  if bytes < 10 then toString bytes ++ " B"
  else figure (tenths bytes) ++ " " ++ units.getD (exponent bytes) ""

example : text 1500 = "1.5 kB" := by decide

example : text 82854982 = "83 MB" := by decide

end ByteSize

end Numeric

end CommandFront
