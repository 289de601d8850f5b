import Mathlib.Algebra.Order.Field.Power
import Mathlib.Data.Nat.Cast.Order.Field
import Mathlib.Tactic.FieldSimp
import Mathlib.Tactic.GCongr
import Mathlib.Tactic.Linarith
import Mathlib.Tactic.NormNum
import Mathlib.Tactic.Positivity
import Mathlib.Tactic.Ring
import CommandFront.Numeric.Binary64

/-!
# How far roundings go

The magnitudes of binary64 are rationals, and so are the errors of the operations on them.

An operation of binary64 is the exact operation and one rounding after it. In the normal range a
rounding moves a number by at most its part in `2 ^ 53`, so several of them move it by about as many
parts; the bound that is carried along is that of repeated roundings, and three of them are less
than a part in `2 ^ 51`. That a result is in the normal range again, so that the next rounding can
be bounded too, is a consequence of the bound so far.

- `halfEven_error`, `halfUp_error`: rounding to an integer moves a number by at most a half.
- `Dyadic64.value`: the magnitude as a rational, and `Dyadic64.value_eq` its two factors.
- `exponentFor_spec`: at the exponent that is taken for it, a number has a mantissa of 53 bits.
- `nearest_error`: a number in the normal range moves by at most its part in `2 ^ 53`.
- `Rounded`, `Rounded.nearest`: a number after several roundings with exact operations in between.
-/

namespace CommandFront

namespace Numeric

/-! ## Rounding to an integer -/

/-- An integer whose multiple is next to the numerator is next to the quotient. -/
theorem abs_sub_div_le_half {n num den : ℕ} (hden : 0 < den) (hle : 2 * (n * den) ≤ 2 * num + den)
    (hge : 2 * num ≤ 2 * (n * den) + den) : |(n : ℚ) - num / den| ≤ 1 / 2 := by
  have hpos : (0 : ℚ) < den := by exact_mod_cast hden
  have hle' : 2 * ((n : ℚ) * den) ≤ 2 * num + den := by exact_mod_cast hle
  have hge' : 2 * (num : ℚ) ≤ 2 * (n * den) + den := by exact_mod_cast hge
  have hscale : (n : ℚ) - num / den = (n * den - num) / den := by field_simp
  rw [hscale, abs_div, abs_of_pos hpos, div_le_iff₀ hpos, abs_le]
  constructor <;> linarith

/-- A half goes to either side, so what is known of both is only that they are near. -/
theorem halfEven_cases (num den : ℕ) :
    (halfEven num den = num / den ∧ 2 * (num % den) ≤ den)
      ∨ (halfEven num den = num / den + 1 ∧ den ≤ 2 * (num % den)) := by
  simp only [halfEven]
  split_ifs <;> omega

theorem halfEven_error (num : ℕ) {den : ℕ} (hden : 0 < den) :
    |(halfEven num den : ℚ) - num / den| ≤ 1 / 2 := by
  have hsplit : num / den * den + num % den = num := Nat.div_add_mod' num den
  have hmod : num % den < den := Nat.mod_lt num hden
  obtain ⟨hdown, hrest⟩ | ⟨hup, hrest⟩ := halfEven_cases num den
  · rw [hdown]
    exact abs_sub_div_le_half hden (by omega) (by omega)
  · have hnext : (num / den + 1) * den = num / den * den + den := Nat.succ_mul _ _
    rw [hup]
    exact abs_sub_div_le_half hden (by omega) (by omega)

theorem halfUp_error (num : ℕ) {den : ℕ} (hden : 0 < den) :
    |(halfUp num den : ℚ) - num / den| ≤ 1 / 2 := by
  have hsplit := Nat.div_add_mod' (2 * num + den) (2 * den)
  have hmod : (2 * num + den) % (2 * den) < 2 * den := Nat.mod_lt _ (by omega)
  have hassoc : halfUp num den * (2 * den) = 2 * (halfUp num den * den) := by ring
  rw [← halfUp, hassoc] at hsplit
  exact abs_sub_div_le_half hden (by omega) (by omega)

/-! ## Magnitudes -/

theorem cast_two_pow (k : ℕ) : ((Nat.pow 2 k : ℕ) : ℚ) = 2 ^ k :=
  Nat.cast_pow 2 k

/-- A power of two moves the exponent. -/
theorem two_pow_mul_zpow (k : ℕ) (e : ℤ) : (2 : ℚ) ^ k * 2 ^ e = 2 ^ ((k : ℤ) + e) := by
  rw [zpow_add₀ two_ne_zero, zpow_natCast]

/-- The positive part of a power of two against its negative part. -/
theorem two_pow_toNat (e : ℤ) : (2 : ℚ) ^ e.toNat = 2 ^ e * 2 ^ (-e).toNat := by
  rw [← zpow_natCast, ← zpow_natCast, ← zpow_add₀ two_ne_zero]
  congr 1
  omega

/-- The magnitude as a rational. -/
def Dyadic64.value (d : Dyadic64) : ℚ :=
  d.num / d.den

/-- The value is the mantissa times a power of two, which may be a fraction. -/
theorem Dyadic64.value_eq (d : Dyadic64) : d.value = d.mantissa * 2 ^ d.exponent := by
  rw [value, div_eq_iff (by exact_mod_cast d.den_pos.ne'), num, den, Nat.cast_mul, cast_two_pow,
    cast_two_pow, two_pow_toNat, mul_assoc]

/-- A quotient whose parts are scaled by the powers of an exponent is scaled by the exponent. -/
theorem scaled_div (num den : ℕ) (e : ℤ) :
    ((num * Nat.pow 2 (-e).toNat : ℕ) : ℚ) / (den * Nat.pow 2 e.toNat : ℕ)
      = num / den / 2 ^ e := by
  have hpos : (0 : ℚ) < 2 ^ (-e).toNat := by positivity
  rw [Nat.cast_mul, Nat.cast_mul, cast_two_pow, cast_two_pow, two_pow_toNat e,
    ← mul_assoc, mul_div_mul_right _ _ hpos.ne', div_div]

variable {num den : ℕ}

/-- The exponent that is tried first is exact or one too high. -/
theorem guess_spec (hnum : 0 < num) (hden : 0 < den) :
    (2 : ℚ) ^ ((num.log2 : ℤ) - den.log2 - 1) ≤ num / den
      ∧ (num : ℚ) / den < 2 ^ ((num.log2 : ℤ) - den.log2 + 1) := by
  have hpos : (0 : ℚ) < den := by exact_mod_cast hden
  have hnum₁ : (2 : ℚ) ^ num.log2 ≤ num := by exact_mod_cast Nat.log2_self_le hnum.ne'
  have hnum₂ : (num : ℚ) < 2 ^ (num.log2 + 1) := by exact_mod_cast Nat.lt_log2_self
  have hden₁ : (2 : ℚ) ^ den.log2 ≤ den := by exact_mod_cast Nat.log2_self_le hden.ne'
  have hden₂ : (den : ℚ) < 2 ^ (den.log2 + 1) := by exact_mod_cast Nat.lt_log2_self
  generalize num.log2 = a at hnum₁ hnum₂ ⊢
  generalize den.log2 = b at hden₁ hden₂ ⊢
  constructor
  · rw [le_div_iff₀ hpos]
    calc (2 : ℚ) ^ ((a : ℤ) - b - 1) * den ≤ 2 ^ ((a : ℤ) - b - 1) * 2 ^ (b + 1) := by gcongr
      _ = 2 ^ a := by
          rw [← zpow_natCast, ← zpow_natCast, ← zpow_add₀ two_ne_zero]
          congr 1
          omega
      _ ≤ num := hnum₁
  · rw [div_lt_iff₀ hpos]
    calc (num : ℚ) < 2 ^ (a + 1) := hnum₂
      _ = 2 ^ ((a : ℤ) - b + 1) * 2 ^ b := by
          rw [← zpow_natCast, ← zpow_natCast, ← zpow_add₀ two_ne_zero]
          congr 1
          omega
      _ ≤ 2 ^ ((a : ℤ) - b + 1) * den := by gcongr

/-- Whether a quotient is below a power of two times a number, in whole numbers. -/
theorem lt_scaled_iff (num : ℕ) (hden : 0 < den) (k : ℕ) (e : ℤ) :
    num * Nat.pow 2 (-e).toNat < k * (den * Nat.pow 2 e.toNat)
      ↔ (num : ℚ) / den < k * 2 ^ e := by
  have hpos : (0 : ℚ) < (den * Nat.pow 2 e.toNat : ℕ) := by
    exact_mod_cast Nat.mul_pos hden (Nat.two_pow_pos _)
  rw [← div_lt_iff₀ (by positivity : (0 : ℚ) < 2 ^ e), ← scaled_div, div_lt_iff₀ hpos]
  norm_cast

/-- The comparison decides between the exponent that is tried first and the one below it. -/
theorem exists_exponentFor (hnum : 0 < num) (hden : 0 < den) :
    ∃ e : ℤ, exponentFor num den = max e (-1074)
      ∧ 2 ^ 52 * (2 : ℚ) ^ e ≤ num / den ∧ (num : ℚ) / den < 2 ^ 53 * 2 ^ e := by
  obtain ⟨hlow, hhigh⟩ := guess_spec hnum hden
  obtain ⟨guess, hguess⟩ : ∃ guess : ℤ, guess = (num.log2 : ℤ) - den.log2 - 52 := ⟨_, rfl⟩
  have hcmp := lt_scaled_iff num hden (Nat.pow 2 52) guess
  rw [cast_two_pow] at hcmp
  by_cases h : num * Nat.pow 2 (-guess).toNat < Nat.pow 2 52 * (den * Nat.pow 2 guess.toNat)
  · refine ⟨guess - 1, ?_, ?_, ?_⟩
    · simp only [exponentFor, ← hguess]
      rw [if_pos h]
    · rw [two_pow_mul_zpow]
      convert hlow using 2
      push_cast
      omega
    · have h' := hcmp.mp h
      rw [two_pow_mul_zpow] at h' ⊢
      convert h' using 2
      push_cast
      omega
  · refine ⟨guess, ?_, ?_, ?_⟩
    · simp only [exponentFor, ← hguess]
      rw [if_neg h]
    · exact not_lt.mp (fun hlt => h (hcmp.mpr hlt))
    · rw [two_pow_mul_zpow]
      convert hhigh using 2
      push_cast
      omega

section Normal

variable (hden : 0 < den) (hnormal : (2 : ℚ) ^ (-1022 : ℤ) ≤ num / den)

include hnormal

theorem num_pos_of_normal : 0 < num := by
  by_contra h
  have hzero : (num : ℚ) = 0 := by exact_mod_cast Nat.eq_zero_of_not_pos h
  rw [hzero, zero_div] at hnormal
  exact absurd hnormal (not_le.mpr (by positivity))

include hden

/-- At its exponent, a number of the normal range has a mantissa of 53 bits. -/
theorem exponentFor_spec : 2 ^ 52 * (2 : ℚ) ^ exponentFor num den ≤ num / den
    ∧ (num : ℚ) / den < 2 ^ 53 * 2 ^ exponentFor num den := by
  obtain ⟨e, heq, hle, hlt⟩ := exists_exponentFor (num_pos_of_normal hnormal) hden
  -- In the normal range the least exponent of the format does not come into play.
  have hlow : (-1022 : ℤ) < 53 + e := by
    rw [two_pow_mul_zpow] at hlt
    exact (zpow_lt_zpow_iff_right₀ one_lt_two).mp (lt_of_le_of_lt hnormal (by exact_mod_cast hlt))
  rw [heq, max_eq_left (by omega)]
  exact ⟨hle, hlt⟩

/-- The mantissa may be a power of two too large, which the exponent then takes up. -/
theorem nearest_value :
    ∃ m : ℕ, (nearest num den).value = m * 2 ^ exponentFor num den
      ∧ |(m : ℚ) - num / den / 2 ^ exponentFor num den| ≤ 1 / 2 := by
  have hlt := (exponentFor_spec hden hnormal).2
  rw [nearest, if_neg (num_pos_of_normal hnormal).ne']
  dsimp only
  generalize exponentFor num den = e at hlt ⊢
  have hscaled : 0 < den * Nat.pow 2 e.toNat := Nat.mul_pos hden (Nat.two_pow_pos _)
  have herror := halfEven_error (num * Nat.pow 2 (-e).toNat) hscaled
  rw [scaled_div] at herror
  generalize halfEven (num * Nat.pow 2 (-e).toNat) (den * Nat.pow 2 e.toNat) = m at herror ⊢
  refine ⟨m, ?_, herror⟩
  split_ifs with hm
  · exact Dyadic64.value_eq ⟨m, e⟩
  · have hlarge : (m : ℚ) < 2 ^ 53 + 1 := by
      have hquotient : (num : ℚ) / den / 2 ^ e < 2 ^ 53 :=
        (div_lt_iff₀ (by positivity)).mpr hlt
      have hright := (abs_le.mp herror).2
      linarith
    have heq : m = Nat.pow 2 53 := by
      have hlarge' : m < Nat.pow 2 53 + 1 := by exact_mod_cast hlarge
      omega
    rw [Dyadic64.value_eq, heq, cast_two_pow, cast_two_pow, zpow_add_one₀ two_ne_zero]
    ring

/-- One rounding moves a number of the normal range by at most its part in `2 ^ 53`. -/
theorem nearest_error :
    |(nearest num den).value - num / den| ≤ num / den / 2 ^ 53 := by
  obtain ⟨m, hvalue, herror⟩ := nearest_value hden hnormal
  have hle := (exponentFor_spec hden hnormal).1
  rw [hvalue]
  generalize exponentFor num den = e at herror hle ⊢
  have hpos : (0 : ℚ) < 2 ^ e := by positivity
  calc |(m : ℚ) * 2 ^ e - num / den|
      = |(m : ℚ) - num / den / 2 ^ e| * 2 ^ e := by
        rw [← abs_of_pos hpos, ← abs_mul, abs_of_pos hpos, sub_mul, div_mul_cancel₀ _ hpos.ne']
    _ ≤ 1 / 2 * 2 ^ e := by gcongr
    _ = 2 ^ 52 * 2 ^ e / 2 ^ 53 := by ring
    _ ≤ num / den / 2 ^ 53 := by gcongr

end Normal

/-! ## Several roundings -/

/-- The number `y` may be what becomes of `x` by `k` roundings. -/
def Rounded (k : ℕ) (x y : ℚ) : Prop :=
  |y - x| ≤ ((1 + 1 / 2 ^ 53) ^ k - 1) * x

namespace Rounded

variable {k : ℕ} {x y : ℚ}

theorem refl (x : ℚ) : Rounded 0 x x := by
  simp [Rounded]

/-- An exact product is not rounded. -/
theorem scale {c : ℚ} (hc : 0 ≤ c) (h : Rounded k x y) : Rounded k (x * c) (y * c) := by
  rw [Rounded, ← sub_mul, abs_mul, abs_of_nonneg hc, ← mul_assoc]
  exact mul_le_mul_of_nonneg_right h hc

/-- The error of a rounding comes on top of the error there is. -/
theorem nearest (h : Rounded k x y) (hy : (num : ℚ) / den = y) (hden : 0 < den)
    (hnormal : (2 : ℚ) ^ (-1022 : ℤ) ≤ y) : Rounded (k + 1) x (nearest num den).value := by
  subst hy
  have hstep := nearest_error hden hnormal
  have hright := (abs_le.mp h).2
  have htriangle := abs_sub_le (Numeric.nearest num den).value (num / den) x
  have hle : (num : ℚ) / den ≤ (1 + 1 / 2 ^ 53) ^ k * x := by linarith
  rw [Rounded] at h ⊢
  calc |(Numeric.nearest num den).value - x|
      ≤ num / den / 2 ^ 53 + ((1 + 1 / 2 ^ 53) ^ k - 1) * x := by linarith
    _ ≤ (1 + 1 / 2 ^ 53) ^ k * x / 2 ^ 53 + ((1 + 1 / 2 ^ 53) ^ k - 1) * x := by gcongr
    _ = ((1 + 1 / 2 ^ 53) ^ (k + 1) - 1) * x := by ring

/-- Three roundings move a number by less than its part in `2 ^ 51`. -/
theorem error_le (h : Rounded k x y) (hk : k ≤ 3) (hx : 0 ≤ x) : |y - x| ≤ x / 2 ^ 51 := by
  have hpow : (1 + 1 / 2 ^ 53 : ℚ) ^ k ≤ (1 + 1 / 2 ^ 53) ^ 3 :=
    pow_le_pow_right₀ (by norm_num) hk
  have hconst : (1 + 1 / 2 ^ 53 : ℚ) ^ 3 - 1 ≤ 1 / 2 ^ 51 := by norm_num
  calc |y - x| ≤ ((1 + 1 / 2 ^ 53) ^ k - 1) * x := h
    _ ≤ 1 / 2 ^ 51 * x := mul_le_mul_of_nonneg_right (by linarith) hx
    _ = x / 2 ^ 51 := by ring

/-- A number of a half or more stays in the normal range. -/
theorem normal (h : Rounded k x y) (hk : k ≤ 3) (hx : 1 / 2 ≤ x) :
    (2 : ℚ) ^ (-1022 : ℤ) ≤ y := by
  have hleft := (abs_le.mp (h.error_le hk (by linarith))).1
  have hquarter : (2 : ℚ) ^ (-1022 : ℤ) ≤ 2 ^ (-2 : ℤ) :=
    zpow_le_zpow_right₀ one_le_two (by norm_num)
  calc (2 : ℚ) ^ (-1022 : ℤ) ≤ 2 ^ (-2 : ℤ) := hquarter
    _ ≤ x - x / 2 ^ 51 := by norm_num; linarith
    _ ≤ y := by linarith

end Rounded

end Numeric

end CommandFront
