import CommandFront.Numeric.ByteSize
import CommandFront.Proofs.Rounding

/-!
# The unit of a byte count, and its tenths

The unit is found by logarithms of binary64 and the tenths by its divisions and products. Both come
near to what the exact quotient says.

The logarithm shows only in where the unit changes, and that is a little below a power of a thousand
or at it. So the exact quotient in the unit that is taken is at least one half, and for the counts
of a machine word it is less than a thousand. The count, the quotient and its tenfold are each
rounded once to binary64, and a last time to a whole number; the bound on the error is made of these
four.

- `ByteSize.IsUnitOf`: the unit of a count, by exact powers of a thousand.
- `ByteSize.exponent_spec`: the unit that is taken is that one, or the next one for a count that is
  just below it.
- `ByteSize.quotient`: the exact count in the unit that is taken.
- `ByteSize.scaledError`: the error of the tenths as a whole number.
- `ByteSize.tenths_error`, `ByteSize.tenths_error_of_lt`: the tenths are the nearest ones, but for
  three roundings to binary64, which do not show below `2 ^ 51`.
-/

namespace CommandFront

namespace Numeric

namespace ByteSize

variable {bytes e : ℕ}

/-! ## The unit -/

/-- The unit of a count is the largest that is not above it. -/
def IsUnitOf (bytes e : ℕ) : Prop :=
  e ≤ 6 ∧ 1000 ^ e ≤ bytes ∧ ∀ k ≤ 6, 1000 ^ k ≤ bytes → k ≤ e

/-- A count has one unit. -/
theorem IsUnitOf.unique {e' : ℕ} (h : IsUnitOf bytes e) (h' : IsUnitOf bytes e') : e = e' :=
  Nat.le_antisymm (h'.2.2 e h.1 h.2.1) (h.2.2 e' h'.1 h'.2.1)

theorem isUnitOf_of_lt (he : e ≤ 6) (hle : 1000 ^ e ≤ bytes)
    (hlt : e < 6 → bytes < 1000 ^ (e + 1)) : IsUnitOf bytes e := by
  refine ⟨he, hle, fun k hk hpow => ?_⟩
  by_contra hek
  have hmono : 1000 ^ (e + 1) ≤ 1000 ^ k := Nat.pow_le_pow_right (by decide) (by omega)
  have hbelow := hlt (by omega)
  omega

/-- In an ascending list, the numbers that are counted stand in front. -/
theorem getElem_le_iff_lt_countP {l : List ℕ} (hsorted : l.Pairwise (· ≤ ·)) (n : ℕ) {i : ℕ}
    (hi : i < l.length) : l[i] ≤ n ↔ i < l.countP (· ≤ n) := by
  induction l generalizing i with
  | nil => exact absurd hi (Nat.not_lt_zero i)
  | cons a l ih =>
    obtain ⟨ha, hl⟩ := List.pairwise_cons.mp hsorted
    by_cases han : a ≤ n
    · rw [List.countP_cons_of_pos (by simpa using han)]
      cases i with
      | zero => simpa using han
      | succ i => simpa using ih hl (Nat.lt_of_succ_lt_succ hi)
    · have hnone : l.countP (· ≤ n) = 0 := by
        rw [List.countP_eq_zero]
        intro b hb
        have hab := ha b hb
        simp only [decide_eq_true_eq]
        omega
      rw [List.countP_cons_of_neg (by simpa using han), hnone]
      cases i with
      | zero => simpa using han
      | succ i =>
        have hi' : i < l.length := Nat.lt_of_succ_lt_succ hi
        have hab := ha l[i] (List.getElem_mem hi')
        simp only [List.getElem_cons_succ]
        omega

/-- A threshold is not above a count exactly if the exponent of the count is beyond its place. -/
theorem threshold_le_iff (bytes : ℕ) (i : Fin 6) : thresholds[i] ≤ bytes ↔ i < exponent bytes :=
  getElem_le_iff_lt_countP (by decide) bytes i.isLt

/-- A threshold is at most its unit and at most a part in `10 ^ 14` below it. -/
theorem threshold_near (i : Fin 6) :
    1000 ^ (i : ℕ) ≤ thresholds[i] ∧ thresholds[i] ≤ 1000 ^ (i + 1 : ℕ)
      ∧ 10 ^ 14 * 1000 ^ (i + 1 : ℕ) ≤ (10 ^ 14 + 1) * thresholds[i] := by
  revert i
  decide

/-- The unit that is taken is the unit of the count, or the next one if the count is just below
that. -/
theorem exponent_spec (hpos : 0 < bytes) :
    IsUnitOf bytes (exponent bytes)
      ∨ ∃ e < 6, exponent bytes = e + 1 ∧ IsUnitOf bytes e ∧ bytes < 1000 ^ (e + 1)
          ∧ 10 ^ 14 * 1000 ^ (e + 1) ≤ (10 ^ 14 + 1) * bytes := by
  have hle := exponent_le bytes
  have hbelow : ∀ i : Fin 6, exponent bytes ≤ i → bytes < 1000 ^ (i + 1 : ℕ) := fun i hi => by
    have hlt := mt (threshold_le_iff bytes i).mp (Nat.not_lt.mpr hi)
    have hnear := (threshold_near i).2.1
    omega
  by_cases hunit : 1000 ^ exponent bytes ≤ bytes
  · exact .inl (isUnitOf_of_lt hle hunit fun h => hbelow ⟨exponent bytes, h⟩ le_rfl)
  · right
    obtain ⟨e, he⟩ : ∃ e, exponent bytes = e + 1 := by
      refine Nat.exists_eq_succ_of_ne_zero fun hzero => hunit ?_
      rw [hzero, pow_zero]
      exact hpos
    rw [he] at hunit hle
    have hthreshold : thresholds[(⟨e, hle⟩ : Fin 6)] ≤ bytes :=
      (threshold_le_iff bytes ⟨e, hle⟩).mpr (by rw [he]; exact Nat.lt_succ_self e)
    obtain ⟨hlow, -, hnear⟩ := threshold_near ⟨e, hle⟩
    refine ⟨e, hle, he, ?_, Nat.lt_of_not_le hunit, ?_⟩
    · exact isUnitOf_of_lt (Nat.le_of_succ_le hle) (hlow.trans hthreshold)
        fun _ => Nat.lt_of_not_le hunit
    · exact hnear.trans (Nat.mul_le_mul_left _ hthreshold)

/-! ## The tenths -/

/-- The count in the unit that is taken for it. -/
def quotient (bytes : ℕ) : ℚ :=
  bytes / 1000 ^ exponent bytes

theorem half_le_quotient (hpos : 0 < bytes) : 1 / 2 ≤ quotient bytes := by
  have hpow : (0 : ℚ) < 1000 ^ exponent bytes := by positivity
  rw [quotient, le_div_iff₀ hpow]
  obtain h | ⟨e, -, he, -, -, hnear⟩ := exponent_spec hpos
  · have hle : (1000 : ℚ) ^ exponent bytes ≤ bytes := by exact_mod_cast h.2.1
    linarith
  · have hnear' : (10 : ℚ) ^ 14 * 1000 ^ exponent bytes ≤ (10 ^ 14 + 1) * bytes := by
      rw [he]
      exact_mod_cast hnear
    linarith

theorem quotient_lt (hpos : 0 < bytes) (hword : bytes < 2 ^ 64) : quotient bytes < 1000 := by
  have hpow : (0 : ℚ) < 1000 ^ exponent bytes := by positivity
  rw [quotient, div_lt_iff₀ hpow]
  suffices h : bytes < 1000 * 1000 ^ exponent bytes by exact_mod_cast h
  obtain h | ⟨e, -, he, -, hlt, -⟩ := exponent_spec hpos
  · obtain hsix | hsix := Nat.lt_or_ge (exponent bytes) 6
    · by_contra hge
      have hnext := h.2.2 (exponent bytes + 1) hsix (by rw [pow_succ']; exact Nat.not_lt.mp hge)
      omega
    · rw [Nat.le_antisymm (exponent_le bytes) hsix]
      omega
  · rw [he]
    omega

/-- The tenths are those of the quotient, with a part in `2 ^ 51` for the operations of
binary64. -/
theorem tenths_error (hpos : 0 < bytes) :
    |(tenths bytes : ℚ) - quotient bytes * 10| ≤ 1 / 2 + quotient bytes * 10 / 2 ^ 51 := by
  have hlarge := half_le_quotient hpos
  have hbytes : (1 : ℚ) ≤ bytes := by exact_mod_cast hpos
  have hpow : 0 < Nat.pow 1000 (exponent bytes) := Nat.pow_pos (by decide)
  -- The count, its quotient and the tenfold of that, each rounded once more.
  obtain ⟨count, hcount⟩ : ∃ count, count = nearest bytes 1 := ⟨_, rfl⟩
  obtain ⟨quot, hquot⟩ : ∃ quot,
    quot = nearest count.num (count.den * Nat.pow 1000 (exponent bytes)) := ⟨_, rfl⟩
  obtain ⟨tenfold, htenfold⟩ : ∃ tenfold, tenfold = nearest (quot.num * 10) quot.den := ⟨_, rfl⟩
  have htenths : tenths bytes = halfUp tenfold.num tenfold.den := by
    rw [htenfold, hquot, hcount, tenths]
  have h₁ : Rounded 1 bytes count.value := by
    rw [hcount]
    have hexact := Rounded.refl bytes
    exact hexact.nearest (by simp) Nat.one_pos (hexact.normal (by decide) (by linarith))
  have h₂ : Rounded 2 (quotient bytes) quot.value := by
    have hscaled := h₁.scale (c := (1000 ^ exponent bytes)⁻¹) (by positivity)
    rw [← div_eq_mul_inv, ← quotient] at hscaled
    rw [hquot]
    refine hscaled.nearest ?_ (Nat.mul_pos count.den_pos hpow)
      (hscaled.normal (by decide) hlarge)
    rw [Nat.cast_mul, ← div_div, ← Dyadic64.value, div_eq_mul_inv]
    norm_cast
  have h₃ : Rounded 3 (quotient bytes * 10) tenfold.value := by
    have hscaled := h₂.scale (c := 10) (by norm_num)
    rw [htenfold]
    refine hscaled.nearest ?_ quot.den_pos (hscaled.normal (by decide) (by linarith))
    rw [Nat.cast_mul, mul_div_right_comm, ← Dyadic64.value]
    norm_num
  have hfloat := h₃.error_le le_rfl (by linarith)
  have hhalf := halfUp_error tenfold.num tenfold.den_pos
  have htriangle := abs_sub_le (tenths bytes : ℚ) tenfold.value (quotient bytes * 10)
  rw [← htenths] at hhalf
  rw [Dyadic64.value] at hfloat htriangle
  linarith

/-- Twice the error of the tenths, counted in tenths of a byte. -/
def scaledError (bytes : ℕ) : ℤ :=
  2 * (tenths bytes * 1000 ^ exponent bytes) - 20 * bytes

theorem abs_scaledError (bytes : ℕ) : |(scaledError bytes : ℚ)|
    = |(tenths bytes : ℚ) - quotient bytes * 10| * (2 * 1000 ^ exponent bytes) := by
  have hunit : (0 : ℚ) < 2 * 1000 ^ exponent bytes := by positivity
  have hscaled : (scaledError bytes : ℚ)
      = (tenths bytes - quotient bytes * 10) * (2 * 1000 ^ exponent bytes) := by
    rw [scaledError, quotient]
    push_cast
    field_simp
    ring
  rw [hscaled, abs_mul, abs_of_pos hunit]

theorem abs_scaledError_le (hpos : 0 < bytes) :
    |(scaledError bytes : ℚ)| ≤ 1000 ^ exponent bytes + 20 * bytes / 2 ^ 51 := by
  have hunit : (0 : ℚ) < 2 * 1000 ^ exponent bytes := by positivity
  rw [abs_scaledError]
  calc |(tenths bytes : ℚ) - quotient bytes * 10| * (2 * 1000 ^ exponent bytes)
      ≤ (1 / 2 + quotient bytes * 10 / 2 ^ 51) * (2 * 1000 ^ exponent bytes) :=
        mul_le_mul_of_nonneg_right (tenths_error hpos) hunit.le
    _ = 1000 ^ exponent bytes + 20 * bytes / 2 ^ 51 := by
        rw [quotient]
        field_simp
        ring

/-- The error is a whole number, and above single bytes a multiple of twenty, as the unit is. An
excess of less than that is none. -/
theorem abs_scaledError_le_of_lt (hpos : 0 < bytes) (hlt : bytes < 2 ^ 51) :
    |scaledError bytes| ≤ 1000 ^ exponent bytes := by
  have hsmall : (bytes : ℚ) < 2 ^ 51 := by exact_mod_cast hlt
  have hfloat := abs_scaledError_le hpos
  have herror : scaledError bytes = 2 * (tenths bytes * 1000 ^ exponent bytes) - 20 * bytes := rfl
  generalize scaledError bytes = error at hfloat herror ⊢
  cases hexponent : exponent bytes with
  | zero =>
    have hthousand : bytes < 1000 := by
      have h := mt (threshold_le_iff bytes 0).mp (by rw [hexponent]; exact Nat.lt_irrefl 0)
      exact Nat.not_le.mp h
    have hthousand' : (bytes : ℚ) < 1000 := by exact_mod_cast hthousand
    rw [hexponent, pow_zero] at hfloat herror
    have htwo : |error| < 2 := by
      suffices h : |(error : ℚ)| < 2 by exact_mod_cast h
      linarith
    have hzero : error = 0 := by
      rw [abs_lt] at htwo
      omega
    rw [hzero]
    decide
  | succ k =>
    have htwenty : (1000 : ℤ) ^ (k + 1) = 20 * (50 * 1000 ^ k) := by ring
    rw [hexponent] at hfloat herror
    have hslack : |error| < 1000 ^ (k + 1) + 20 := by
      suffices h : |(error : ℚ)| < 1000 ^ (k + 1) + 20 by exact_mod_cast h
      linarith
    have hmultiple : error = 20 * (2 * (tenths bytes * (50 * 1000 ^ k)) - bytes) := by
      rw [herror, htwenty]
      ring
    rw [abs_lt] at hslack
    rw [abs_le]
    omega

/-- Below `2 ^ 51` binary64 does not show in the tenths. -/
theorem tenths_error_of_lt (hpos : 0 < bytes) (hlt : bytes < 2 ^ 51) :
    |(tenths bytes : ℚ) - quotient bytes * 10| ≤ 1 / 2 := by
  have hunit : (0 : ℚ) < 2 * 1000 ^ exponent bytes := by positivity
  have hexact : |(scaledError bytes : ℚ)| ≤ 1000 ^ exponent bytes := by
    exact_mod_cast abs_scaledError_le_of_lt hpos hlt
  rw [abs_scaledError, ← le_div_iff₀ hunit] at hexact
  refine hexact.trans_eq ?_
  field_simp

end ByteSize

end Numeric

end CommandFront
