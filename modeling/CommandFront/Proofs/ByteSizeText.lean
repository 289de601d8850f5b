import CommandFront.Proofs.ByteTenths

/-!
# How byte counts are rounded

A count is rounded to tenths of its unit and, from ten units on, the tenths to a whole number. The
second rounding does not know which way the first one went, and a thousand units stay a thousand.

How far a shown number is from the count is a matter of two roundings, and each of them can spoil
the other: a number of tenths that ends in five is rounded to an even whole number, though the count
may lie on the other side of the half. The three ways in which a text is off are named apart, as
`TenthOff`, `RoundedAway` and `Uncarried`, and each is compared with what a reader of the text would
expect.

- `ByteSize.Shown.ofText`: the number and the unit that a text shows.
- `ByteSize.ofText_text`: what the text of a count shows.
- `ByteSize.CorrectlyRounded`: the count in its unit, rounded to the last digit, or one of the next
  unit if rounding carries it there.
- `ByteSize.correctlyRounded_iff`: the three ways in which a text is not correctly rounded.
- `ByteSize.text_correctly_rounded_iff`: these for every count of a machine word, with bounds on how
  far off a text may be.
-/

namespace CommandFront

namespace Numeric

namespace ByteSize

variable {bytes : ℕ}

/-! ## What a text shows -/

/-- A number with its decimal places, and a unit. -/
structure Shown where
  /-- The number without its point. -/
  digits : ℕ
  /-- How many of its digits stand behind the point. -/
  places : ℕ
  /-- The name of the unit. -/
  unit : String
deriving DecidableEq, Repr

namespace Shown

/-- The number that is shown. -/
def number (s : Shown) : ℚ :=
  s.digits / 10 ^ s.places

/-- What the last digit counts. -/
def lastDigit (s : Shown) : ℚ :=
  1 / 10 ^ s.places

/-- The unit that is named behind one blank. -/
def unitOf : List Char → String
  | ' ' :: unit => String.ofList unit
  | _ => ""

/-- What a text shows: digits, which may go on behind a point, and the unit. -/
def ofText (text : String) : Shown :=
  let whole := text.toList.takeWhile Char.isDigit
  match text.toList.dropWhile Char.isDigit with
  | '.' :: rest =>
    let decimals := rest.takeWhile Char.isDigit
    ⟨Nat.ofDigitChars 10 (whole ++ decimals) 0, decimals.length,
      unitOf (rest.dropWhile Char.isDigit)⟩
  | rest => ⟨Nat.ofDigitChars 10 whole 0, 0, unitOf rest⟩

theorem unitOf_blank (unit : String) : unitOf (' ' :: unit.toList) = unit :=
  String.ofList_toList

end Shown

/-- What is shown of a count. -/
def shown (bytes : ℕ) : Shown :=
  let unit := units.getD (exponent bytes) ""
  if tenths bytes < 100 then ⟨tenths bytes, 1, unit⟩ else ⟨halfEven (tenths bytes) 10, 0, unit⟩

section Digits

variable {c : Char} (hc : c.isDigit = false) (n : ℕ) (rest : List Char)

include hc

theorem takeWhile_digits :
    (Nat.toDigits 10 n ++ c :: rest).takeWhile Char.isDigit = Nat.toDigits 10 n := by
  rw [List.takeWhile_append_of_pos fun d hd =>
    Nat.isDigit_of_mem_toDigits (by decide) (by decide) hd,
    List.takeWhile_cons_of_neg (Bool.eq_false_iff.mp hc), List.append_nil]

theorem dropWhile_digits :
    (Nat.toDigits 10 n ++ c :: rest).dropWhile Char.isDigit = c :: rest := by
  rw [List.dropWhile_append_of_pos fun d hd =>
    Nat.isDigit_of_mem_toDigits (by decide) (by decide) hd,
    List.dropWhile_cons_of_neg (Bool.eq_false_iff.mp hc)]

end Digits

/-- What a whole number with a unit shows. -/
theorem ofText_whole (n : ℕ) (unit : String) :
    Shown.ofText (toString n ++ " " ++ unit) = ⟨n, 0, unit⟩ := by
  have hchars : (toString n ++ " " ++ unit).toList = Nat.toDigits 10 n ++ ' ' :: unit.toList := by
    simp
  have hblank : ' '.isDigit = false := by decide
  rw [Shown.ofText, hchars, takeWhile_digits hblank, dropWhile_digits hblank]
  show Shown.mk (Nat.ofDigitChars 10 (Nat.toDigits 10 n) 0) 0 (Shown.unitOf _) = _
  rw [Nat.ofDigitChars_toDigits (by decide) (by decide), Shown.unitOf_blank]

/-- What a number with one decimal and a unit shows. -/
theorem ofText_decimal (n : ℕ) {d : ℕ} (hd : d < 10) (unit : String) :
    Shown.ofText (toString n ++ "." ++ toString d ++ " " ++ unit) = ⟨10 * n + d, 1, unit⟩ := by
  have hchars : (toString n ++ "." ++ toString d ++ " " ++ unit).toList
      = Nat.toDigits 10 n ++ '.' :: (Nat.toDigits 10 d ++ ' ' :: unit.toList) := by
    simp
  have hpoint : '.'.isDigit = false := by decide
  have hblank : ' '.isDigit = false := by decide
  have hvalue : Nat.ofDigitChars 10 (Nat.toDigits 10 n ++ Nat.toDigits 10 d) 0 = 10 * n + d := by
    have hdigit : Nat.ofDigitChars 10 (Nat.toDigits 10 d) 0 = d :=
      Nat.ofDigitChars_toDigits (by decide) (by decide)
    rw [Nat.ofDigitChars_append, Nat.ofDigitChars_toDigits (by decide) (by decide)]
    rw [Nat.toDigits_of_lt_base hd, Nat.ofDigitChars_cons, Nat.ofDigitChars_nil] at hdigit ⊢
    omega
  rw [Shown.ofText, hchars, takeWhile_digits hpoint, dropWhile_digits hpoint]
  show Shown.mk (Nat.ofDigitChars 10 (_ ++ List.takeWhile Char.isDigit (_ ++ _)) 0)
    (List.takeWhile Char.isDigit (_ ++ _)).length
    (Shown.unitOf (List.dropWhile Char.isDigit (_ ++ _))) = _
  rw [takeWhile_digits hblank, dropWhile_digits hblank, hvalue, Shown.unitOf_blank,
    Nat.toDigits_of_lt_base hd]
  rfl

/-- From ten bytes on, the text of a count shows its rounded number. -/
theorem ofText_text (hten : 10 ≤ bytes) : Shown.ofText (text bytes) = shown bytes := by
  have hdigit : tenths bytes % 10 < 10 := Nat.mod_lt _ (by decide)
  rw [text, if_neg (Nat.not_lt.mpr hten), figure, shown]
  split_ifs with ht
  · rw [ofText_decimal _ hdigit, Nat.div_add_mod]
  · exact ofText_whole _ _

/-! ## The shown number -/

/-- A number in a unit is shown as it is correctly rounded: one decimal below ten, none from ten
on, and never a thousand. -/
structure Shown.Rounds (s : Shown) (x : ℚ) (unit : String) : Prop where
  near : |s.number - x| ≤ s.lastDigit / 2
  places : s.places = if s.number < 10 then 1 else 0
  below : s.number < 1000
  unit_eq : s.unit = unit

/-- A count is shown in its unit as it is correctly rounded, or as one of the next unit if rounding
carries it there. -/
def CorrectlyRounded (bytes : ℕ) (s : Shown) : Prop :=
  ∃ e, IsUnitOf bytes e ∧ (s.Rounds (bytes / 1000 ^ e) (units.getD e "")
    ∨ e < 6 ∧ |1000 - (bytes : ℚ) / 1000 ^ e| ≤ 1 / 2 ∧ s = ⟨10, 1, units.getD (e + 1) ""⟩)

/-- The tenths round to a thousand of the unit, which stays as it is. -/
def Uncarried (bytes : ℕ) : Prop :=
  9995 ≤ tenths bytes

/-- The tenths are a half, and rounding them to the even number leads away from the count. -/
def RoundedAway (bytes : ℕ) : Prop :=
  100 ≤ tenths bytes ∧ tenths bytes % 10 = 5
    ∧ if tenths bytes / 10 % 2 = 0 then (tenths bytes : ℚ) < quotient bytes * 10
      else quotient bytes * 10 < tenths bytes

/-- The shown tenths are not the nearest ones. -/
def TenthOff (bytes : ℕ) : Prop :=
  tenths bytes < 100 ∧ 1 / 2 < |(tenths bytes : ℚ) - quotient bytes * 10|

section Decimal

variable (ht : tenths bytes < 100)

include ht

/-- Below ten units the tenths are shown as they are. -/
theorem shown_decimal : shown bytes = ⟨tenths bytes, 1, units.getD (exponent bytes) ""⟩ := by
  rw [shown, if_pos ht]

theorem number_decimal : (shown bytes).number = tenths bytes / 10 := by
  rw [shown_decimal ht, Shown.number, pow_one]

theorem lastDigit_decimal : (shown bytes).lastDigit = 1 / 10 := by
  rw [shown_decimal ht, Shown.lastDigit, pow_one]

theorem number_decimal_lt : (shown bytes).number < 10 := by
  have ht' : (tenths bytes : ℚ) < 100 := by exact_mod_cast ht
  rw [number_decimal ht]
  linarith

/-- Below ten units the number shown is nearest to the count, unless the tenths are off. -/
theorem near_decimal_iff : |(shown bytes).number - quotient bytes| ≤ (shown bytes).lastDigit / 2
    ↔ ¬TenthOff bytes := by
  have hscale : (tenths bytes : ℚ) / 10 - quotient bytes
      = (tenths bytes - quotient bytes * 10) / 10 := by ring
  rw [number_decimal ht, lastDigit_decimal ht, hscale, abs_div, TenthOff,
    not_and, forall_prop_of_true ht, not_lt, abs_of_pos (by norm_num : (0 : ℚ) < 10)]
  constructor <;> intro h <;> linarith

end Decimal

section Whole

variable (ht : 100 ≤ tenths bytes)

include ht

/-- From ten units on the tenths are rounded to a whole number. -/
theorem shown_whole :
    shown bytes = ⟨halfEven (tenths bytes) 10, 0, units.getD (exponent bytes) ""⟩ := by
  rw [shown, if_neg (Nat.not_lt.mpr ht)]

theorem number_whole : (shown bytes).number = halfEven (tenths bytes) 10 := by
  rw [shown_whole ht, Shown.number, pow_zero, div_one]

theorem lastDigit_whole : (shown bytes).lastDigit = 1 := by
  rw [shown_whole ht, Shown.lastDigit, pow_zero, div_one]

end Whole

/-- A number of tenths is a half or less than a half away from the whole number it is rounded to. -/
theorem halfEven_ten (t : ℕ) :
    (t % 10 ≠ 5 ∧ 10 * halfEven t 10 ≤ t + 4 ∧ t ≤ 10 * halfEven t 10 + 4)
      ∨ (t % 10 = 5 ∧ t / 10 % 2 = 0 ∧ t = 10 * halfEven t 10 + 5)
      ∨ (t % 10 = 5 ∧ t / 10 % 2 = 1 ∧ 10 * halfEven t 10 = t + 5) := by
  simp only [halfEven]
  split_ifs <;> omega

/-- From ten units on the number shown is nearest to the count, unless a half went the wrong way. -/
theorem near_whole_iff (hpos : 0 < bytes) (hword : bytes < 2 ^ 64) (ht : 100 ≤ tenths bytes) :
    |(shown bytes).number - quotient bytes| ≤ (shown bytes).lastDigit / 2
      ↔ ¬RoundedAway bytes := by
  have hfloat := tenths_error hpos
  have hlt := quotient_lt hpos hword
  obtain ⟨hleft, hright⟩ := abs_le.mp hfloat
  rw [number_whole ht, lastDigit_whole ht, RoundedAway, abs_le]
  obtain ⟨hne, hle, hge⟩ | ⟨hfive, heven, heq⟩ | ⟨hfive, hodd, heq⟩ := halfEven_ten (tenths bytes)
  · have hle' : 10 * (halfEven (tenths bytes) 10 : ℚ) ≤ tenths bytes + 4 := by exact_mod_cast hle
    have hge' : (tenths bytes : ℚ) ≤ 10 * halfEven (tenths bytes) 10 + 4 := by exact_mod_cast hge
    refine iff_of_true ⟨by linarith, by linarith⟩ ?_
    rintro ⟨-, hfive, -⟩
    exact hne hfive
  · have heq' : (tenths bytes : ℚ) = 10 * halfEven (tenths bytes) 10 + 5 := by exact_mod_cast heq
    rw [if_pos heven, not_and, forall_prop_of_true ht, not_and, forall_prop_of_true hfive, not_lt]
    constructor
    · rintro ⟨h, -⟩
      linarith
    · intro h
      constructor <;> linarith
  · have heq' : 10 * (halfEven (tenths bytes) 10 : ℚ) = tenths bytes + 5 := by exact_mod_cast heq
    rw [if_neg (by omega), not_and, forall_prop_of_true ht, not_and, forall_prop_of_true hfive,
      not_lt]
    constructor
    · rintro ⟨-, h⟩
      linarith
    · intro h
      constructor <;> linarith

/-- A thousand units are shown exactly if the rounding was not carried to the next unit. -/
theorem number_whole_lt_iff (ht : 100 ≤ tenths bytes) :
    (shown bytes).number < 1000 ↔ ¬Uncarried bytes := by
  rw [number_whole ht, Uncarried]
  have hcast : (halfEven (tenths bytes) 10 : ℚ) < 1000 ↔ halfEven (tenths bytes) 10 < 1000 := by
    norm_cast
  rw [hcast]
  obtain h | h | h := halfEven_ten (tenths bytes) <;> omega

/-- The text rounds the count in its own unit, unless one of the three things has happened. -/
theorem rounds_shown_iff (hpos : 0 < bytes) (hword : bytes < 2 ^ 64) :
    (shown bytes).Rounds (quotient bytes) (units.getD (exponent bytes) "")
      ↔ ¬Uncarried bytes ∧ ¬RoundedAway bytes ∧ ¬TenthOff bytes := by
  obtain ht | ht := Nat.lt_or_ge (tenths bytes) 100
  · have hnear := near_decimal_iff ht
    have hlt := number_decimal_lt ht
    constructor
    · rintro ⟨h, -, -, -⟩
      refine ⟨?_, ?_, hnear.mp h⟩
      · rw [Uncarried]
        omega
      · rintro ⟨hge, -⟩
        omega
    · rintro ⟨-, -, h⟩
      refine ⟨hnear.mpr h, ?_, by linarith, ?_⟩
      · rw [if_pos hlt, shown_decimal ht]
      · rw [shown_decimal ht]
  · have hnear := near_whole_iff hpos hword ht
    have hbelow := number_whole_lt_iff ht
    constructor
    · rintro ⟨h, -, hthousand, -⟩
      refine ⟨hbelow.mp hthousand, hnear.mp h, ?_⟩
      rintro ⟨hlt, -⟩
      omega
    · rintro ⟨hcarried, haway, -⟩
      refine ⟨hnear.mpr haway, ?_, hbelow.mpr hcarried, ?_⟩
      · have hten : (10 : ℚ) ≤ (shown bytes).number := by
          have h : 10 ≤ halfEven (tenths bytes) 10 := by
            obtain h | h | h := halfEven_ten (tenths bytes) <;> omega
          rw [number_whole ht]
          exact_mod_cast h
        rw [if_neg (not_lt.mpr hten), shown_whole ht]
      · rw [shown_whole ht]

/-- No unit is called as the next one. -/
theorem units_ne_next (i : Fin 6) :
    units.getD (i : ℕ) "" ≠ units.getD (i + 1 : ℕ) "" := by
  revert i
  decide

/-- A count just below a unit is one of that unit. -/
theorem tenths_of_just_below {e : ℕ} (he : exponent bytes = e + 1) (hlt : bytes < 1000 ^ (e + 1))
    (hnear : 10 ^ 14 * 1000 ^ (e + 1) ≤ (10 ^ 14 + 1) * bytes) (hpos : 0 < bytes) :
    tenths bytes = 10 ∧ ¬TenthOff bytes ∧ |1000 - (bytes : ℚ) / 1000 ^ e| ≤ 1 / 2 := by
  have hunit : (0 : ℚ) < 1000 ^ (e + 1) := by positivity
  have hlt' : (bytes : ℚ) < 1000 ^ (e + 1) := by exact_mod_cast hlt
  have hnear' : (10 : ℚ) ^ 14 * 1000 ^ (e + 1) ≤ (10 ^ 14 + 1) * bytes := by exact_mod_cast hnear
  have hupper : quotient bytes < 1 := by
    rw [quotient, he, div_lt_one hunit]
    exact hlt'
  have hlower : 1 - 1 / 10 ^ 14 ≤ quotient bytes := by
    rw [quotient, he, le_div_iff₀ hunit]
    linarith
  obtain ⟨hleft, hright⟩ := abs_le.mp (tenths_error hpos)
  have hten : tenths bytes = 10 := by
    have hgt : 9 < tenths bytes := by
      suffices h : (9 : ℚ) < tenths bytes by exact_mod_cast h
      linarith
    have hlt : tenths bytes < 11 := by
      suffices h : (tenths bytes : ℚ) < 11 by exact_mod_cast h
      linarith
    omega
  refine ⟨hten, ?_, ?_⟩
  · rw [TenthOff, hten, not_and, not_lt, abs_le]
    intro _
    push_cast
    constructor <;> linarith
  · have hscale : (bytes : ℚ) / 1000 ^ e = 1000 * quotient bytes := by
      rw [quotient, he, pow_succ]
      field_simp
    rw [hscale, abs_le]
    constructor <;> linarith

/-- A text is correctly rounded unless a thousand is left as it is, the tenths round away from the
count, or are not the nearest ones. -/
theorem correctlyRounded_iff (hpos : 0 < bytes) (hword : bytes < 2 ^ 64) :
    CorrectlyRounded bytes (shown bytes)
      ↔ ¬Uncarried bytes ∧ ¬RoundedAway bytes ∧ ¬TenthOff bytes := by
  rw [← rounds_shown_iff hpos hword]
  obtain hunit | ⟨e, hsix, he, hunit, hlt, hnear⟩ := exponent_spec hpos
  · constructor
    · rintro ⟨e, he, h | ⟨hsix, -, hshown⟩⟩
      · rw [he.unique hunit] at h
        exact h
      · have hname : (shown bytes).unit = units.getD (exponent bytes) "" := by
          rw [shown]
          split_ifs <;> rfl
        rw [he.unique hunit] at hshown hsix
        rw [hshown] at hname
        exact absurd hname.symm (units_ne_next ⟨exponent bytes, hsix⟩)
    · intro h
      exact ⟨exponent bytes, hunit, .inl h⟩
  · obtain ⟨hten, hoff, hthousand⟩ := tenths_of_just_below he hlt hnear hpos
    refine iff_of_true ⟨e, hunit, .inr ⟨hsix, hthousand, ?_⟩⟩ ?_
    · rw [shown, hten, he]
      rfl
    · rw [rounds_shown_iff hpos hword, Uncarried, hten]
      refine ⟨by decide, ?_, hoff⟩
      rintro ⟨hge, -⟩
      omega

/-- Below `2 ^ 51` the tenths are the nearest ones. -/
theorem not_tenthOff_of_lt (hpos : 0 < bytes) (hlt : bytes < 2 ^ 51) : ¬TenthOff bytes := by
  rintro ⟨-, hoff⟩
  have hle := tenths_error_of_lt hpos hlt
  linarith

/-- A count that is neither near a thousand nor, from ten on, near a half is correctly rounded. -/
theorem correctlyRounded_of_clear (hpos : 0 < bytes) (hlt : bytes < 2 ^ 51)
    (hthousand : quotient bytes < 9994 / 10)
    (hhalf : ∀ n : ℕ, |quotient bytes - (n + 1 / 2)| ≤ 1 / 20 → n < 10) :
    CorrectlyRounded bytes (shown bytes) := by
  obtain ⟨hleft, hright⟩ := abs_le.mp (tenths_error_of_lt hpos hlt)
  refine (correctlyRounded_iff hpos (by omega)).mpr ⟨?_, ?_, not_tenthOff_of_lt hpos hlt⟩
  · intro hcarried
    have hcarried' : (9995 : ℚ) ≤ tenths bytes := by exact_mod_cast hcarried
    linarith
  · rintro ⟨hge, hfive, -⟩
    have hsplit : (tenths bytes : ℚ) = 10 * (tenths bytes / 10 : ℕ) + 5 := by
      exact_mod_cast (by omega : tenths bytes = 10 * (tenths bytes / 10) + 5)
    have hten := hhalf (tenths bytes / 10) (by rw [abs_le]; constructor <;> linarith)
    omega

/-- Whatever is shown is at most a thousand, and at most a twentieth farther off than it should be,
but for the roundings to binary64. -/
theorem shown_error (hpos : 0 < bytes) (hword : bytes < 2 ^ 64) :
    (shown bytes).number ≤ 1000
      ∧ |(shown bytes).number - quotient bytes|
          ≤ (shown bytes).lastDigit / 2 + 1 / 20 + quotient bytes / 2 ^ 51 := by
  have hquotient := quotient_lt hpos hword
  obtain ⟨hleft, hright⟩ := abs_le.mp (tenths_error hpos)
  obtain ht | ht := Nat.lt_or_ge (tenths bytes) 100
  · have hlt := number_decimal_lt ht
    rw [number_decimal ht] at hlt ⊢
    rw [lastDigit_decimal ht, abs_le]
    refine ⟨by linarith, ?_, ?_⟩ <;> linarith
  · have hmost : tenths bytes ≤ 10000 := by
      have h : tenths bytes < 10001 := by
        suffices h : (tenths bytes : ℚ) < 10001 by exact_mod_cast h
        linarith
      omega
    have hnear : 10 * halfEven (tenths bytes) 10 ≤ tenths bytes + 5
        ∧ tenths bytes ≤ 10 * halfEven (tenths bytes) 10 + 5 := by
      obtain h | h | h := halfEven_ten (tenths bytes) <;> omega
    have hle : 10 * (halfEven (tenths bytes) 10 : ℚ) ≤ tenths bytes + 5 := by
      exact_mod_cast hnear.1
    have hge : (tenths bytes : ℚ) ≤ 10 * halfEven (tenths bytes) 10 + 5 := by
      exact_mod_cast hnear.2
    have hthousand : halfEven (tenths bytes) 10 ≤ 1000 := by
      obtain h | h | h := halfEven_ten (tenths bytes) <;> omega
    rw [number_whole ht, lastDigit_whole ht, abs_le]
    refine ⟨by exact_mod_cast hthousand, ?_, ?_⟩ <;> linarith

/-- The text of a count is correctly rounded unless a thousand is left as it is, the tenths are
rounded away from the count, or binary64 has missed the tenths. In exact terms, below `2 ^ 51` only
counts near a thousand of their unit and counts of ten units or more that are near a half are at
risk. No text is off by more than a twentieth beyond half of its last digit and the errors of
binary64, and none shows more than a thousand. -/
theorem text_correctly_rounded_iff (hten : 10 ≤ bytes) (hword : bytes < 2 ^ 64) :
    (CorrectlyRounded bytes (Shown.ofText (text bytes))
        ↔ ¬Uncarried bytes ∧ ¬RoundedAway bytes ∧ ¬TenthOff bytes)
      ∧ |(tenths bytes : ℚ) - quotient bytes * 10| ≤ 1 / 2 + quotient bytes * 10 / 2 ^ 51
      ∧ (bytes < 2 ^ 51 → ¬TenthOff bytes)
      ∧ (bytes < 2 ^ 51 → quotient bytes < 9994 / 10 →
          (∀ n : ℕ, |quotient bytes - (n + 1 / 2)| ≤ 1 / 20 → n < 10) →
          CorrectlyRounded bytes (Shown.ofText (text bytes)))
      ∧ (Shown.ofText (text bytes)).number ≤ 1000
      ∧ |(Shown.ofText (text bytes)).number - quotient bytes|
          ≤ (Shown.ofText (text bytes)).lastDigit / 2 + 1 / 20 + quotient bytes / 2 ^ 51 := by
  have hpos : 0 < bytes := by omega
  rw [ofText_text hten]
  refine ⟨correctlyRounded_iff hpos hword, tenths_error hpos, not_tenthOff_of_lt hpos, ?_,
    shown_error hpos hword⟩
  intro hlt hthousand hhalf
  exact correctlyRounded_of_clear hpos hlt hthousand hhalf

end ByteSize

end Numeric

namespace Sample

open Numeric Numeric.ByteSize

/-- The tenths of 82854982 bytes are not a half, so that the megabytes are correctly rounded. -/
theorem megabytes_correctly_rounded :
    10 ≤ 82854982 ∧ 82854982 < 2 ^ 64
      ∧ CorrectlyRounded 82854982 (Shown.ofText (text 82854982)) := by
  have htenths : tenths 82854982 = 829 := by decide
  obtain ⟨hiff, -, hoff, -⟩ :=
    text_correctly_rounded_iff (by decide : 10 ≤ 82854982) (by decide)
  refine ⟨by decide, by decide, hiff.mpr ⟨?_, ?_, hoff (by decide)⟩⟩
  · rw [Uncarried, htenths]
    decide
  · rw [RoundedAway, htenths]
    rintro ⟨-, hfive, -⟩
    exact absurd hfive (by decide)

/-- 11.46 kilobytes are shown as twelve, by way of 11.5, and 999.6 as a thousand. -/
theorem byte_counts_not_always_rounded :
    text 11460 = "12 kB" ∧ ¬CorrectlyRounded 11460 (Shown.ofText (text 11460))
      ∧ text 999600 = "1000 kB" ∧ ¬CorrectlyRounded 999600 (Shown.ofText (text 999600)) := by
  refine ⟨by decide, ?_, by decide, ?_⟩
  · have htenths : tenths 11460 = 115 := by decide
    have hexponent : exponent 11460 = 1 := by decide
    rw [ofText_text (by decide), correctlyRounded_iff (by decide) (by decide)]
    rintro ⟨-, haway, -⟩
    refine haway ⟨by rw [htenths]; decide, by rw [htenths], ?_⟩
    rw [htenths, if_neg (by decide), quotient, hexponent]
    norm_num
  · rw [ofText_text (by decide), correctlyRounded_iff (by decide) (by decide)]
    rintro ⟨hcarried, -⟩
    exact hcarried (by rw [Uncarried]; decide)

end Sample

end CommandFront
