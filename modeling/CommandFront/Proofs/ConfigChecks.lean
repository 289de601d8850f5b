import CommandFront.Config.Basic
import CommandFront.Proofs.Lists

/-!
# Which configurations are in order

The checks of a configuration come one after the other, and the first that fails is told. Whether
all of them pass does not depend on that order, so it is said as a structure of invariants, one for
each check. Encryption is turned on before the checks, from the two files that the invariants want
both or neither of.

Counts are given on the command line as texts. The reader looks at the limit of a machine word after
each digit, which comes to the same as looking at the whole value once, as more digits do not make a
number smaller.

- `ServerConfig.Sound`: the invariants of a configuration.
- `ServerConfig.finalize_eq_ok_iff`: what passes the checks, and what is made of it.
- `ServerConfig.IsCount`: a text is a count if it is made of digits, perhaps with a plus before
  them, whose value fits into a machine word.
- `ServerConfig.parseCount_eq_ok_iff`: those are the texts that are read as counts.
-/

namespace CommandFront

namespace ServerConfig

/-! ## Invariants -/

/-- The invariants of a configuration. -/
structure Sound (c : ServerConfig) : Prop where
  limited : 0 < c.rateLimit
  paired : c.certFile.isSome = c.keyFile.isSome
  address : HasPort c.address
  controllerAddress : HasPort c.controllerAddress
  rpcAddress : HasPort c.rpcAddress

instance (c : ServerConfig) : Decidable c.Sound :=
  decidable_of_iff
    (0 < c.rateLimit ∧ c.certFile.isSome = c.keyFile.isSome ∧ HasPort c.address
      ∧ HasPort c.controllerAddress ∧ HasPort c.rpcAddress)
    ⟨fun ⟨h₁, h₂, h₃, h₄, h₅⟩ => ⟨h₁, h₂, h₃, h₄, h₅⟩,
      fun h => ⟨h.limited, h.paired, h.address, h.controllerAddress, h.rpcAddress⟩⟩

variable {c final : ServerConfig}

/-- No address is complained about exactly if each has a port. -/
theorem find?_addresses_eq_none_iff :
    (c.addresses.find? fun entry => decide (¬HasPort entry.2)) = none
      ↔ HasPort c.address ∧ HasPort c.controllerAddress ∧ HasPort c.rpcAddress := by
  simp [addresses]

theorem fault?_eq_none_iff : c.fault? = none ↔ c.Sound := by
  unfold fault?
  constructor
  · intro h
    by_cases hlimit : c.rateLimit = 0
    · rw [if_pos hlimit] at h
      cases h
    by_cases hhalf : c.certFile.isSome ≠ c.keyFile.isSome
    · rw [if_neg hlimit, if_pos hhalf] at h
      cases h
    rw [if_neg hlimit, if_neg hhalf, Option.map_eq_none_iff, find?_addresses_eq_none_iff] at h
    exact ⟨Nat.pos_of_ne_zero hlimit, Decidable.of_not_not hhalf, h.1, h.2.1, h.2.2⟩
  · intro h
    have hports := find?_addresses_eq_none_iff.mpr ⟨h.address, h.controllerAddress, h.rpcAddress⟩
    rw [if_neg (Nat.ne_of_gt h.limited), if_neg (fun hhalf => hhalf h.paired), hports]
    rfl

theorem validate_eq_ok_iff : c.validate = .ok () ↔ c.Sound := by
  rw [← fault?_eq_none_iff, validate]
  cases c.fault? <;> simp

theorem finalize_eq_ok_iff : c.finalize = .ok final ↔ final = c.withEncryption ∧ final.Sound := by
  rw [finalize, bind_eq_ok_iff]
  constructor
  · rintro ⟨_, hvalid, ⟨⟩⟩
    exact ⟨rfl, validate_eq_ok_iff.mp hvalid⟩
  · rintro ⟨rfl, hsound⟩
    exact ⟨(), validate_eq_ok_iff.mpr hsound, rfl⟩

/-! ## Counts -/

/-- A text is a count: digits, perhaps with a plus before them, whose value fits into a machine
word. -/
def IsCount (text : String) (n : Nat) : Prop :=
  ∃ digits : List Char, (text.toList = digits ∨ text.toList = '+' :: digits) ∧ digits ≠ []
    ∧ (∀ c ∈ digits, c.isDigit = true) ∧ n = Nat.ofDigitChars 10 digits 0 ∧ n < Nat.pow 2 64

/-- More digits do not make a number smaller. -/
theorem le_ofDigitChars (digits : List Char) (value : Nat) :
    value ≤ Nat.ofDigitChars 10 digits value := by
  induction digits generalizing value with
  | nil => exact Nat.le_refl value
  | cons c rest ih =>
    rw [Nat.ofDigitChars_cons]
    have hrest := ih (10 * value + (c.toNat - '0'.toNat))
    omega

/-- The digits that are read one by one are those of a number that fits, even though it is looked
at after each of them. -/
theorem readCount_eq_ok_iff {value n : Nat} {digits : List Char} (hvalue : value < Nat.pow 2 64) :
    readCount value digits = .ok n
      ↔ (∀ c ∈ digits, c.isDigit = true) ∧ n = Nat.ofDigitChars 10 digits value
        ∧ n < Nat.pow 2 64 := by
  induction digits generalizing value with
  | nil =>
    constructor
    · rintro ⟨⟩
      exact ⟨by simp, rfl, hvalue⟩
    · rintro ⟨-, rfl, -⟩
      rfl
  | cons c rest ih =>
    unfold readCount
    by_cases hdigit : c.isDigit = true
    case neg =>
      rw [if_pos hdigit]
      simp [hdigit]
    rw [if_neg (not_not_intro hdigit), Nat.ofDigitChars_cons, List.forall_mem_cons]
    by_cases hnext : 10 * value + (c.toNat - '0'.toNat) < Nat.pow 2 64
    · simp only [if_pos hnext, ih hnext, hdigit, true_and]
    · simp only [if_neg hnext, reduceCtorEq, false_iff]
      -- the digits that follow cannot bring the number back into the range
      rintro ⟨-, rfl, hlt⟩
      have hle := le_ofDigitChars rest (10 * value + (c.toNat - '0'.toNat))
      exact hnext (Nat.lt_of_le_of_lt hle hlt)

theorem parseCount_eq_ok_iff {text : String} {n : Nat} :
    parseCount text = .ok n ↔ IsCount text n := by
  have hread : ∀ digits : List Char, readCount 0 digits = .ok n
      ↔ (∀ c ∈ digits, c.isDigit = true) ∧ n = Nat.ofDigitChars 10 digits 0 ∧ n < Nat.pow 2 64 :=
    fun _ => readCount_eq_ok_iff (by decide)
  unfold parseCount IsCount
  constructor
  · intro h
    split at h
    case h_1 => cases h
    case h_2 => cases h
    case h_3 digits hne htext => exact ⟨digits, .inr htext, hne, (hread digits).mp h⟩
    case h_4 hne _ _ =>
      exact ⟨text.toList, .inl rfl, hne, (hread _).mp h⟩
  · rintro ⟨digits, htext, hne, hdigits⟩
    have hok := (hread digits).mpr hdigits
    -- a plus is no digit, so the digits do not begin with one
    have hplus : ∀ rest, digits ≠ '+' :: rest := by
      rintro rest rfl
      exact absurd (hdigits.1 '+' List.mem_cons_self) (by decide)
    rcases htext with htext | htext
    · rw [htext]
      split
      case h_1 => exact absurd rfl hne
      case h_2 => exact absurd rfl (hplus [])
      case h_3 rest _ => exact absurd rfl (hplus rest)
      case h_4 => exact hok
    · rw [htext]
      split
      case h_1 hnil => cases hnil
      case h_2 hnil => exact absurd (List.cons.inj hnil).2 hne
      case h_3 rest _ heq => rw [← (List.cons.inj heq).2]; exact hok
      case h_4 hother => exact absurd rfl (hother digits)

end ServerConfig

end CommandFront
