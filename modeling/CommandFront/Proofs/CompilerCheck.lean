import CommandFront.Proofs.Startup
import CommandFront.Proofs.VersionReading

/-!
# Which compilers are too old

The compiler tells its version in a text, in which the leftmost triple of runs of digits counts. The
numbers of a version are machine words, so a triple with a larger number is no version, and a
compiler whose version cannot be read is let through.

A version that cannot be read is no reason to refuse a compiler: the check is then skipped, and the
log has a warning. There are several reasons for that, such as that no triple is found or that a
number is too large, and the program does not tell them apart. So whether an old compiler is refused
depends on the size of all three numbers, and not of those alone that decide the comparison.

- `CompilerVersion.ofRuns`: the numbers of a triple, of any size.
- `CompilerVersion.FirstTriple.parse?_of_digits`: a triple of ASCII digits is a version if its
  numbers are machine words.
- `Bootstrap.checkEnvironment_of_fits`, `Bootstrap.checkEnvironment_of_not_fits`: a version is
  compared with the minimum, and a triple that is none is told to the log.
- `Bootstrap.compiler_check_compares_triple`: which compilers are refused.
-/

namespace CommandFront

namespace CompilerVersion

/-- The numbers that three runs of digits stand for. -/
def ofRuns (major minor patch : List Char) : CompilerVersion :=
  ⟨Nat.ofDigitChars 10 major 0, Nat.ofDigitChars 10 minor 0, Nat.ofDigitChars 10 patch 0⟩

/-- Three runs are of ASCII digits. -/
def AsciiDigits (major minor patch : List Char) : Prop :=
  ∀ d ∈ major ++ minor ++ patch, d.isDigit = true

instance (major minor patch : List Char) : Decidable (AsciiDigits major minor patch) :=
  decidable_of_iff ((major ++ minor ++ patch).all Char.isDigit = true) List.all_eq_true

variable {raw : String} {front major minor patch rest : List Char}

/-- Of runs of ASCII digits, only the size matters. -/
theorem AsciiDigits.convertible_iff (h : AsciiDigits major minor patch) :
    (Convertible major ∧ Convertible minor ∧ Convertible patch)
      ↔ (ofRuns major minor patch).Fits := by
  have hmajor : ∀ d ∈ major, d.isDigit = true := fun d hd =>
    h d (List.mem_append_left _ (List.mem_append_left _ hd))
  have hminor : ∀ d ∈ minor, d.isDigit = true := fun d hd =>
    h d (List.mem_append_left _ (List.mem_append_right _ hd))
  have hpatch : ∀ d ∈ patch, d.isDigit = true := fun d hd => h d (List.mem_append_right _ hd)
  constructor
  · rintro ⟨h₁, h₂, h₃⟩
    exact ⟨h₁.2, h₂.2, h₃.2⟩
  · rintro ⟨h₁, h₂, h₃⟩
    exact ⟨⟨hmajor, h₁⟩, ⟨hminor, h₂⟩, ⟨hpatch, h₃⟩⟩

/-- The first triple, if it is of ASCII digits, is read exactly if its numbers fit. -/
theorem FirstTriple.parse?_of_digits (h : FirstTriple raw.toList front major minor patch rest)
    (hdigits : AsciiDigits major minor patch) :
    parse? raw = if (ofRuns major minor patch).Fits then some (ofRuns major minor patch)
      else none := by
  by_cases hfits : (ofRuns major minor patch).Fits
  · rw [if_pos hfits]
    exact h.parse?_eq_some_iff.mpr ⟨hdigits.convertible_iff.mpr hfits, rfl⟩
  · rw [if_neg hfits, Option.eq_none_iff_forall_ne_some]
    intro v hv
    exact hfits (hdigits.convertible_iff.mp (h.parse?_eq_some_iff.mp hv).1)

end CompilerVersion

namespace Bootstrap

open CompilerVersion

variable {b : Bootstrap} {user : Identity} {front major minor patch rest : List Char}

/-! ## The check of a user who is let through -/

theorem checkRuntime_of_none (h : CompilerVersion.parse? b.runtimeVersion = none) :
    b.checkRuntime = Journal.log b.skippedCheck := by
  rw [checkRuntime, h]

section Triple

variable (hknown : b.identity = .ok user) (huser : user.uid ≠ some 0)
  (htriple : FirstTriple b.runtimeVersion.toList front major minor patch rest)
  (hdigits : AsciiDigits major minor patch)

include hknown huser htriple hdigits

/-- A version is compared with the minimum, and nothing is told. -/
theorem checkEnvironment_of_fits (hfits : (ofRuns major minor patch).Fits) :
    b.checkEnvironment
      = if (ofRuns major minor patch).parts < b.minimumRuntime.parts then
          Journal.fail (.unsupportedRuntime b.appName b.runtimeVersion b.minimumRuntime)
        else pure user := by
  have hparse : CompilerVersion.parse? b.runtimeVersion = some (ofRuns major minor patch) := by
    rw [htriple.parse?_of_digits hdigits, if_pos hfits]
  rw [checkEnvironment_of_ok hknown, if_neg huser, checkRuntime_of_some hparse]
  split
  · rfl
  · rfl

/-- A triple that is no version ends the check with a warning. -/
theorem checkEnvironment_of_not_fits (hfits : ¬(ofRuns major minor patch).Fits) :
    b.checkEnvironment = (do
      Journal.log b.skippedCheck
      return user) := by
  have hparse : CompilerVersion.parse? b.runtimeVersion = none := by
    rw [htriple.parse?_of_digits hdigits, if_neg hfits]
  rw [checkEnvironment_of_ok hknown, if_neg huser, checkRuntime_of_none hparse]

theorem checkEnvironment_eq_unsupportedRuntime_iff :
    (∃ app found minimum,
        b.checkEnvironment.result = .error (.unsupportedRuntime app found minimum))
      ↔ (ofRuns major minor patch).Fits
        ∧ (ofRuns major minor patch).parts < b.minimumRuntime.parts := by
  by_cases hfits : (ofRuns major minor patch).Fits
  · rw [checkEnvironment_of_fits hknown huser htriple hdigits hfits, and_iff_right hfits]
    split
    · rename_i hless
      exact ⟨fun _ => hless, fun _ => ⟨_, _, _, rfl⟩⟩
    · rename_i hless
      refine ⟨?_, fun h => absurd h hless⟩
      rintro ⟨app, found, minimum, h⟩
      cases h
  · rw [checkEnvironment_of_not_fits hknown huser htriple hdigits hfits]
    refine ⟨?_, fun h => absurd h.1 hfits⟩
    rintro ⟨app, found, minimum, h⟩
    cases h

end Triple

/-- Whatever compiled the program and whatever the minimum is, a user who is known and may not do
everything is refused for the compiler exactly if the first triple of its text is below the minimum
and each of its three numbers is a machine word. Else the user passes; where a number is larger, a
warning in the log tells that the version could not be read. -/
theorem compiler_check_compares_triple (b : Bootstrap) (user : Identity)
    (front major minor patch rest : List Char) (hknown : b.identity = .ok user)
    (huser : user.uid ≠ some 0)
    (htriple : FirstTriple b.runtimeVersion.toList front major minor patch rest)
    (hdigits : AsciiDigits major minor patch) :
    ((∃ app found minimum,
        b.checkEnvironment.result = .error (.unsupportedRuntime app found minimum))
      ↔ (ofRuns major minor patch).Fits
        ∧ (ofRuns major minor patch).parts < b.minimumRuntime.parts)
    ∧ ((ofRuns major minor patch).Fits →
        (ofRuns major minor patch).parts < b.minimumRuntime.parts →
        b.checkEnvironment
          = Journal.fail (.unsupportedRuntime b.appName b.runtimeVersion b.minimumRuntime))
    ∧ ((ofRuns major minor patch).Fits →
        ¬(ofRuns major minor patch).parts < b.minimumRuntime.parts →
        b.checkEnvironment = pure user)
    ∧ (¬(ofRuns major minor patch).Fits →
        ∃ warning : LogRecord, warning.level = .warn
          ∧ warning.message = "could not read toolchain version from '" ++ b.runtimeVersion
            ++ "', skipping the check"
          ∧ b.checkEnvironment = (do
            Journal.log warning
            return user)) := by
  refine ⟨checkEnvironment_eq_unsupportedRuntime_iff hknown huser htriple hdigits,
    fun hfits hless => ?_, fun hfits hless => ?_, fun hfits => ?_⟩
  · rw [checkEnvironment_of_fits hknown huser htriple hdigits hfits, if_pos hless]
  · rw [checkEnvironment_of_fits hknown huser htriple hdigits hfits, if_neg hless]
  · exact ⟨b.skippedCheck, rfl, rfl,
      checkEnvironment_of_not_fits hknown huser htriple hdigits hfits⟩

end Bootstrap

namespace Sample

open CompilerVersion

/-- A start by a plain user, with what a compiler says of itself. -/
def plainStart (runtimeVersion : String) : Bootstrap where
  identity := .ok ⟨"minio", some 1000, none⟩
  runtimeVersion := runtimeVersion
  commands := []
  flags := []

/-- What stands in front of the version has no digits. -/
theorem noDigit_rustc : NoDigit "rustc ".toList := by
  decide

theorem old_triple : FirstTriple "rustc 1.69.9 2.0.0".toList "rustc ".toList "1".toList "69".toList
    "9".toList " 2.0.0".toList where
  text := rfl
  major := by decide
  minor := by decide
  patch := by decide
  greedy := by decide
  leftmost _ _ heq hlength := not_continues_of_append noDigit_rustc heq hlength

/-- A compiler below the minimum is refused, also if a later version is told behind its own. -/
theorem old_compiler_refused :
    FirstTriple "rustc 1.69.9 2.0.0".toList "rustc ".toList "1".toList "69".toList "9".toList
        " 2.0.0".toList
      ∧ (plainStart "rustc 1.69.9 2.0.0").checkEnvironment
        = Journal.fail (.unsupportedRuntime "strata" "rustc 1.69.9 2.0.0" ⟨1, 70, 0⟩) := by
  obtain ⟨-, hrefused, -⟩ := Bootstrap.compiler_check_compares_triple
    (plainStart "rustc 1.69.9 2.0.0") ⟨"minio", some 1000, none⟩ _ _ _ _ _ rfl (by decide)
    old_triple (by decide)
  exact ⟨old_triple, hrefused (by decide) (by decide)⟩

theorem overlong_triple : FirstTriple "rustc 1.60.18446744073709551616".toList "rustc ".toList
    "1".toList "60".toList "18446744073709551616".toList [] where
  text := rfl
  major := by decide
  minor := by decide
  patch := by decide
  greedy := by decide
  leftmost _ _ heq hlength := not_continues_of_append noDigit_rustc heq hlength

/-- A triple below the minimum whose last number is too large for a machine word is let through. -/
theorem old_compiler_not_always_refused :
    ¬∀ (b : Bootstrap) (user : Identity) (front major minor patch rest : List Char),
      b.identity = .ok user → user.uid ≠ some 0 →
      FirstTriple b.runtimeVersion.toList front major minor patch rest →
      AsciiDigits major minor patch →
      ((∃ app found minimum,
          b.checkEnvironment.result = .error (.unsupportedRuntime app found minimum))
        ↔ (ofRuns major minor patch).parts < b.minimumRuntime.parts) := by
  intro hclaim
  have hiff := hclaim (plainStart "rustc 1.60.18446744073709551616") ⟨"minio", some 1000, none⟩
    _ _ _ _ _ rfl (by decide) overlong_triple (by decide)
  obtain ⟨app, found, minimum, hresult⟩ := hiff.mpr (by decide)
  rw [Bootstrap.checkEnvironment_of_not_fits rfl (by decide) overlong_triple (by decide)
    (by decide)] at hresult
  cases hresult

end Sample

end CommandFront
