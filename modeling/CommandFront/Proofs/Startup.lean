import CommandFront.Bootstrap
import CommandFront.Proofs.Admission
import CommandFront.Proofs.InvocationView

/-!
# How a start ends

A start checks who runs the program and what compiled it, and registers the commands and flags only
then.

There are three checks, and any number of them may fail at once; only the first is told. So a
refusal is described by the check that fails and by those before it that do not. The lists of
commands and flags are looked at after all checks, which shows in that the result of a refused start
does not mention them. The time that a step takes is told in the log only and is a parameter here.

- `CompilerVersion.precedes_iff`: versions are compared as lists of numbers.
- `Bootstrap.Refused`, `Bootstrap.Passes`: the ways in which the checks end, and which comes first.
- `Bootstrap.checkEnvironment_of_refused`, `Bootstrap.checkEnvironment_of_passes`: the checks end
  so.
- `Bootstrap.build_of_refused`: a refused start has registered nothing.
- `Bootstrap.build_outcome`: how each start ends.
-/

namespace CommandFront

/-! ## Versions -/

namespace CompilerVersion

/-- The three numbers. -/
def parts (v : CompilerVersion) : List Nat :=
  [v.major, v.minor, v.patch]

/-- One version precedes another exactly if its numbers come first lexicographically. -/
theorem precedes_iff {a b : CompilerVersion} : a.Precedes b ↔ a.parts < b.parts := by
  have hnil : ¬([] : List Nat) < [] := List.lt_irrefl []
  unfold Precedes parts
  rw [List.cons_lt_cons_iff, List.cons_lt_cons_iff, List.cons_lt_cons_iff]
  simp only [hnil, and_false, or_false]

end CompilerVersion

namespace Bootstrap

variable {b : Bootstrap} {e : BootstrapError} {user : Identity}

/-! ## The checks -/

/-- A check fails, and those before it do not. -/
inductive Refused (b : Bootstrap) : BootstrapError → Prop where
  /-- The user is not known. All errors behind that are told, the outermost first. -/
  | unknown (chain : ErrorChain) : b.identity = .error chain →
      Refused b (.identityUnavailable (": ".intercalate (chain.message :: chain.causes)))
  /-- The user is known, and may do everything. -/
  | elevated (user : Identity) : b.identity = .ok user → user.uid = some 0 →
      Refused b (.elevatedPrivileges b.appName user.name)
  /-- The user is known and may not do everything, and the compiler is found to be too old. -/
  | outdated (user : Identity) (found : CompilerVersion) : b.identity = .ok user →
      user.uid ≠ some 0 → CompilerVersion.parse? b.runtimeVersion = some found →
      found.parts < b.minimumRuntime.parts →
      Refused b (.unsupportedRuntime b.appName b.runtimeVersion b.minimumRuntime)

/-- No check fails. A user without an id is not elevated, and a compiler whose version is not found
is not too old. -/
structure Passes (b : Bootstrap) (user : Identity) : Prop where
  known : b.identity = .ok user
  unprivileged : user.uid ≠ some 0
  recent : ∀ found, CompilerVersion.parse? b.runtimeVersion = some found →
    ¬found.parts < b.minimumRuntime.parts

/-- The checks refuse the start or let it pass. -/
theorem refused_or_passes (b : Bootstrap) : (∃ e, b.Refused e) ∨ ∃ user, b.Passes user := by
  cases hidentity : b.identity with
  | error chain => exact .inl ⟨_, .unknown chain hidentity⟩
  | ok user =>
    by_cases huid : user.uid = some 0
    · exact .inl ⟨_, .elevated user hidentity huid⟩
    by_cases hold : ∃ found, CompilerVersion.parse? b.runtimeVersion = some found
        ∧ found.parts < b.minimumRuntime.parts
    · obtain ⟨found, hfound, hless⟩ := hold
      exact .inl ⟨_, .outdated user found hidentity huid hfound hless⟩
    · have hrecent : ∀ found, CompilerVersion.parse? b.runtimeVersion = some found →
          ¬found.parts < b.minimumRuntime.parts :=
        fun found hfound hless => hold ⟨found, hfound, hless⟩
      exact .inr ⟨user, hidentity, huid, hrecent⟩

/-- Where the user is not known, nothing else is checked. -/
theorem checkEnvironment_of_error {chain : ErrorChain} (h : b.identity = .error chain) :
    b.checkEnvironment
      = Journal.fail (.identityUnavailable (": ".intercalate (chain.message :: chain.causes))) := by
  rw [checkEnvironment, h]
  rfl

/-- A known user comes before the compiler. -/
theorem checkEnvironment_of_ok (h : b.identity = .ok user) :
    b.checkEnvironment
      = if user.uid = some 0 then Journal.fail (.elevatedPrivileges b.appName user.name)
        else b.checkRuntime >>= fun _ => pure user := by
  rw [checkEnvironment, h]
  rfl

/-- A compiler whose version is found is compared with the minimum. -/
theorem checkRuntime_of_some {found : CompilerVersion}
    (h : CompilerVersion.parse? b.runtimeVersion = some found) :
    b.checkRuntime = if found.parts < b.minimumRuntime.parts then
        Journal.fail (.unsupportedRuntime b.appName b.runtimeVersion b.minimumRuntime)
      else pure () := by
  rw [checkRuntime, h]
  simp only [CompilerVersion.precedes_iff]

/-- The checks end at the first one that fails, and the log tells nothing. -/
theorem checkEnvironment_of_refused (h : b.Refused e) : b.checkEnvironment = Journal.fail e := by
  cases h with
  | unknown chain hidentity => exact checkEnvironment_of_error hidentity
  | elevated user hidentity huid =>
    rw [checkEnvironment_of_ok hidentity, if_pos huid]
  | outdated user found hidentity huid hfound hless =>
    rw [checkEnvironment_of_ok hidentity, if_neg huid, checkRuntime_of_some hfound, if_pos hless]
    rfl

/-- Where no check fails, the user is handed on. -/
theorem checkEnvironment_of_passes (h : b.Passes user) : b.checkEnvironment.result = .ok user := by
  rw [checkEnvironment_of_ok h.known, if_neg h.unprivileged]
  cases hfound : CompilerVersion.parse? b.runtimeVersion with
  | none =>
    -- a version that is not found is told to the log alone
    rw [checkRuntime, hfound]
    rfl
  | some found =>
    rw [checkRuntime_of_some hfound, if_neg (h.recent found hfound)]
    rfl

/-- The checks fail exactly with the refusal of the first one that does. -/
theorem checkEnvironment_eq_error_iff : b.checkEnvironment.result = .error e ↔ b.Refused e := by
  constructor
  · intro hresult
    obtain ⟨refusal, hrefused⟩ | ⟨user, hpasses⟩ := b.refused_or_passes
    · rw [checkEnvironment_of_refused hrefused] at hresult
      obtain rfl : refusal = e := Except.error.inj hresult
      exact hrefused
    · rw [checkEnvironment_of_passes hpasses] at hresult
      cases hresult
  · intro hrefused
    rw [checkEnvironment_of_refused hrefused]
    rfl

/-- No check looks at the commands and flags. -/
theorem Refused.with_lists (h : b.Refused e) (commands : List (Command Action))
    (flags : List Flag) : Refused { b with commands := commands, flags := flags } e := by
  cases h with
  | unknown chain hidentity => exact .unknown chain hidentity
  | elevated user hidentity huid => exact .elevated user hidentity huid
  | outdated user found hidentity huid hfound hless =>
    exact .outdated user found hidentity huid hfound hless

theorem Refused.ne_registration (h : b.Refused e) (cause : RegistrationError) :
    e ≠ .registration cause := by
  cases h <;> exact BootstrapError.noConfusion

/-! ## The start -/

variable {readings : Readings} {elapsed : String}

/-- Telling how long a step took changes nothing about how it ends. -/
@[simp] theorem result_timed {ε α : Type} (step elapsed : String) (j : Journal ε α) :
    (timed step elapsed j).result = j.result := by
  rw [timed, Journal.result_bind, Journal.result_outcome]
  rfl

/-- A refused start tells how long the checks took and ends. -/
theorem build_of_refused (h : b.Refused e) (readings : Readings) (elapsed : String) :
    b.build readings elapsed = (do
      Journal.log (LogRecord.timing "environment checks" false elapsed)
      Journal.fail e) := by
  rw [build, checkEnvironment_of_refused h]
  rfl

/-- After the checks, a start ends as the registration does. -/
theorem result_build_of_passes (h : b.Passes user) :
    (b.build readings elapsed).result
      = (fun registry => { App.ofRegistry b.appName b.version registry readings with
          usage := Catalog.appUsage
          description := Catalog.appDescription })
        <$> (Registry.registerAll b.commands b.flags).result.mapError .registration := by
  rw [build]
  simp only [Journal.result_bind, result_timed, checkEnvironment_of_passes h,
    Journal.result_mapError]
  cases (Registry.registerAll b.commands b.flags).result <;> rfl

/-- After the checks, a start fails exactly with the error of the registration. -/
theorem build_eq_error_iff_of_passes (h : b.Passes user) :
    (b.build readings elapsed).result = .error e
      ↔ ∃ cause, (Registry.registerAll b.commands b.flags).result = .error cause
        ∧ e = .registration cause := by
  rw [result_build_of_passes h]
  cases (Registry.registerAll b.commands b.flags).result with
  | ok registry =>
    constructor
    · intro hresult
      cases hresult
    · rintro ⟨cause, hcause, -⟩
      cases hcause
  | error cause =>
    constructor
    · intro hresult
      exact ⟨cause, rfl, (Except.error.inj hresult).symm⟩
    · rintro ⟨found, hfound, rfl⟩
      rw [Except.error.inj hfound]
      rfl

/-- A start fails exactly for a check or, if all pass, for the registration. -/
theorem build_eq_error_iff :
    (b.build readings elapsed).result = .error e
      ↔ b.Refused e ∨ ∃ user cause, b.Passes user
        ∧ (Registry.registerAll b.commands b.flags).result = .error cause
        ∧ e = .registration cause := by
  constructor
  · intro hresult
    obtain ⟨refusal, hrefused⟩ | ⟨user, hpasses⟩ := b.refused_or_passes
    · rw [build_of_refused hrefused] at hresult
      obtain rfl : refusal = e := Except.error.inj hresult
      exact .inl hrefused
    · obtain ⟨cause, hcause, rfl⟩ := (build_eq_error_iff_of_passes hpasses).mp hresult
      exact .inr ⟨user, cause, hpasses, hcause, rfl⟩
  · rintro (hrefused | ⟨user, cause, hpasses, hcause, rfl⟩)
    · rw [build_of_refused hrefused]
      rfl
    · exact (build_eq_error_iff_of_passes hpasses).mpr ⟨cause, hcause, rfl⟩

/-- A start succeeds exactly if all checks pass and the lists are registered. -/
theorem build_eq_ok_iff {app : App} :
    (b.build readings elapsed).result = .ok app
      ↔ ∃ user registry, b.Passes user
        ∧ (Registry.registerAll b.commands b.flags).result = .ok registry
        ∧ app = { App.ofRegistry b.appName b.version registry readings with
          usage := Catalog.appUsage
          description := Catalog.appDescription } := by
  constructor
  · intro hresult
    obtain ⟨refusal, hrefused⟩ | ⟨user, hpasses⟩ := b.refused_or_passes
    · rw [build_of_refused hrefused] at hresult
      cases hresult
    · rw [result_build_of_passes hpasses] at hresult
      obtain ⟨registry, hregistry, rfl⟩ := map_eq_ok_iff.mp hresult
      exact ⟨user, registry, hpasses, mapError_eq_ok_iff.mp hregistry, rfl⟩
  · rintro ⟨user, registry, hpasses, hregistry, rfl⟩
    rw [result_build_of_passes hpasses, hregistry]
    rfl

/-- How each start ends, whoever runs the program, whatever compiled it and whatever it registers.
It fails as the first check does that fails; else as the registration does; else it gives an
application with exactly the given commands and flags, in their order. The checks alone fail with
the same error, and then the commands and flags do not matter: whatever they are, and however long
the checks take, nothing is registered, and the log tells that time and nothing else. -/
theorem build_outcome (b : Bootstrap) (readings : Readings) (elapsed : String) :
    (∀ e, (b.build readings elapsed).result = .error e
        ↔ b.Refused e ∨ ∃ user cause, b.Passes user
          ∧ (Registry.registerAll b.commands b.flags).result = .error cause
          ∧ e = .registration cause)
      ∧ ((∃ app, (b.build readings elapsed).result = .ok app)
        ↔ ∃ user registry, b.Passes user
          ∧ (Registry.registerAll b.commands b.flags).result = .ok registry)
      ∧ (∀ app, (b.build readings elapsed).result = .ok app →
        app.registry.commands.commands = b.commands ∧ app.registry.flags.flags = b.flags)
      ∧ (∀ e, b.checkEnvironment.result = .error e
        ↔ (b.build readings elapsed).result = .error e ∧ ∀ cause, e ≠ .registration cause)
      ∧ ∀ e, b.checkEnvironment.result = .error e → ∀ commands flags readings' elapsed',
        Bootstrap.build { b with commands := commands, flags := flags } readings' elapsed' = (do
          Journal.log (LogRecord.timing "environment checks" false elapsed')
          Journal.fail e) := by
  refine ⟨fun e => build_eq_error_iff, ?_, fun app hresult => ?_, fun e => ?_, fun e hresult => ?_⟩
  · constructor
    · rintro ⟨app, hresult⟩
      obtain ⟨user, registry, hpasses, hregistry, -⟩ := build_eq_ok_iff.mp hresult
      exact ⟨user, registry, hpasses, hregistry⟩
    · rintro ⟨user, registry, hpasses, hregistry⟩
      exact ⟨_, build_eq_ok_iff.mpr ⟨user, registry, hpasses, hregistry, rfl⟩⟩
  · obtain ⟨user, registry, -, hregistry, rfl⟩ := build_eq_ok_iff.mp hresult
    obtain ⟨-, rfl⟩ := Registry.result_registerAll_eq_ok_iff.mp hregistry
    exact ⟨Registry.commands_ofLists b.commands b.flags, rfl⟩
  · rw [checkEnvironment_eq_error_iff, build_eq_error_iff]
    constructor
    · exact fun hrefused => ⟨.inl hrefused, hrefused.ne_registration⟩
    · rintro ⟨hrefused | ⟨user, cause, -, -, heq⟩, hne⟩
      · exact hrefused
      · exact absurd heq (hne cause)
  · intro commands flags readings' elapsed'
    have hrefused := checkEnvironment_eq_error_iff.mp hresult
    exact build_of_refused (hrefused.with_lists commands flags) readings' elapsed'

end Bootstrap

namespace Sample

/-- A start by an elevated user, with an old compiler, and with a command that is given twice. -/
def elevatedStart : Bootstrap where
  identity := .ok ⟨"root", some 0, none⟩
  runtimeVersion := "rustc 1.2.3"
  commands := [version, version]
  flags := []

/-- Of the three faults, the user is told. -/
theorem elevated_start_tells_user :
    (elevatedStart.build app.readings "1ms").result
      = .error (.elevatedPrivileges "strata" "root") := by
  have hrefused : elevatedStart.Refused (.elevatedPrivileges "strata" "root") :=
    .elevated ⟨"root", some 0, none⟩ rfl rfl
  obtain ⟨hfails, -⟩ := Bootstrap.build_outcome elevatedStart app.readings "1ms"
  exact (hfails _).mpr (.inl hrefused)

end Sample

end CommandFront
