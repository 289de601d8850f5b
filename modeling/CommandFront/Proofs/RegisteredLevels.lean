import CommandFront.Arguments.CommandLine
import CommandFront.Proofs.CommandStores
import CommandFront.Proofs.Phrase

/-!
# The levels of a registry

The root level has the global flags, and the level of a command has those and its own; both have the
built-in flag for help in front. A registry keeps its flags apart as far as their scopes overlap,
and it refuses the spellings of help, so that on a level no two flags share a spelling. All that is
proved of command lines assumes this of the levels, and nothing else of the registry.

- `Registry.Reachable`: a registry that registrations lead to.
- `Registry.reachable_of_registerAll`: so is the one that a program starts with.
- `Registry.Reachable.consistent`, `Registry.Reachable.separate`: its commands and its flags keep
  their invariants.
- `Registry.mem_rootLevel_iff`, `Registry.mem_commandLevel_iff`: the flags of its levels.
- `Registry.Reachable.distinct_rootLevel`, `Registry.Reachable.distinct_commandLevel`: on each of
  them, every spelling stands for one flag.
-/

namespace CommandFront

/-! ## The built-in help flag -/

namespace Flag

/-- A flag that is not reserved shares no spelling with the help flag. -/
theorem not_shares_help {f : Flag} (h : ¬f.IsReserved) : ¬f.Shares help := by
  rintro (⟨-, heq⟩ | ⟨name, hname, hhelp⟩)
  · exact h (.inr heq)
  · obtain rfl : name = "help" := List.mem_singleton.mp hhelp
    exact h (.inl hname)

/-- Sharing a spelling goes both ways. -/
theorem Shares.symm {f g : Flag} (h : f.Shares g) : g.Shares f := by
  rcases h with ⟨hne, heq⟩ | ⟨name, hf, hg⟩
  · exact .inl ⟨heq ▸ hne, heq.symm⟩
  · exact .inr ⟨name, hg, hf⟩

theorem ne_empty_of_not_isMalformed {f : Flag} (h : ¬f.IsMalformed) {name : String}
    (hname : name ∈ f.longNames) : name ≠ "" := by
  rintro rfl
  exact h ⟨"", hname, Text.not_isName_empty⟩

end Flag

/-- What a sequence of computations gives, the last one gives after what the first one does. -/
theorem Journal.result_bind_eq_ok {ε α β : Type} {j : Journal ε α} {f : α → Journal ε β} {b : β}
    (h : (j >>= f).result = .ok b) : ∃ a, j.result = .ok a ∧ (f a).result = .ok b := by
  rw [Journal.result_bind] at h
  exact bind_eq_ok_iff.mp h

namespace Registry

variable {α : Type}

/-- A registry that registrations lead to. -/
inductive Reachable : Registry α → Prop where
  | empty : Reachable ∅
  | registerCommand {r extended : Registry α} (command : Command α) : Reachable r →
      r.registerCommand command = .ok extended → Reachable extended
  | registerFlag {r extended : Registry α} (flag : Flag) : Reachable r →
      r.registerFlag flag = .ok extended → Reachable extended

variable {r extended : Registry α}

/-- Registering a command leaves the flags as they are. -/
theorem registerCommand_eq_ok {command : Command α} (h : r.registerCommand command = .ok extended) :
    r.commands.register command = .ok extended.commands ∧ extended.flags = r.flags := by
  unfold registerCommand at h
  cases hres : r.commands.register command with
  | error e =>
    rw [hres] at h
    cases h
  | ok commands =>
    rw [hres] at h
    cases h
    exact ⟨rfl, rfl⟩

/-- Registering a flag leaves the commands as they are. -/
theorem registerFlag_eq_ok {flag : Flag} (h : r.registerFlag flag = .ok extended) :
    r.flags.register flag = .ok extended.flags ∧ extended.commands = r.commands := by
  unfold registerFlag at h
  split at h
  · cases h
  cases hres : r.flags.register flag with
  | error e =>
    rw [hres] at h
    cases h
  | ok flags =>
    rw [hres] at h
    cases h
    exact ⟨rfl, rfl⟩

/-! ## The registrations of a program -/

/-- The log has no part in whether a command is registered. -/
theorem result_registerCommandLogged (r : Registry α) (command : Command α) :
    (r.registerCommandLogged command).result = r.registerCommand command := by
  rw [registerCommandLogged, Journal.result_map, CommandRegistry.result_registerLogged]
  rfl

/-- The log has no part in whether a flag is registered. -/
theorem result_registerFlagLogged (r : Registry α) (flag : Flag) :
    (r.registerFlagLogged flag).result = r.registerFlag flag := by
  unfold registerFlagLogged registerFlag
  split
  · rfl
  rw [Journal.result_map, FlagRegistry.result_registerLogged]

/-- Registrations that may fail and are made one after the other keep what each of them keeps. -/
theorem of_foldlM_eq_ok {β : Type} {P : Registry α → Prop}
    {register : Registry α → β → Journal RegistrationError (Registry α)}
    (hstep : ∀ r b extended, P r → (register r b).result = .ok extended → P extended)
    {l : List β} (hr : P r) (h : (l.foldlM register r).result = .ok extended) : P extended := by
  induction l generalizing r with
  | nil =>
    cases h
    exact hr
  | cons b rest ih =>
    obtain ⟨next, hnext, hrest⟩ := Journal.result_bind_eq_ok h
    exact ih (hstep r b next hr hnext) hrest

/-- The registry that a program starts with is one that registrations lead to. -/
theorem reachable_of_registerAll {commands : List (Command α)} {flags : List Flag}
    (h : (registerAll commands flags).result = .ok r) : r.Reachable := by
  obtain ⟨withCommands, hcommands, hflags⟩ := Journal.result_bind_eq_ok h
  have hreachable : withCommands.Reachable := by
    refine of_foldlM_eq_ok (fun r command extended hr hok => ?_) .empty hcommands
    rw [result_registerCommandLogged] at hok
    exact .registerCommand command hr hok
  refine of_foldlM_eq_ok (fun r flag extended hr hok => ?_) hreachable hflags
  rw [result_registerFlagLogged] at hok
  exact .registerFlag flag hr hok

/-! ## The invariants of reachable registries -/

/-- Registrations keep the stores of the commands in agreement. -/
theorem Reachable.consistent (h : r.Reachable) : r.commands.Consistent := by
  induction h with
  | empty => exact CommandRegistry.consistent_empty
  | registerCommand command _ hok ih =>
    obtain ⟨hcommands, -⟩ := registerCommand_eq_ok hok
    obtain ⟨hname, hnew, heq⟩ := (CommandRegistry.register_eq_ok_iff ih).mp hcommands
    rw [heq]
    exact ih.extend hname hnew
  | registerFlag flag _ hok ih =>
    obtain ⟨-, hcommands⟩ := registerFlag_eq_ok hok
    rw [hcommands]
    exact ih

/-- Registrations keep the flags apart. -/
theorem Reachable.separate (h : r.Reachable) : r.flags.Separate := by
  induction h with
  | empty => exact FlagRegistry.separate_empty
  | registerCommand command _ hok ih =>
    obtain ⟨-, hflags⟩ := registerCommand_eq_ok hok
    rw [hflags]
    exact ih
  | registerFlag flag _ hok ih =>
    obtain ⟨hflags, -⟩ := registerFlag_eq_ok hok
    exact ih.register hflags

/-- A name that is neither registered nor that of the built-in help is no sub-command. -/
theorem Reachable.declares_eq_false (h : r.Reachable) {name : String}
    (hname : name ∉ r.commands.names) (hhelp : name ≠ helpCommand) : r.declares name = false := by
  have hcontains : r.commands.contains name = false :=
    Bool.eq_false_iff.mpr fun hcontains => hname (h.consistent.contains_iff.mp hcontains)
  rw [declares, hcontains, decide_eq_false hhelp]
  rfl

/-! ## Which flags are on a level -/

/-- On the root level there are the help flag and the global flags. -/
theorem mem_rootLevel_iff {f : Flag} :
    f ∈ r.rootLevel ↔ f = Flag.help ∨ f ∈ r.flags.flags ∧ f.IsGlobal := by
  rw [rootLevel, List.mem_cons, FlagRegistry.globals, List.mem_filter, decide_eq_true_eq]

/-- On the level of a command there are the help flag and all flags that the command accepts. -/
theorem mem_commandLevel_iff {command : String} {f : Flag} :
    f ∈ r.commandLevel command
      ↔ f = Flag.help ∨ f ∈ r.flags.flags ∧ f.VisibleIn (.command command) := by
  rw [commandLevel, List.mem_append, mem_rootLevel_iff, FlagRegistry.forCommand, List.mem_filter,
    decide_eq_true_eq]
  constructor
  · rintro (⟨hmem, hscope⟩ | rfl | ⟨hmem, hglobal⟩)
    · exact .inr ⟨hmem, .inr hscope⟩
    · exact .inl rfl
    · exact .inr ⟨hmem, .inl hglobal⟩
  · rintro (rfl | ⟨hmem, hglobal | hscope⟩)
    · exact .inr (.inl rfl)
    · exact .inr (.inr ⟨hmem, hglobal⟩)
    · exact .inl ⟨hmem, hscope⟩

theorem mem_commandLevel_of_visibleIn {command : String} {f : Flag} (hf : f ∈ r.flags.flags)
    (hvisible : f.VisibleIn (.command command)) : f ∈ r.commandLevel command :=
  mem_commandLevel_iff.mpr (.inr ⟨hf, hvisible⟩)

theorem help_mem_commandLevel (r : Registry α) (command : String) :
    Flag.help ∈ r.commandLevel command :=
  mem_commandLevel_iff.mpr (.inl rfl)

/-- Each flag of the root level is on the level of each command. -/
theorem mem_commandLevel_of_mem_rootLevel {f : Flag} (h : f ∈ r.rootLevel) (command : String) :
    f ∈ r.commandLevel command :=
  List.mem_append_right _ h

/-- Of the flags of a command, the root level has the global ones. -/
theorem mem_rootLevel_iff_isGlobal {command : String} {f : Flag} (h : f ∈ r.commandLevel command) :
    f ∈ r.rootLevel ↔ f.IsGlobal := by
  rw [mem_rootLevel_iff]
  rcases mem_commandLevel_iff.mp h with rfl | ⟨hmem, -⟩
  · exact ⟨fun _ => rfl, fun _ => .inl rfl⟩
  · constructor
    · rintro (rfl | ⟨-, hglobal⟩)
      · rfl
      · exact hglobal
    · exact fun hglobal => .inr ⟨hmem, hglobal⟩

end Registry

/-! ## Distinct levels -/

namespace FlagRegistry.Separate

variable {r : FlagRegistry}

/-- Two registered flags whose scopes overlap share no spelling. -/
theorem not_shares (h : r.Separate) {f g : Flag} (hf : f ∈ r.flags) (hg : g ∈ r.flags)
    (hne : f ≠ g) (hscope : f.scope.Overlaps g.scope) : ¬f.Shares g := by
  intro hshares
  obtain ⟨i, hi⟩ := List.mem_iff_getElem?.mp hf
  obtain ⟨j, hj⟩ := List.mem_iff_getElem?.mp hg
  have hij : i ≠ j := by
    rintro rfl
    exact hne (Option.some.inj (hi.symm.trans hj))
  exact h.not_collides hij hi hj ⟨hscope, hshares⟩

/-- Flags that are visible in one scope share no spelling. -/
theorem pairwise_filter (h : r.Separate) (scope : FlagScope) {p : Flag → Bool}
    (hp : ∀ f, p f = true → f.VisibleIn scope) :
    (r.flags.filter p).Pairwise fun f g => ¬f.Shares g := by
  refine List.pairwise_filter.mpr (h.apart.imp fun {f g} hapart hf hg hshares => ?_)
  exact hapart ⟨(hp f hf).overlaps (hp g hg), hshares⟩

end FlagRegistry.Separate

namespace Registry.Reachable

variable {α : Type} {r : Registry α}

/-- No spelling on a level is empty. -/
theorem named (h : r.Reachable) {f : Flag} (hf : f = Flag.help ∨ f ∈ r.flags.flags)
    {name : String} (hname : name ∈ f.longNames) : name ≠ "" := by
  rcases hf with rfl | hmem
  · obtain rfl : name = "help" := List.mem_singleton.mp hname
    decide
  · exact Flag.ne_empty_of_not_isMalformed (h.separate.wellFormed f hmem) hname

/-- On the root level every spelling stands for one flag. -/
theorem distinct_rootLevel (h : r.Reachable) : r.rootLevel.Distinct where
  named f hf name hname := by
    refine h.named ?_ hname
    rcases mem_rootLevel_iff.mp hf with hhelp | ⟨hmem, -⟩
    · exact .inl hhelp
    · exact .inr hmem
  apart := by
    refine List.pairwise_cons.mpr ⟨fun g hg hshares => ?_, ?_⟩
    · have hmem := (List.mem_filter.mp hg).1
      exact Flag.not_shares_help (h.separate.unreserved g hmem) hshares.symm
    · exact h.separate.pairwise_filter .everywhere fun f hf => .inl (of_decide_eq_true hf)

/-- On the level of a command every spelling stands for one flag. -/
theorem distinct_commandLevel (h : r.Reachable) (command : String) :
    (r.commandLevel command).Distinct where
  named f hf name hname := by
    refine h.named ?_ hname
    rcases mem_commandLevel_iff.mp hf with hhelp | ⟨hmem, -⟩
    · exact .inl hhelp
    · exact .inr hmem
  apart := by
    -- the flags of the command alone, those of the root level, and one of each
    refine List.pairwise_append.mpr ⟨?_, h.distinct_rootLevel.apart, fun f hf g hg => ?_⟩
    · exact h.separate.pairwise_filter (.command command) fun f hf => .inr (of_decide_eq_true hf)
    · obtain ⟨hmem, hscope⟩ := List.mem_filter.mp hf
      have hscope : f.scope = .command command := of_decide_eq_true hscope
      rcases mem_rootLevel_iff.mp hg with rfl | ⟨hgmem, hglobal⟩
      · exact Flag.not_shares_help (h.separate.unreserved f hmem)
      · refine h.separate.not_shares hmem hgmem ?_ (.inr (.inl hglobal))
        rintro rfl
        -- a flag of one command is not a global one
        exact FlagScope.noConfusion (hscope.symm.trans hglobal)

end Registry.Reachable

end CommandFront
