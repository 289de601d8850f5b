import CommandFront.Proofs.Effects
import CommandFront.Proofs.RegisteredLevels

/-!
# Which lists of commands and flags are admitted

A program registers a list of commands and then a list of flags, and gives up at the first one that
is refused. Whether it gets through does not depend on the orders in the lists.

What a registration does is said once, by what it takes to succeed and by the offence it fails for;
both are read off the registry so far. A list is then an induction over its front: the registry
after the front holds exactly the front, so an offence against that registry is one against the
members before. This is why the conditions on whole lists can be said as distinctness of the names
and as a relation between any two flags.

- `Command.Offends`, `Flag.Offends`: how a command and a flag offend against what came before.
- `Registry.Admissible`: lists in which nothing offends, said without their orders.
- `Registry.foldlM_registerCommand_eq_ok_iff`, `Registry.foldlM_registerFlag_eq_ok_iff`: what it
  takes to register a list.
- `Registry.registerAll_admits`: the admissible lists are registered as they are; of others, the
  first offence is told.
-/

namespace CommandFront

/-! ## Offences -/

/-- How a command offends against those before it. -/
inductive Command.Offends {α : Type} (before : List (Command α)) (c : Command α) :
    RegistrationError → Prop where
  | invalidName : ¬Text.IsName c.name → Offends before c (.invalidName c.name)
  | duplicate : Text.IsName c.name → c.name ∈ before.map Command.name →
      Offends before c (.duplicateCommand c.name)

namespace Flag

/-- The command that a flag is for, if it is for one, is among some names. -/
def HasCommand (f : Flag) (commands : List String) : Prop :=
  ∀ command, f.scope = .command command → command ∈ commands

/-- A flag has a command if it belongs to all of them or to one that is there. -/
theorem hasCommand_iff {f : Flag} {commands : List String} :
    f.HasCommand commands ↔ f.IsGlobal ∨ ∃ command ∈ commands, f.scope = .command command := by
  unfold HasCommand IsGlobal
  cases f.scope with
  | everywhere => simp
  | command name => simp

instance (f : Flag) (commands : List String) : Decidable (f.HasCommand commands) :=
  decidable_of_iff _ hasCommand_iff.symm

/-- How a flag offends against the commands and the flags before it. Of several rules that it
breaks, the first one counts. -/
inductive Offends (commands : List String) (before : List Flag) (f : Flag) :
    RegistrationError → Prop where
  | unknownScope (command : String) : f.scope = .command command → command ∉ commands →
      Offends commands before f (.unknownScope f.name command)
  | malformed : f.HasCommand commands → f.IsMalformed →
      Offends commands before f (.invalidName f.name)
  | reserved : f.HasCommand commands → ¬f.IsMalformed → f.IsReserved →
      Offends commands before f (.reservedFlag f.name)
  | collides (g : Flag) : f.HasCommand commands → ¬f.IsMalformed → ¬f.IsReserved →
      (before.find? fun other => decide (other.Collides f)) = some g →
      Offends commands before f
        (.duplicateFlag f.name (if f.IsGlobal then g.scope else f.scope))

end Flag

namespace Registry

variable {α : Type}

/-- Nothing in the lists offends. -/
structure Admissible (commands : List (Command α)) (flags : List Flag) : Prop where
  named : ∀ c ∈ commands, Text.IsName c.name
  distinct : (commands.map Command.name).Nodup
  hasCommand : ∀ f ∈ flags, f.HasCommand (commands.map Command.name)
  wellFormed : ∀ f ∈ flags, ¬f.IsMalformed
  unreserved : ∀ f ∈ flags, ¬f.IsReserved
  apart : flags.Pairwise fun f g => ¬f.Collides g

instance (commands : List (Command α)) (flags : List Flag) :
    Decidable (Admissible commands flags) :=
  decidable_of_iff
    ((∀ c ∈ commands, Text.IsName c.name) ∧ (commands.map Command.name).Nodup
      ∧ (∀ f ∈ flags, f.HasCommand (commands.map Command.name)) ∧ (∀ f ∈ flags, ¬f.IsMalformed)
      ∧ (∀ f ∈ flags, ¬f.IsReserved) ∧ flags.Pairwise fun f g => ¬f.Collides g)
    ⟨fun ⟨h₁, h₂, h₃, h₄, h₅, h₆⟩ => ⟨h₁, h₂, h₃, h₄, h₅, h₆⟩,
      fun h => ⟨h.named, h.distinct, h.hasCommand, h.wellFormed, h.unreserved, h.apart⟩⟩

/-- Without flags, the names of the commands have to be usable and distinct. -/
theorem admissible_nil_iff {commands : List (Command α)} :
    Admissible commands []
      ↔ (∀ c ∈ commands, Text.IsName c.name) ∧ (commands.map Command.name).Nodup := by
  constructor
  · intro h
    exact ⟨h.named, h.distinct⟩
  · rintro ⟨hnamed, hdistinct⟩
    exact ⟨hnamed, hdistinct, by simp, by simp, by simp, List.Pairwise.nil⟩

/-- The orders in the lists do not matter. -/
theorem Admissible.perm {commands commands' : List (Command α)} {flags flags' : List Flag}
    (h : Admissible commands flags) (hcommands : commands.Perm commands')
    (hflags : flags.Perm flags') : Admissible commands' flags' where
  named c hc := h.named c (hcommands.mem_iff.mpr hc)
  distinct := (hcommands.map Command.name).nodup_iff.mp h.distinct
  hasCommand f hf command hscope := by
    have hmem := h.hasCommand f (hflags.mem_iff.mpr hf) command hscope
    exact (hcommands.map Command.name).mem_iff.mp hmem
  wellFormed f hf := h.wellFormed f (hflags.mem_iff.mpr hf)
  unreserved f hf := h.unreserved f (hflags.mem_iff.mpr hf)
  apart := by
    -- collision is symmetric, so it does not matter which of two flags comes first
    have hsymm : ∀ {f g : Flag}, ¬f.Collides g → ¬g.Collides f :=
      fun hapart hcollides => hapart hcollides.symm
    exact (hflags.pairwise_iff hsymm).mp h.apart

/-! ## One registration -/

section Step

variable {r extended : Registry α}

/-- What it takes to register a command, and what comes of it. -/
theorem registerCommand_eq_ok_iff (h : r.commands.Consistent) {c : Command α} :
    r.registerCommand c = .ok extended
      ↔ Text.IsName c.name ∧ c.name ∉ r.commands.names
        ∧ extended = { r with commands := r.commands.extend c } := by
  have hmap : r.registerCommand c
      = (fun commands => { r with commands }) <$> r.commands.register c := rfl
  rw [hmap, map_eq_ok_iff]
  constructor
  · rintro ⟨commands, hok, rfl⟩
    obtain ⟨hname, hnew, rfl⟩ := (CommandRegistry.register_eq_ok_iff h).mp hok
    exact ⟨hname, hnew, rfl⟩
  · rintro ⟨hname, hnew, rfl⟩
    exact ⟨_, (CommandRegistry.register_eq_ok_iff h).mpr ⟨hname, hnew, rfl⟩, rfl⟩

/-- A command is refused exactly for its offence against those before. -/
theorem registerCommand_eq_error_iff (h : r.commands.Consistent) {c : Command α}
    {e : RegistrationError} :
    r.registerCommand c = .error e ↔ c.Offends r.commands.commands e := by
  have herror : r.registerCommand c = .error e ↔ r.commands.register c = .error e := by
    unfold registerCommand
    cases r.commands.register c <;> simp [Except.map]
  rw [herror, CommandRegistry.register_eq_error_iff h]
  constructor
  · rintro (⟨hname, rfl⟩ | ⟨hname, htaken, rfl⟩)
    · exact .invalidName hname
    · exact .duplicate hname htaken
  · rintro (hname | ⟨hname, htaken⟩)
    · exact .inl ⟨hname, rfl⟩
    · exact .inr ⟨hname, htaken, rfl⟩

/-- The registry misses the command of a flag exactly if no such command is registered. -/
theorem lacksScope_iff (h : r.commands.Consistent) {f : Flag} :
    r.LacksScope f ↔ ¬f.HasCommand r.commands.names := by
  rw [Flag.hasCommand_iff]
  unfold LacksScope Flag.IsGlobal
  cases f.scope with
  | everywhere => simp
  | command name => simp [← h.contains_iff]

/-- The flag of a registered command is left to the registry of flags. -/
theorem registerFlag_of_hasCommand (h : r.commands.Consistent) {f : Flag}
    (hcommand : f.HasCommand r.commands.names) :
    r.registerFlag f = (fun flags => { r with flags }) <$> r.flags.register f :=
  if_neg fun hlacks => (lacksScope_iff h).mp hlacks hcommand

/-- A flag of a missing command is refused for that, whatever else is wrong with it. -/
theorem registerFlag_of_not_hasCommand (h : r.commands.Consistent) {f : Flag}
    (hcommand : ¬f.HasCommand r.commands.names) :
    r.registerFlag f = .error (missingScope f) :=
  if_pos ((lacksScope_iff h).mpr hcommand)

/-- What it takes to register a flag, and what comes of it. -/
theorem registerFlag_eq_ok_iff (h : r.commands.Consistent) {f : Flag} :
    r.registerFlag f = .ok extended
      ↔ f.HasCommand r.commands.names ∧ (¬f.IsMalformed ∧ ¬f.IsReserved ∧ r.flags.Fresh f)
        ∧ extended = { r with flags := ⟨r.flags.flags ++ [f]⟩ } := by
  by_cases hcommand : f.HasCommand r.commands.names
  · rw [registerFlag_of_hasCommand h hcommand, map_eq_ok_iff]
    constructor
    · rintro ⟨flags, hok, rfl⟩
      obtain ⟨haccepted, rfl⟩ := FlagRegistry.register_eq_ok_iff.mp hok
      exact ⟨hcommand, haccepted, rfl⟩
    · rintro ⟨-, haccepted, rfl⟩
      exact ⟨_, FlagRegistry.register_eq_ok_iff.mpr ⟨haccepted, rfl⟩, rfl⟩
  · rw [registerFlag_of_not_hasCommand h hcommand]
    simp [hcommand]

/-- The error of a flag whose command is missing names both. -/
theorem missingScope_eq {f : Flag} {command : String} (h : f.scope = .command command) :
    missingScope f = .unknownScope f.name command := by
  rw [missingScope, h]

/-- A flag is refused exactly for its offence against the commands and the flags before. -/
theorem registerFlag_eq_error_iff (h : r.commands.Consistent) {f : Flag} {e : RegistrationError} :
    r.registerFlag f = .error e ↔ f.Offends r.commands.names r.flags.flags e := by
  by_cases hcommand : f.HasCommand r.commands.names
  case neg =>
    rw [registerFlag_of_not_hasCommand h hcommand]
    obtain ⟨command, hscope, hmissing⟩ : ∃ command, f.scope = .command command
        ∧ command ∉ r.commands.names := by
      simpa [Flag.HasCommand] using hcommand
    rw [missingScope_eq hscope]
    constructor
    · rintro ⟨⟩
      exact .unknownScope command hscope hmissing
    · intro hoffends
      cases hoffends with
      | unknownScope other hother =>
        obtain rfl : command = other := FlagScope.command.inj (hscope.symm.trans hother)
        rfl
      | malformed hhas => exact absurd hhas hcommand
      | reserved hhas => exact absurd hhas hcommand
      | collides g hhas => exact absurd hhas hcommand
  case pos =>
    have hmap : r.registerFlag f = .error e ↔ r.flags.register f = .error e := by
      rw [registerFlag_of_hasCommand h hcommand]
      cases r.flags.register f <;> simp [Functor.map, Except.map]
    rw [hmap, FlagRegistry.register_eq]
    constructor
    · intro herror
      split at herror
      case isTrue hmalformed =>
        cases herror
        exact .malformed hcommand hmalformed
      case isFalse hformed =>
        split at herror
        case isTrue hreserved =>
          cases herror
          exact .reserved hcommand hformed hreserved
        case isFalse hfree =>
          split at herror
          case h_1 g hfind =>
            cases herror
            exact .collides g hcommand hformed hfree hfind
          case h_2 => cases herror
    · intro hoffends
      cases hoffends with
      | unknownScope command hscope hmissing => exact absurd (hcommand command hscope) hmissing
      | malformed _ hmalformed => rw [if_pos hmalformed]
      | reserved _ hformed hreserved => rw [if_neg hformed, if_pos hreserved]
      | collides g _ hformed hfree hfind => rw [if_neg hformed, if_neg hfree, hfind]

end Step

/-! ## Lists of registrations -/

section Fold

variable {r extended : Registry α}

/-- What it takes to register a list of commands on top of others. -/
theorem foldlM_registerCommand_eq_ok_iff (h : r.commands.Consistent)
    {commands : List (Command α)} :
    commands.foldlM registerCommand r = .ok extended
      ↔ (∀ c ∈ commands, Text.IsName c.name)
        ∧ (r.commands.names ++ commands.map Command.name).Nodup
        ∧ extended = { r with commands := commands.foldl CommandRegistry.extend r.commands } := by
  induction commands generalizing r with
  | nil =>
    constructor
    · rintro ⟨⟩
      exact ⟨by simp, by simpa using h.nodup, rfl⟩
    · rintro ⟨-, -, rfl⟩
      rfl
  | cons c rest ih =>
    -- the names of the extended registry are those up to and with the new one
    have hnames : r.commands.names ++ (c :: rest).map Command.name
        = (r.commands.extend c).names ++ rest.map Command.name := by simp
    rw [List.foldlM_cons, bind_eq_ok_iff, hnames]
    constructor
    · rintro ⟨next, hnext, hrest⟩
      obtain ⟨hname, hnew, rfl⟩ := (registerCommand_eq_ok_iff h).mp hnext
      obtain ⟨hothers, hnodup, rfl⟩ := (ih (h.extend hname hnew)).mp hrest
      exact ⟨List.forall_mem_cons.mpr ⟨hname, hothers⟩, hnodup, rfl⟩
    · rintro ⟨hall, hnodup, rfl⟩
      obtain ⟨hname, hothers⟩ := List.forall_mem_cons.mp hall
      have hnew : c.name ∉ r.commands.names := by
        rw [CommandRegistry.names_extend] at hnodup
        have hfront := (List.nodup_append.mp hnodup).1
        intro hmem
        exact (List.nodup_append.mp hfront).2.2 _ hmem _ (List.mem_singleton.mpr rfl) rfl
      refine ⟨_, (registerCommand_eq_ok_iff h).mpr ⟨hname, hnew, rfl⟩, ?_⟩
      exact (ih (h.extend hname hnew)).mpr ⟨hothers, hnodup, rfl⟩

/-- What it takes to register a list of flags on top of others. -/
theorem foldlM_registerFlag_eq_ok_iff (h : r.commands.Consistent)
    (hflags : r.flags.flags.Pairwise fun f g => ¬f.Collides g) {flags : List Flag} :
    flags.foldlM registerFlag r = .ok extended
      ↔ (∀ f ∈ flags, f.HasCommand r.commands.names ∧ ¬f.IsMalformed ∧ ¬f.IsReserved)
        ∧ (r.flags.flags ++ flags).Pairwise (fun f g => ¬f.Collides g)
        ∧ extended = { r with flags := ⟨r.flags.flags ++ flags⟩ } := by
  induction flags generalizing r with
  | nil =>
    constructor
    · rintro ⟨⟩
      exact ⟨by simp, by simpa using hflags, by simp⟩
    · rintro ⟨-, -, rfl⟩
      simp [pure, Except.pure]
  | cons f rest ih =>
    have happend : r.flags.flags ++ f :: rest = (r.flags.flags ++ [f]) ++ rest := by simp
    rw [List.foldlM_cons, bind_eq_ok_iff, happend]
    constructor
    · rintro ⟨next, hnext, hrest⟩
      obtain ⟨hcommand, ⟨hformed, hfree, hfresh⟩, rfl⟩ := (registerFlag_eq_ok_iff h).mp hnext
      have hapart : (r.flags.flags ++ [f]).Pairwise fun f g => ¬f.Collides g := by
        refine List.pairwise_append.mpr ⟨hflags, List.pairwise_singleton _ _, fun g hg f' hf' => ?_⟩
        rw [List.mem_singleton.mp hf']
        exact hfresh g hg
      obtain ⟨hothers, hpairs, rfl⟩ :=
        (ih (r := { r with flags := ⟨r.flags.flags ++ [f]⟩ }) h hapart).mp hrest
      exact ⟨List.forall_mem_cons.mpr ⟨⟨hcommand, hformed, hfree⟩, hothers⟩, hpairs, rfl⟩
    · rintro ⟨hall, hpairs, rfl⟩
      obtain ⟨⟨hcommand, hformed, hfree⟩, hothers⟩ := List.forall_mem_cons.mp hall
      have hapart := (List.pairwise_append.mp hpairs).1
      have hfresh : r.flags.Fresh f := fun g hg =>
        (List.pairwise_append.mp hapart).2.2 g hg f (List.mem_singleton.mpr rfl)
      refine ⟨_, (registerFlag_eq_ok_iff h).mpr ⟨hcommand, ⟨hformed, hfree, hfresh⟩, rfl⟩, ?_⟩
      exact (ih (r := { r with flags := ⟨r.flags.flags ++ [f]⟩ }) h hapart).mpr
        ⟨hothers, hpairs, rfl⟩

end Fold

/-- The registry of a list of commands and a list of flags. -/
def ofLists (commands : List (Command α)) (flags : List Flag) : Registry α where
  commands := commands.foldl CommandRegistry.extend ∅
  flags := ⟨flags⟩

theorem commands_foldl_extend (r : CommandRegistry α) (commands : List (Command α)) :
    (commands.foldl CommandRegistry.extend r).commands = r.commands ++ commands := by
  induction commands generalizing r with
  | nil => simp
  | cons c rest ih => simp [ih, CommandRegistry.extend]

/-- The registry of two lists keeps the commands as they are given. -/
theorem commands_ofLists (commands : List (Command α)) (flags : List Flag) :
    (ofLists commands flags).commands.commands = commands :=
  commands_foldl_extend ∅ commands

theorem names_ofLists (commands : List (Command α)) (flags : List Flag) :
    (ofLists commands flags).commands.names = commands.map Command.name := by
  rw [CommandRegistry.names, commands_ofLists]

section All

variable {commands : List (Command α)} {flags : List Flag}

/-- The log has no part in how the registration of two lists ends. -/
theorem result_registerAll (commands : List (Command α)) (flags : List Flag) :
    (registerAll commands flags).result
      = commands.foldlM registerCommand ∅ >>= fun r => flags.foldlM registerFlag r := by
  have hcommands : ∀ r : Registry α, (commands.foldlM registerCommandLogged r).result
      = commands.foldlM registerCommand r := by
    intro r
    simp only [Journal.result_foldlM, result_registerCommandLogged]
  have hflags : ∀ r : Registry α, (flags.foldlM registerFlagLogged r).result
      = flags.foldlM registerFlag r := by
    intro r
    simp only [Journal.result_foldlM, result_registerFlagLogged]
  simp only [registerAll, Journal.result_bind, hcommands, hflags]

/-- The commands alone are registered exactly if they are admissible. -/
theorem foldlM_registerCommand_empty {r : Registry α} :
    commands.foldlM registerCommand ∅ = .ok r
      ↔ Admissible commands [] ∧ r = ofLists commands [] := by
  refine (foldlM_registerCommand_eq_ok_iff (r := ∅) CommandRegistry.consistent_empty).trans ?_
  rw [admissible_nil_iff, and_assoc]
  exact Iff.rfl

theorem consistent_ofLists (h : Admissible commands []) :
    (ofLists commands []).commands.Consistent := by
  have hfold := foldlM_registerCommand_empty.mpr ⟨h, rfl⟩
  have hregistered : (registerAll commands []).result = .ok (ofLists commands []) := by
    rw [result_registerAll, hfold]
    rfl
  exact (reachable_of_registerAll hregistered).consistent

/-- After admissible commands, the flags are registered exactly if both are admissible. -/
theorem foldlM_registerFlag_ofLists (h : Admissible commands []) {r : Registry α} :
    flags.foldlM registerFlag (ofLists commands []) = .ok r
      ↔ Admissible commands flags ∧ r = ofLists commands flags := by
  refine (foldlM_registerFlag_eq_ok_iff (consistent_ofLists h) List.Pairwise.nil).trans ?_
  rw [names_ofLists]
  constructor
  · rintro ⟨hall, hapart, rfl⟩
    refine ⟨⟨h.named, h.distinct, fun f hf => (hall f hf).1, fun f hf => (hall f hf).2.1,
      fun f hf => (hall f hf).2.2, hapart⟩, rfl⟩
  · rintro ⟨hadm, rfl⟩
    exact ⟨fun f hf => ⟨hadm.hasCommand f hf, hadm.wellFormed f hf, hadm.unreserved f hf⟩,
      hadm.apart, rfl⟩

theorem Admissible.commandsOnly (h : Admissible commands flags) : Admissible commands [] :=
  admissible_nil_iff.mpr ⟨h.named, h.distinct⟩

/-- Two lists are registered exactly if they are admissible, and then as they are. -/
theorem result_registerAll_eq_ok_iff {r : Registry α} :
    (registerAll commands flags).result = .ok r
      ↔ Admissible commands flags ∧ r = ofLists commands flags := by
  rw [result_registerAll, bind_eq_ok_iff]
  constructor
  · rintro ⟨withCommands, hcommands, hflags⟩
    obtain ⟨hadm, rfl⟩ := foldlM_registerCommand_empty.mp hcommands
    exact (foldlM_registerFlag_ofLists hadm).mp hflags
  · intro h
    have hadm := h.1.commandsOnly
    exact ⟨_, foldlM_registerCommand_empty.mpr ⟨hadm, rfl⟩,
      (foldlM_registerFlag_ofLists hadm).mpr h⟩

/-- A list of commands is refused for the first one that offends against those before it. -/
theorem foldlM_registerCommand_eq_error_iff {e : RegistrationError} :
    commands.foldlM registerCommand ∅ = .error e
      ↔ ∃ front c back, commands = front ++ c :: back
        ∧ Admissible front [] ∧ c.Offends front e := by
  rw [foldlM_eq_error_iff]
  constructor
  · rintro ⟨front, c, back, r, heq, hfront, hc⟩
    obtain ⟨hadm, rfl⟩ := foldlM_registerCommand_empty.mp hfront
    rw [registerCommand_eq_error_iff (consistent_ofLists hadm), commands_ofLists] at hc
    exact ⟨front, c, back, heq, hadm, hc⟩
  · rintro ⟨front, c, back, heq, hadm, hc⟩
    refine ⟨front, c, back, _, heq, foldlM_registerCommand_empty.mpr ⟨hadm, rfl⟩, ?_⟩
    rw [registerCommand_eq_error_iff (consistent_ofLists hadm), commands_ofLists]
    exact hc

/-- A list of flags is refused for the first one that offends against what is before it. -/
theorem foldlM_registerFlag_eq_error_iff (h : Admissible commands []) {e : RegistrationError} :
    flags.foldlM registerFlag (ofLists commands []) = .error e
      ↔ ∃ front f back, flags = front ++ f :: back ∧ Admissible commands front
        ∧ f.Offends (commands.map Command.name) front e := by
  -- whatever flags came first, the commands are the same
  have hstep : ∀ front f, (ofLists commands front).registerFlag f = .error e
      ↔ f.Offends (commands.map Command.name) front e := by
    intro front f
    have hconsistent : (ofLists commands front).commands.Consistent := consistent_ofLists h
    rw [registerFlag_eq_error_iff hconsistent, names_ofLists]
    rfl
  rw [foldlM_eq_error_iff]
  constructor
  · rintro ⟨front, f, back, r, heq, hfront, hf⟩
    obtain ⟨hadm, rfl⟩ := (foldlM_registerFlag_ofLists h).mp hfront
    exact ⟨front, f, back, heq, hadm, (hstep front f).mp hf⟩
  · rintro ⟨front, f, back, heq, hadm, hf⟩
    exact ⟨front, f, back, _, heq, (foldlM_registerFlag_ofLists h).mpr ⟨hadm, rfl⟩,
      (hstep front f).mpr hf⟩

/-- Two lists are refused for the first offence, and the commands come before the flags. -/
theorem result_registerAll_eq_error_iff {e : RegistrationError} :
    (registerAll commands flags).result = .error e
      ↔ (∃ front c back, commands = front ++ c :: back ∧ Admissible front [] ∧ c.Offends front e)
        ∨ Admissible commands [] ∧ ∃ front f back, flags = front ++ f :: back
          ∧ Admissible commands front ∧ f.Offends (commands.map Command.name) front e := by
  rw [result_registerAll, ← foldlM_registerCommand_eq_error_iff]
  cases hcommands : commands.foldlM registerCommand (∅ : Registry α) with
  | error found =>
    -- commands that are not all registered are not admissible
    have hnot : ¬Admissible commands [] := by
      intro hadm
      rw [foldlM_registerCommand_empty.mpr ⟨hadm, rfl⟩] at hcommands
      cases hcommands
    simp only [hnot, false_and, or_false]
    exact Iff.rfl
  | ok r =>
    obtain ⟨hadm, rfl⟩ := foldlM_registerCommand_empty.mp hcommands
    show flags.foldlM registerFlag (ofLists commands []) = _ ↔ _
    rw [foldlM_registerFlag_eq_error_iff hadm]
    simp [hadm]

end All

/-- Lists of commands and flags are registered exactly if they are admissible: the names of the
commands are usable and differ, each flag is for a command in the list or for all, its spellings are
usable and free, and no two flags whose scopes overlap share one. They are then registered as they
are. Otherwise the first command that offends against those before it is told, or, if none does, the
first flag that offends against the commands and the flags before it. The orders in the lists decide
on the error, but not on whether there is one. -/
theorem registerAll_admits (commands : List (Command α)) (flags : List Flag) :
    ((∃ r, (registerAll commands flags).result = .ok r) ↔ Admissible commands flags)
      ∧ (∀ r, (registerAll commands flags).result = .ok r →
        r.commands.commands = commands ∧ r.flags.flags = flags)
      ∧ (∀ e, (registerAll commands flags).result = .error e
        ↔ (∃ front c back, commands = front ++ c :: back ∧ Admissible front [] ∧ c.Offends front e)
          ∨ Admissible commands [] ∧ ∃ front f back, flags = front ++ f :: back
            ∧ Admissible commands front ∧ f.Offends (commands.map Command.name) front e)
      ∧ ∀ commands' flags', commands.Perm commands' → flags.Perm flags' →
        ((∃ r, (registerAll commands flags).result = .ok r)
          ↔ ∃ r, (registerAll commands' flags').result = .ok r) := by
  have hok : ∀ (cs : List (Command α)) (fs : List Flag),
      (∃ r, (registerAll cs fs).result = .ok r) ↔ Admissible cs fs := by
    intro cs fs
    simp [result_registerAll_eq_ok_iff]
  refine ⟨hok commands flags, fun r hr => ?_, fun e => result_registerAll_eq_error_iff, ?_⟩
  · obtain ⟨-, rfl⟩ := result_registerAll_eq_ok_iff.mp hr
    exact ⟨commands_ofLists commands flags, rfl⟩
  · intro commands' flags' hcommands hflags
    rw [hok, hok]
    exact ⟨fun h => h.perm hcommands hflags, fun h => h.perm hcommands.symm hflags.symm⟩

/-- Two commands, and two flags of one name in different scopes, in either order. -/
theorem registerAll_admits_swapped :
    let server : Command Unit := { name := "server", usage := "", action := () }
    let gateway : Command Unit := { name := "gateway", usage := "", action := () }
    let address (command : String) := (Flag.value "address" "").forCommand command
    (∃ r, (registerAll [gateway, server] [address "gateway", address "server"]).result = .ok r)
      ∧ ∃ r, (registerAll [server, gateway] [address "server", address "gateway"]).result
        = .ok r := by
  intro server gateway address
  obtain ⟨hadmissible, -, -, hperm⟩ :=
    registerAll_admits [server, gateway] [address "server", address "gateway"]
  have hok := hadmissible.mpr (by decide)
  have hswapped :=
    hperm [gateway, server] [address "gateway", address "server"] (.swap ..) (.swap ..)
  exact ⟨hswapped.mp hok, hok⟩

end Registry

end CommandFront
