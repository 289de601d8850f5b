import CommandFront.Proofs.DeclaredLevels
import Mathlib.Data.List.Perm.Basic

/-!
# The scopes part the flags

Commands and flags are registered in any order, and some of them are refused. A flag is checked
against the commands that are there when it comes; since commands only come and never go, the check
stays good.

- `perm_flatMap_filter`: a list is parted by a key.
- `Registry.Call`, `Registry.attempt`, `Registry.ofCalls`: registrations of either kind, of which
  some may be refused.
- `Registry.attempt_command`, `Registry.attempt_flag`: what one of them does.
- `Registry.levels`, `Registry.declaredOn`: the levels of a registry, and what is declared on each.
- `Registry.flags_parted_by_scope`: after any registrations, each flag is global or a flag of one
  registered command, and is declared on the level of that scope alone.
-/

namespace CommandFront

/-- A list is parted by a key that takes its values among different ones. -/
theorem perm_flatMap_filter {α κ : Type} [DecidableEq κ] {keys : List κ} (hkeys : keys.Nodup)
    {l : List α} {key : α → κ} (h : ∀ a ∈ l, key a ∈ keys) :
    (keys.flatMap fun k => l.filter fun a => decide (key a = k)).Perm l := by
  induction keys generalizing l with
  | nil =>
    cases l with
    | nil => exact .nil
    | cons a rest => exact absurd (h a List.mem_cons_self) List.not_mem_nil
  | cons k rest ih =>
    obtain ⟨hk, hrest⟩ := List.nodup_cons.mp hkeys
    -- what is left without the first key has its keys among the others
    have hothers : ∀ a ∈ l.filter fun a => !decide (key a = k), key a ∈ rest := by
      intro a ha
      obtain ⟨hmem, hne⟩ := List.mem_filter.mp ha
      rw [Bool.not_eq_true', decide_eq_false_iff_not] at hne
      exact (List.mem_cons.mp (h a hmem)).resolve_left hne
    have hsame : (rest.flatMap fun k' => l.filter fun a => decide (key a = k'))
        = rest.flatMap fun k' =>
          (l.filter fun a => !decide (key a = k)).filter fun a => decide (key a = k') := by
      refine List.flatMap_congr fun k' hk' => ?_
      rw [List.filter_filter]
      refine List.filter_congr fun a _ => ?_
      by_cases ha : key a = k'
      · have hne : key a ≠ k := by
          rw [ha]
          rintro rfl
          exact hk hk'
        simp [ha, ha ▸ hne]
      · simp [ha]
    rw [List.flatMap_cons, hsame]
    exact ((ih hrest hothers).append_left _).trans
      (List.filter_append_perm (fun a => decide (key a = k)) l)

namespace Registry

variable {α : Type}

/-! ## Registrations of either kind -/

/-- A registration. -/
inductive Call (α : Type) where
  /-- A command is registered. -/
  | command (command : Command α)
  /-- A flag is registered. -/
  | flag (flag : Flag)

/-- The registry with what is registered. -/
def register (r : Registry α) : Call α → Except RegistrationError (Registry α)
  | .command command => r.registerCommand command
  | .flag flag => r.registerFlag flag

/-- A registration that leaves the registry as it is when it is refused. -/
def attempt (r : Registry α) (call : Call α) : Registry α :=
  match r.register call with
  | .ok extended => extended
  | .error _ => r

/-- The registry after a list of registrations, of which some may be refused. -/
def ofCalls (calls : List (Call α)) : Registry α :=
  calls.foldl attempt ∅

section Attempt

variable {r extended : Registry α} {call : Call α}

theorem attempt_of_ok (h : r.register call = .ok extended) : r.attempt call = extended := by
  rw [attempt, h]

/-- A call that is refused leaves the registry as it is. -/
theorem attempt_of_error {e : RegistrationError} (h : r.register call = .error e) :
    r.attempt call = r := by
  rw [attempt, h]

/-- A command comes after the others, unless its name is none or is taken. -/
theorem attempt_command (h : r.commands.Consistent) (command : Command α) :
    r.attempt (.command command)
      = if Text.IsName command.name ∧ command.name ∉ r.commands.names then
          { r with commands := r.commands.extend command }
        else r := by
  split
  case isTrue haccepted =>
    exact attempt_of_ok ((registerCommand_eq_ok_iff h).mpr ⟨haccepted.1, haccepted.2, rfl⟩)
  case isFalse hrefused =>
    cases hres : r.register (.command command) with
    | error e => exact attempt_of_error hres
    | ok extended =>
      obtain ⟨hname, hnew, -⟩ := (registerCommand_eq_ok_iff h).mp hres
      exact absurd ⟨hname, hnew⟩ hrefused

/-- A flag comes after the others, unless its command is missing, or a spelling is unusable or
taken. -/
theorem attempt_flag (h : r.commands.Consistent) (flag : Flag) :
    r.attempt (.flag flag)
      = if flag.HasCommand r.commands.names ∧ ¬flag.IsMalformed ∧ ¬flag.IsReserved
            ∧ r.flags.Fresh flag then
          { r with flags := ⟨r.flags.flags ++ [flag]⟩ }
        else r := by
  split
  case isTrue haccepted =>
    exact attempt_of_ok ((registerFlag_eq_ok_iff h).mpr ⟨haccepted.1, haccepted.2, rfl⟩)
  case isFalse hrefused =>
    cases hres : r.register (.flag flag) with
    | error e => exact attempt_of_error hres
    | ok extended =>
      obtain ⟨hcommand, hfree, -⟩ := (registerFlag_eq_ok_iff h).mp hres
      exact absurd ⟨hcommand, hfree⟩ hrefused

/-- A call that registers a command has no part in the flags. -/
theorem flags_attempt_command (h : r.commands.Consistent) (command : Command α) :
    (r.attempt (.command command)).flags = r.flags := by
  rw [attempt_command h]
  split <;> rfl

/-- A call that registers a flag has no part in the commands. -/
theorem commands_attempt_flag (h : r.commands.Consistent) (flag : Flag) :
    (r.attempt (.flag flag)).commands = r.commands := by
  rw [attempt_flag h]
  split <;> rfl

/-- Any call leads from one reachable registry to another. -/
theorem Reachable.attempt (h : r.Reachable) (call : Call α) : (r.attempt call).Reachable := by
  cases hres : r.register call with
  | error e =>
    rw [attempt_of_error hres]
    exact h
  | ok extended =>
    rw [attempt_of_ok hres]
    cases call with
    | command command => exact h.registerCommand command hres
    | flag flag => exact h.registerFlag flag hres

theorem reachable_foldl_attempt (h : r.Reachable) (calls : List (Call α)) :
    (calls.foldl Registry.attempt r).Reachable := by
  induction calls generalizing r with
  | nil => exact h
  | cons call rest ih => exact ih (h.attempt call)

/-- Any sequence of calls leads to a reachable registry. -/
theorem reachable_ofCalls (calls : List (Call α)) : (ofCalls calls).Reachable :=
  reachable_foldl_attempt .empty calls

end Attempt

/-! ## The lists of the scopes -/

/-- The levels that accept flags: the root level, and one for each command. -/
def levels (r : Registry α) : List FlagScope :=
  .everywhere :: r.commands.names.map .command

/-- The flags that are declared on a level. It accepts those of the root level besides. -/
def declaredOn (r : Registry α) : FlagScope → List Flag
  | .everywhere => r.rootLevel
  | .command name => r.flags.forCommand name

namespace Reachable

variable {r : Registry α} (h : r.Reachable)

include h

/-- The scope of each flag is one of the levels. -/
theorem scope_mem_levels {f : Flag} (hf : f ∈ r.flags.flags) : f.scope ∈ r.levels := by
  cases hscope : f.scope with
  | everywhere => exact List.mem_cons_self
  | command name =>
    exact List.mem_cons_of_mem _ (List.mem_map_of_mem (h.hasCommand f hf name hscope))

/-- No level comes twice, as no command does. -/
theorem nodup_levels : r.levels.Nodup := by
  refine List.nodup_cons.mpr ⟨fun hmem => ?_, ?_⟩
  · obtain ⟨name, -, heq⟩ := List.mem_map.mp hmem
    cases heq
  · exact List.pairwise_map.mpr (h.consistent.nodup.imp fun hne heq =>
      hne (FlagScope.command.inj heq))

/-- The global flags and those of each command are the flags, none lost and none repeated. -/
theorem perm_flags :
    (r.flags.globals ++ r.commands.names.flatMap r.flags.forCommand).Perm r.flags.flags := by
  have hparted := perm_flatMap_filter h.nodup_levels fun f hf => h.scope_mem_levels hf
  rw [levels, List.flatMap_cons, List.flatMap_map] at hparted
  exact hparted

/-- A flag is declared on the level of its scope alone. -/
theorem mem_declaredOn_iff {f : Flag} (hf : f ∈ r.flags.flags) {scope : FlagScope} :
    f ∈ r.declaredOn scope ↔ scope = f.scope := by
  cases scope with
  | everywhere =>
    have hhelp : f ≠ Flag.help := by
      rintro rfl
      exact h.separate.unreserved _ hf (by decide)
    show f ∈ r.rootLevel ↔ _
    rw [mem_rootLevel_iff, or_iff_right hhelp]
    exact ⟨fun hglobal => hglobal.2.symm, fun hscope => ⟨hf, hscope.symm⟩⟩
  | command name =>
    show f ∈ r.flags.forCommand name ↔ _
    rw [FlagRegistry.forCommand, List.mem_filter, decide_eq_true_eq]
    exact ⟨fun hown => hown.2.symm, fun hscope => ⟨hf, hscope.symm⟩⟩

/-- What is declared over all levels is the help flag and each registered flag, once. -/
theorem perm_declared : (r.levels.flatMap r.declaredOn).Perm (Flag.help :: r.flags.flags) := by
  rw [levels, List.flatMap_cons, List.flatMap_map]
  exact h.perm_flags.cons Flag.help

end Reachable

/-- After any registrations, refused ones among them: the command that a flag is for is registered.
Each flag is a global one or one of a single command, and the lists of these are the flags parted,
in their order. Over all levels each flag is declared once, on the level of its scope, and a command
accepts what is declared on its level and on the root level. A command that is registered leaves the
flags as they are, a flag the commands, and what is refused leaves both. -/
theorem flags_parted_by_scope (calls : List (Call α)) :
    (∀ f ∈ (ofCalls calls).flags.flags, ∀ name, f.scope = .command name →
        name ∈ (ofCalls calls).commands.names)
      ∧ (∀ f ∈ (ofCalls calls).flags.flags,
        (f ∈ (ofCalls calls).flags.globals ∧ ∀ name, f ∉ (ofCalls calls).flags.forCommand name)
          ∨ f ∉ (ofCalls calls).flags.globals
            ∧ ∃ command ∈ (ofCalls calls).commands.names,
              ∀ name, f ∈ (ofCalls calls).flags.forCommand name ↔ name = command)
      ∧ ((ofCalls calls).flags.globals
          ++ (ofCalls calls).commands.names.flatMap (ofCalls calls).flags.forCommand).Perm
        (ofCalls calls).flags.flags
      ∧ (ofCalls calls).flags.globals.Sublist (ofCalls calls).flags.flags
      ∧ (∀ name, ((ofCalls calls).flags.forCommand name).Sublist (ofCalls calls).flags.flags)
      ∧ (∀ f ∈ (ofCalls calls).flags.flags, ∃ level ∈ (ofCalls calls).levels,
        ∀ other, f ∈ (ofCalls calls).declaredOn other ↔ other = level)
      ∧ ((ofCalls calls).levels.flatMap (ofCalls calls).declaredOn).Perm
        (Flag.help :: (ofCalls calls).flags.flags)
      ∧ (∀ name, (ofCalls calls).commandLevel name
        = (ofCalls calls).declaredOn (.command name) ++ (ofCalls calls).declaredOn .everywhere)
      ∧ (∀ command : Command α,
        ((ofCalls calls).attempt (.command command)).flags = (ofCalls calls).flags
          ∧ (ofCalls calls).attempt (.command command)
            = if Text.IsName command.name ∧ command.name ∉ (ofCalls calls).commands.names then
                { ofCalls calls with commands := (ofCalls calls).commands.extend command }
              else ofCalls calls)
      ∧ (∀ flag : Flag,
        ((ofCalls calls).attempt (.flag flag)).commands = (ofCalls calls).commands
          ∧ (ofCalls calls).attempt (.flag flag)
            = if flag.HasCommand (ofCalls calls).commands.names ∧ ¬flag.IsMalformed
                  ∧ ¬flag.IsReserved ∧ (ofCalls calls).flags.Fresh flag then
                { ofCalls calls with flags := ⟨(ofCalls calls).flags.flags ++ [flag]⟩ }
              else ofCalls calls)
      ∧ ∀ (call : Call α) (e : RegistrationError), (ofCalls calls).register call = .error e →
        (ofCalls calls).attempt call = ofCalls calls := by
  have h := reachable_ofCalls calls
  have hconsistent := h.consistent
  refine ⟨fun f hf => h.hasCommand f hf, fun f hf => ?_, h.perm_flags, List.filter_sublist,
    fun name => List.filter_sublist, fun f hf => ?_, h.perm_declared, fun name => rfl,
    fun command => ⟨flags_attempt_command hconsistent command, attempt_command hconsistent command⟩,
    fun flag => ⟨commands_attempt_flag hconsistent flag, attempt_flag hconsistent flag⟩,
    fun call e => attempt_of_error⟩
  · have hown : ∀ name, f ∈ (ofCalls calls).flags.forCommand name ↔ .command name = f.scope := by
      intro name
      show f ∈ (ofCalls calls).declaredOn (.command name) ↔ _
      exact h.mem_declaredOn_iff hf
    have hglobal : f ∈ (ofCalls calls).flags.globals ↔ f.scope = .everywhere := by
      rw [FlagRegistry.globals, List.mem_filter, decide_eq_true_eq]
      exact and_iff_right hf
    simp only [hown, hglobal]
    cases hscope : f.scope with
    | everywhere => exact .inl ⟨rfl, fun name => FlagScope.noConfusion⟩
    | command command =>
      refine .inr ⟨FlagScope.noConfusion, command, h.hasCommand f hf command hscope, fun name => ?_⟩
      exact ⟨fun heq => FlagScope.command.inj heq, congrArg FlagScope.command⟩
  · exact ⟨f.scope, h.scope_mem_levels hf, fun other => h.mem_declaredOn_iff hf⟩

end Registry

namespace Sample

/-- Registrations of which three are refused: a flag that comes before its command, a command whose
name is taken, and a flag of the command with a spelling of a global one. -/
def calls : List (Registry.Call Action) :=
  [.flag json, .command version, .flag config, .command version, .flag json,
    .flag (config.forCommand "version")]

/-- The switch is declared on the level of its command alone, and does not come a second time. -/
theorem calls_parted_by_scope :
    json ∈ (Registry.ofCalls calls).flags.flags
      ∧ (∃ level ∈ (Registry.ofCalls calls).levels,
        ∀ other, json ∈ (Registry.ofCalls calls).declaredOn other ↔ other = level)
      ∧ (Registry.ofCalls calls).attempt (.flag json) = Registry.ofCalls calls := by
  have hmem : json ∈ (Registry.ofCalls calls).flags.flags := by decide
  have htaken : (Registry.ofCalls calls).register (.flag json)
      = .error (.duplicateFlag "json" (.command "version")) := by rfl
  obtain ⟨-, -, -, -, -, hdeclared, -, -, -, -, hrefused⟩ := Registry.flags_parted_by_scope calls
  exact ⟨hmem, hdeclared json hmem, hrefused (.flag json) _ htaken⟩

end Sample

end CommandFront
