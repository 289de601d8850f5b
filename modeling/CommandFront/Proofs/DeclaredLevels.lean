import CommandFront.Proofs.Admission
import CommandFront.Proofs.InvocationView

/-!
# What the levels of a registry declare

A parser of arguments is built from the levels of a registry: the root level, one for each command,
and one for the built-in help command. It wants everything that a level declares to be told apart.

Registration compares each flag with the flags that are there, and so keeps spellings of different
flags apart. It does not compare the spellings of one flag with each other, it does not know what a
spelling looks like to a parser, and it does not know the topic that the help command declares
beside the flags. These three are what is left, and each of them is a condition on single flags.

- `LevelDeclaration.WellFormed`: what a parser wants of a level.
- `Registry.declarations`, `Registry.subcommands`: the levels that a registry declares, and the
  sub-commands of its root level.
- `Registry.Reachable.hasCommand`: the command that a flag is for is registered.
- `LevelDeclaration.wellFormed_iff`: where every spelling stands for one flag, a level is
  well-formed if each of its flags can be declared and none takes the name of a positional.
- `Registry.declarations_wellFormed_iff`: what registration leaves to be checked.
-/

namespace CommandFront

/-- A flag can be declared: it has no spelling twice, and none starts with a hyphen. -/
structure Flag.Declarable (f : Flag) : Prop where
  nodup : f.longNames.Nodup
  unhyphened : ∀ name ∈ f.longNames, name.toList.head? ≠ some '-'

instance (f : Flag) : Decidable f.Declarable :=
  decidable_of_iff (f.longNames.Nodup ∧ ∀ name ∈ f.longNames, name.toList.head? ≠ some '-')
    ⟨fun h => ⟨h.1, h.2⟩, fun h => ⟨h.nodup, h.unhyphened⟩⟩

theorem Flag.declarable_help : Flag.help.Declarable := by
  decide

/-! ## One level -/

/-- What a level declares. -/
structure LevelDeclaration where
  /-- Its flags. -/
  flags : Level
  /-- The names of its positionals. -/
  positionals : List String
deriving DecidableEq, Repr

namespace LevelDeclaration

/-- The names under which something is held. -/
def names (d : LevelDeclaration) : List String :=
  d.positionals ++ d.flags.map Flag.name

/-- The long spellings, each as often as it is declared. -/
def longs (d : LevelDeclaration) : List String :=
  d.flags.flatMap Flag.longNames

/-- The short spellings. -/
def shorts (d : LevelDeclaration) : List Char :=
  d.flags.filterMap Flag.short

/-- Nothing is declared twice, and no long spelling starts with a hyphen. -/
structure WellFormed (d : LevelDeclaration) : Prop where
  names : d.names.Nodup
  longs : d.longs.Nodup
  unhyphened : ∀ name ∈ d.longs, name.toList.head? ≠ some '-'
  shorts : d.shorts.Nodup

variable {d : LevelDeclaration}

/-! ## Levels on which every spelling stands for one flag -/

section Distinct

variable (h : d.flags.Distinct)

include h

/-- On such a level no letter is declared twice. -/
theorem nodup_shorts : d.shorts.Nodup := by
  refine h.apart.filterMap Flag.short fun f g hapart c hf c' hg heq => ?_
  subst heq
  refine hapart (.inl ⟨?_, hf.trans hg.symm⟩)
  rw [hf]
  exact Option.some_ne_none c

/-- No two flags have one name. -/
theorem nodup_names : (d.flags.map Flag.name).Nodup := by
  refine List.pairwise_map.mpr (h.apart.imp fun {f g} hapart heq => ?_)
  exact hapart (.inr ⟨f.name, f.name_mem_longNames, heq ▸ g.name_mem_longNames⟩)

/-- A long spelling is declared twice only by one flag. -/
theorem nodup_longs_iff : d.longs.Nodup ↔ ∀ f ∈ d.flags, f.longNames.Nodup := by
  have hdisjoint : d.flags.Pairwise fun f g =>
      ∀ name ∈ f.longNames, ∀ name' ∈ g.longNames, name ≠ name' := by
    refine h.apart.imp fun {f g} hapart name hf name' hg heq => ?_
    subst heq
    exact hapart (.inr ⟨name, hf, hg⟩)
  constructor
  · intro hnodup
    exact (List.pairwise_flatMap.mp hnodup).1
  · intro hall
    exact List.pairwise_flatMap.mpr ⟨hall, hdisjoint⟩

/-- What is left to be checked on such a level. -/
theorem wellFormed_iff :
    d.WellFormed ↔ (∀ f ∈ d.flags, f.Declarable) ∧ d.positionals.Nodup
      ∧ ∀ f ∈ d.flags, f.name ∉ d.positionals := by
  constructor
  · intro hd
    obtain ⟨hpositionals, -, hapart⟩ := List.nodup_append.mp hd.names
    refine ⟨fun f hf => ⟨(nodup_longs_iff h).mp hd.longs f hf, fun name hname => ?_⟩,
      hpositionals, fun f hf hmem => ?_⟩
    · exact hd.unhyphened name (List.mem_flatMap.mpr ⟨f, hf, hname⟩)
    · exact hapart f.name hmem f.name (List.mem_map_of_mem hf) rfl
  · rintro ⟨hdeclarable, hpositionals, hfree⟩
    refine ⟨List.nodup_append.mpr ⟨hpositionals, nodup_names h, ?_⟩,
      (nodup_longs_iff h).mpr fun f hf => (hdeclarable f hf).nodup, ?_, nodup_shorts h⟩
    · rintro positional hmem name hname rfl
      obtain ⟨f, hf, rfl⟩ := List.mem_map.mp hname
      exact hfree f hf hmem
    · intro name hname
      obtain ⟨f, hf, hspelling⟩ := List.mem_flatMap.mp hname
      exact (hdeclarable f hf).unhyphened name hspelling

end Distinct

end LevelDeclaration

/-! ## The levels of a registry -/

namespace Registry

variable {α : Type} {r : Registry α} {d : LevelDeclaration}

/-- The levels that are declared: the root level, that of each command, and that of the help
command, which has a positional for its topic. The global flags are declared on each of them. -/
def declarations (r : Registry α) : List LevelDeclaration :=
  ⟨r.rootLevel, []⟩ :: (r.commands.names.map fun name => ⟨r.commandLevel name, []⟩)
    ++ if r.hasHelpCommand then [⟨r.rootLevel, [helpTopic]⟩] else []

/-- The sub-commands of the root level. -/
def subcommands (r : Registry α) : List String :=
  r.commands.names ++ if r.hasHelpCommand then [helpCommand] else []

theorem mem_declarations_iff :
    d ∈ r.declarations ↔ d = ⟨r.rootLevel, []⟩
      ∨ (∃ name ∈ r.commands.names, d = ⟨r.commandLevel name, []⟩)
      ∨ r.hasHelpCommand = true ∧ d = ⟨r.rootLevel, [helpTopic]⟩ := by
  have hhelp : (d ∈ if r.hasHelpCommand then [⟨r.rootLevel, [helpTopic]⟩] else [])
      ↔ r.hasHelpCommand = true ∧ d = ⟨r.rootLevel, [helpTopic]⟩ := by
    cases r.hasHelpCommand <;> simp
  have hcommand : (d ∈ r.commands.names.map fun name => (⟨r.commandLevel name, []⟩))
      ↔ ∃ name ∈ r.commands.names, d = ⟨r.commandLevel name, []⟩ := by
    simp only [List.mem_map, eq_comm]
  rw [declarations, List.mem_append, List.mem_cons, hcommand, hhelp, or_assoc]

/-- The flags that are declared are the registered ones and the help flag. -/
theorem eq_help_or_mem_of_declarations (hd : d ∈ r.declarations) {f : Flag} (hf : f ∈ d.flags) :
    f = Flag.help ∨ f ∈ r.flags.flags := by
  have hroot : f ∈ r.rootLevel → f = Flag.help ∨ f ∈ r.flags.flags := by
    intro hf
    exact (mem_rootLevel_iff.mp hf).imp_right And.left
  rcases mem_declarations_iff.mp hd with rfl | ⟨name, -, rfl⟩ | ⟨-, rfl⟩
  · exact hroot hf
  · exact (mem_commandLevel_iff.mp hf).imp_right And.left
  · exact hroot hf

namespace Reachable

variable (h : r.Reachable)

include h

/-- The command that a registered flag is for is registered. -/
theorem hasCommand : ∀ f ∈ r.flags.flags, f.HasCommand r.commands.names := by
  induction h with
  | empty => exact List.forall_mem_nil _
  | registerCommand command hr hok ih =>
    obtain ⟨-, -, rfl⟩ := (registerCommand_eq_ok_iff hr.consistent).mp hok
    intro f hf name hscope
    rw [CommandRegistry.names_extend]
    exact List.mem_append_left _ (ih f hf name hscope)
  | registerFlag flag hr hok ih =>
    obtain ⟨hcommand, -, rfl⟩ := (registerFlag_eq_ok_iff hr.consistent).mp hok
    intro f hf
    rcases List.mem_append.mp hf with hold | hnew
    · exact ih f hold
    · rw [List.mem_singleton.mp hnew]
      exact hcommand

/-- Each registered flag is declared. -/
theorem exists_declaration {f : Flag} (hf : f ∈ r.flags.flags) :
    ∃ d ∈ r.declarations, f ∈ d.flags := by
  cases hscope : f.scope with
  | everywhere =>
    refine ⟨⟨r.rootLevel, []⟩, mem_declarations_iff.mpr (.inl rfl), ?_⟩
    exact mem_rootLevel_iff.mpr (.inr ⟨hf, hscope⟩)
  | command name =>
    have hregistered := h.hasCommand f hf name hscope
    refine ⟨⟨r.commandLevel name, []⟩, mem_declarations_iff.mpr (.inr (.inl ?_)), ?_⟩
    · exact ⟨name, hregistered, rfl⟩
    · exact mem_commandLevel_of_visibleIn hf (.inr hscope)

/-- On each level that is declared, every spelling stands for one flag. -/
theorem distinct_declaration (hd : d ∈ r.declarations) : d.flags.Distinct := by
  rcases mem_declarations_iff.mp hd with rfl | ⟨name, -, rfl⟩ | ⟨-, rfl⟩
  · exact h.distinct_rootLevel
  · exact h.distinct_commandLevel name
  · exact h.distinct_rootLevel

/-- No sub-command is declared twice. -/
theorem nodup_subcommands : r.subcommands.Nodup := by
  unfold subcommands
  split
  case isFalse => simpa using h.consistent.nodup
  case isTrue hhelp =>
    refine List.nodup_append.mpr ⟨h.consistent.nodup, List.pairwise_singleton _ _, ?_⟩
    rintro name hname _ hmem rfl
    -- the built-in help command is there only if no command has its name
    rw [List.mem_singleton.mp hmem, ← h.consistent.contains_iff] at hname
    rw [hasHelpCommand, hname] at hhelp
    cases hhelp

end Reachable

/-- In a registry that registrations lead to, the sub-commands differ, and so do the names and the
short spellings of the flags on each level; no long spelling is shared by two flags. What
registration leaves open is whether a flag has a spelling twice, whether a spelling starts with a
hyphen, and whether a global flag bears the name under which the help command holds its topic: the
levels are well-formed exactly if none of this is the case. -/
theorem declarations_wellFormed_iff (h : r.Reachable) :
    r.subcommands.Nodup
      ∧ (∀ d ∈ r.declarations, (d.flags.map Flag.name).Nodup ∧ d.shorts.Nodup
        ∧ d.flags.Pairwise fun f g => ∀ name ∈ f.longNames, name ∉ g.longNames)
      ∧ ((∀ d ∈ r.declarations, d.WellFormed)
        ↔ (∀ f ∈ r.flags.flags, f.Declarable)
          ∧ (r.hasHelpCommand = true → ∀ f ∈ r.flags.globals, f.name ≠ helpTopic)) := by
  refine ⟨h.nodup_subcommands, fun d hd => ?_, ?_⟩
  · have hdistinct := h.distinct_declaration hd
    refine ⟨LevelDeclaration.nodup_names hdistinct, LevelDeclaration.nodup_shorts hdistinct, ?_⟩
    exact hdistinct.apart.imp fun hapart name hf hg => hapart (.inr ⟨name, hf, hg⟩)
  constructor
  · intro hall
    have hlevel := fun d hd => (LevelDeclaration.wellFormed_iff (h.distinct_declaration hd)).mp
      (hall d hd)
    refine ⟨fun f hf => ?_, fun hhelp f hf heq => ?_⟩
    · obtain ⟨d, hd, hmem⟩ := h.exists_declaration hf
      exact (hlevel d hd).1 f hmem
    · have hd := mem_declarations_iff.mpr (.inr (.inr ⟨hhelp, rfl⟩))
      obtain ⟨-, -, hfree⟩ := hlevel ⟨r.rootLevel, [helpTopic]⟩ hd
      exact hfree f (List.mem_cons_of_mem _ hf) (List.mem_singleton.mpr heq)
  · rintro ⟨hdeclarable, htopic⟩ d hd
    refine (LevelDeclaration.wellFormed_iff (h.distinct_declaration hd)).mpr ⟨fun f hf => ?_, ?_⟩
    · rcases eq_help_or_mem_of_declarations hd hf with rfl | hmem
      · exact Flag.declarable_help
      · exact hdeclarable f hmem
    · rcases mem_declarations_iff.mp hd with rfl | ⟨name, -, rfl⟩ | ⟨hhelp, rfl⟩
      · exact ⟨List.nodup_nil, fun f hf => List.not_mem_nil⟩
      · exact ⟨List.nodup_nil, fun f hf => List.not_mem_nil⟩
      · refine ⟨List.pairwise_singleton _ _, fun f hf hmem => ?_⟩
        have heq : f.name = helpTopic := List.mem_singleton.mp hmem
        rcases List.mem_cons.mp hf with rfl | hglobal
        · exact absurd heq (by decide)
        · exact htopic hhelp f hglobal heq

end Registry

namespace Sample

/-- The command and the two flags are told apart. -/
theorem declarations_registry :
    registry.subcommands.Nodup ∧ ∀ d ∈ registry.declarations, d.WellFormed := by
  obtain ⟨hsubcommands, -, hlevels⟩ := Registry.declarations_wellFormed_iff reachable_registry
  exact ⟨hsubcommands, hlevels.mpr (by decide)⟩

/-- A switch with its own name for an alias. -/
def doubled : Flag :=
  { Flag.switch "json" "Enable json." with aliases := ["json"] }

/-- The registry of this flag. -/
def doubledRegistry : Registry Action where
  flags := ⟨[doubled]⟩

theorem reachable_doubledRegistry : doubledRegistry.Reachable := by
  have hflag : Registry.registerFlag (∅ : Registry Action) doubled = .ok doubledRegistry := by rfl
  exact .registerFlag doubled .empty hflag

/-- So it is not so that the levels of a registry are well-formed. -/
theorem declarations_not_always_wellFormed :
    ¬∀ r : Registry Action, r.Reachable → ∀ d ∈ r.declarations, d.WellFormed := by
  intro hall
  have hroot := hall doubledRegistry reachable_doubledRegistry ⟨doubledRegistry.rootLevel, []⟩
    List.mem_cons_self
  exact absurd hroot.longs (by decide)

end Sample

end CommandFront
