import CommandFront.Proofs.LevelEntries
import CommandFront.Proofs.Sentence

/-!
# What the levels of a sentence hold

The parser keeps what was given on the root level apart from what was given after the command, and
then shares the entries of global flags between the two. A global flag therefore holds the same on
both levels: what was given after the command, else what was given before it, else its default. Any
other flag is held on the level of the command alone.

- `Phrase.textOf`, `Phrase.TurnsOn`: what phrases give to a flag.
- `Sentence.root`, `Sentence.own`: what the flags hold on the two levels of a sentence.
- `Sentence.given?`: what a sentence gives to a flag of its command.
- `Sentence.Valid.holds_of_isGlobal`, `Sentence.Valid.holds_of_not_isGlobal`: each flag holds that,
  or else its default.
-/

namespace CommandFront

/-! ## What phrases give to a flag -/

/-- The text of content that is one. -/
def FlagContent.text? : FlagContent → Option String
  | .text value => some value
  | .toggle _ => none

namespace Phrase

/-- The text that phrases give to a flag, under whichever spelling. -/
def textOf (phrases : List Phrase) (f : Flag) : Option String :=
  ((occurrences phrases).lookup f).bind FlagContent.text?

/-- Some phrase turns a switch on. -/
def TurnsOn (phrases : List Phrase) (f : Flag) : Prop :=
  (f, .toggle true) ∈ occurrences phrases

instance (phrases : List Phrase) (f : Flag) : Decidable (TurnsOn phrases f) :=
  inferInstanceAs (Decidable (_ ∈ _))

theorem isSome_lookup_iff_turnsOn {level : Level} {phrases : List Phrase}
    (hphrases : ∀ p ∈ phrases, p.Valid level) {f : Flag} (hkind : f.kind = .switch) :
    ((occurrences phrases).lookup f).isSome = true ↔ TurnsOn phrases f := by
  constructor
  · intro hsome
    obtain ⟨content, hlookup⟩ := Option.isSome_iff_exists.mp hsome
    have hmem := AssocList.mem_of_lookup_eq_some hlookup
    have hsuits := (mem_level_of_mem_occurrences hphrases hmem).2
    rw [FlagContent.Suits, hkind] at hsuits
    rw [TurnsOn, ← hsuits]
    exact hmem
  · intro hmem
    rw [← Option.ne_none_iff_isSome]
    exact fun hnone => AssocList.lookup_eq_none_iff.mp hnone (List.mem_map_of_mem hmem)

end Phrase

/-! ## The two levels of a sentence -/

namespace Sentence

variable {α : Type}

/-- What was given before the command and the defaults of the root level. -/
def outer (r : Registry α) (w : Sentence) : Matches :=
  ((∅ : Scan).noted (Phrase.occurrences w.before)).entries r.rootLevel

/-- What was given after the command and the defaults of its level. -/
def inner (r : Registry α) (w : Sentence) : Matches :=
  ((∅ : Scan).noted (Phrase.occurrences w.after)).entries (r.commandLevel w.command)

/-- What the flags of the root level hold in the end. -/
def root (r : Registry α) (w : Sentence) : Matches :=
  (w.outer r).share (r.rootLevel.map Flag.name) ((w.outer r).merge (w.inner r))

/-- What the flags of the level of the command hold in the end. -/
def own (r : Registry α) (w : Sentence) : Matches :=
  (w.inner r).share (r.rootLevel.map Flag.name) ((w.outer r).merge (w.inner r))

/-- What is given to a flag that the command accepts: after the command, else, to a global flag,
before it. -/
def given? (w : Sentence) (f : Flag) : Option FlagContent :=
  ((Phrase.occurrences w.after).lookup f).or
    (if f.IsGlobal then (Phrase.occurrences w.before).lookup f else none)

/-- On each level, a flag is given once at most. -/
def Once (w : Sentence) : Prop :=
  (namesOf (Phrase.occurrences w.before)).Nodup ∧ (namesOf (Phrase.occurrences w.after)).Nodup

instance (w : Sentence) : Decidable w.Once :=
  inferInstanceAs (Decidable (_ ∧ _))

variable {r : Registry α} {w : Sentence}

theorem Valid.parse_eq_ok_iff_once (h : w.Valid r) (hr : r.Reachable) {line : CommandLine} :
    CommandLine.parse r w.tokens = .ok line
      ↔ w.Once ∧ line = ⟨w.root r, some (w.command, w.own r)⟩ := by
  rw [h.parse_eq_ok_iff hr.distinct_rootLevel (hr.distinct_commandLevel w.command)]
  constructor
  · rintro ⟨root, own, hroot, hown, rfl⟩
    obtain ⟨hbefore, rfl⟩ := Scan.noteAll_empty_eq_ok_iff.mp hroot
    obtain ⟨hafter, rfl⟩ := Scan.noteAll_empty_eq_ok_iff.mp hown
    exact ⟨⟨hbefore, hafter⟩, rfl⟩
  · rintro ⟨⟨hbefore, hafter⟩, rfl⟩
    exact ⟨_, _, Scan.noteAll_empty_eq_ok_iff.mpr ⟨hbefore, rfl⟩,
      Scan.noteAll_empty_eq_ok_iff.mpr ⟨hafter, rfl⟩, rfl⟩

theorem Valid.mem_rootLevel (h : w.Valid r) {g : Flag × FlagContent}
    (hg : g ∈ Phrase.occurrences w.before) : g.1 ∈ r.rootLevel :=
  (Phrase.mem_level_of_mem_occurrences (fun p hp => (h.before p hp).1) hg).1

theorem Valid.mem_commandLevel (h : w.Valid r) {g : Flag × FlagContent}
    (hg : g ∈ Phrase.occurrences w.after) : g.1 ∈ r.commandLevel w.command :=
  (Phrase.mem_level_of_mem_occurrences h.after hg).1

section Levels

variable (h : w.Valid r) (hr : r.Reachable) (honce : w.Once) {f : Flag}

include h hr honce

theorem Valid.outer_eq (hf : f ∈ r.rootLevel) :
    w.outer r f.name = f.entryOf ((Phrase.occurrences w.before).lookup f) :=
  Scan.entries_noted hr.distinct_rootLevel (fun _ hg => h.mem_rootLevel hg) honce.1 hf

theorem Valid.inner_eq (hf : f ∈ r.commandLevel w.command) :
    w.inner r f.name = f.entryOf ((Phrase.occurrences w.after).lookup f) :=
  Scan.entries_noted (hr.distinct_commandLevel w.command) (fun _ hg => h.mem_commandLevel hg)
    honce.2 hf

/-- Both levels hold the same for a global flag. -/
theorem Valid.holds_of_isGlobal (hf : f ∈ r.rootLevel) (hglobal : f.IsGlobal) :
    w.own r f.name = f.entryOf (w.given? f) ∧ w.root r f.name = f.entryOf (w.given? f) := by
  have hname : f.name ∈ r.rootLevel.map Flag.name := List.mem_map_of_mem hf
  -- a global flag is on both levels, so both entries come from the same flag
  have hown := h.inner_eq hr honce (Registry.mem_commandLevel_of_mem_rootLevel hf w.command)
  have hmerge := Flag.merge_entryOf (h.outer_eq hr honce hf) hown
  rw [own, root, Matches.share_of_mem hname, Matches.share_of_mem hname, hmerge, given?,
    if_pos hglobal]
  exact ⟨rfl, rfl⟩

/-- The root level knows nothing of a flag of the command alone. -/
theorem Valid.holds_of_not_isGlobal (hf : f ∈ r.commandLevel w.command) (hroot : f ∉ r.rootLevel)
    (hglobal : ¬f.IsGlobal) :
    w.own r f.name = f.entryOf (w.given? f) ∧ w.root r f.name = none := by
  -- a flag of the root level with this name would be this very flag, as names tell flags apart
  have hother : ∀ g ∈ r.rootLevel, g.name ≠ f.name := by
    intro g hg heq
    have hmem := Registry.mem_commandLevel_of_mem_rootLevel hg w.command
    rw [(hr.distinct_commandLevel w.command).eq_of_name_eq hmem hf heq] at hg
    exact hroot hg
  have hname : f.name ∉ r.rootLevel.map Flag.name := by
    intro hmem
    obtain ⟨g, hg, heq⟩ := List.mem_map.mp hmem
    exact hother g hg heq
  rw [own, root, Matches.share_of_not_mem hname, Matches.share_of_not_mem hname, given?,
    if_neg hglobal, Option.or_none]
  exact ⟨h.inner_eq hr honce hf,
    Scan.entries_noted_eq_none (fun _ hg => h.mem_rootLevel hg) hother⟩

omit hr honce in
/-- Nothing is held under a name that no flag of the command has. -/
theorem Valid.holds_nothing {name : String}
    (hname : ∀ f ∈ r.commandLevel w.command, f.name ≠ name) :
    w.own r name = none ∧ w.root r name = none := by
  have hroot : ∀ f ∈ r.rootLevel, f.name ≠ name :=
    fun f hf => hname f (Registry.mem_commandLevel_of_mem_rootLevel hf w.command)
  have hglobal : name ∉ r.rootLevel.map Flag.name := by
    intro hmem
    obtain ⟨g, hg, heq⟩ := List.mem_map.mp hmem
    exact hroot g hg heq
  rw [own, root, Matches.share_of_not_mem hglobal, Matches.share_of_not_mem hglobal]
  exact ⟨Scan.entries_noted_eq_none (fun _ hg => h.mem_commandLevel hg) hname,
    Scan.entries_noted_eq_none (fun _ hg => h.mem_rootLevel hg) hroot⟩

end Levels

end Sentence

end CommandFront
