import CommandFront.Proofs.InvocationView

/-!
# Flags on either side of the command

A phrase of the root level may stand before the command or right after it.

The flags of the root level are those of every command as well, so a valid phrase is valid on both
sides. Moved, it may only meet its own flags again, which no level takes twice. What the levels hold
is a function of what is given, and a global flag is asked for on both levels. So the two command
lines hold the same, and all that a run does depends on the command and on what is held.

- `Level.Gives`: tokens give a flag, as they are read on a level.
- `Sentence.Valid.levels_eq`: what two sentences hold is the same if they give the same.
- `Relocation`: a phrase that may stand on either side of a command.
- `Relocation.Valid.given?_late`: on either side it gives the same.
- `App.run_relocated`: a command line that is accepted does the same with the phrase moved, as long
  as its flags are not given after the command already.
-/

namespace CommandFront

/-- Where no command has a name that starts with a hyphen, a token that does names none. -/
theorem Registry.undeclared_of_head? {α : Type} {r : Registry α} (hr : r.Reachable)
    (hnames : ∀ name ∈ r.commands.names, name.toList.head? ≠ some '-') {token : OsText}
    (htoken : token.head? = some Token.hyphen) : r.Undeclared token := by
  rintro name rfl
  have hhead : name.toList.head? = some '-' := by
    rw [OsText.ofString, List.head?_map] at htoken
    obtain ⟨c, hc, hglyph⟩ := Option.map_eq_some_iff.mp htoken
    rw [hc, Glyph.scalar.inj hglyph]
  have hhelp : name ≠ helpCommand := by
    rintro rfl
    exact absurd hhead (by decide)
  exact hr.declares_eq_false (fun hmem => hnames name hmem hhead) hhelp

/-! ## The flags that tokens give -/

/-- Tokens give a flag if they are those of phrases of a level that give it. -/
def Level.Gives (level : Level) (tokens : List OsText) (f : Flag) : Prop :=
  ∃ phrases : List Phrase, (∀ p ∈ phrases, p.Valid level) ∧ Phrase.written phrases = tokens
    ∧ f.name ∈ namesOf (Phrase.occurrences phrases)

/-- If no flag comes twice, the same flags are given however the tokens are read. -/
theorem Level.gives_written_iff {level : Level} (hlevel : level.Distinct) {phrases : List Phrase}
    (hvalid : ∀ p ∈ phrases, p.Valid level)
    (honce : (namesOf (Phrase.occurrences phrases)).Nodup) {f : Flag} :
    level.Gives (Phrase.written phrases) f ↔ f.name ∈ namesOf (Phrase.occurrences phrases) := by
  constructor
  · rintro ⟨others, hothers, hwritten, hmem⟩
    have hscan := Level.scan_written hlevel hvalid
    rw [← hwritten, Level.scan_written hlevel hothers,
      Scan.noteAll_empty_eq_ok_iff.mpr ⟨honce, rfl⟩] at hscan
    obtain ⟨-, hnoted⟩ := Scan.noteAll_empty_eq_ok_iff.mp hscan
    have hnames := congrArg (fun s => s.given.map Prod.fst) hnoted
    simp only [Scan.names_given_noted, List.reverse_inj] at hnames
    rw [hnames]
    exact hmem
  · intro hmem
    exact ⟨phrases, hvalid, rfl, hmem⟩

/-! ## Sentences that give the same -/

namespace Sentence

variable {α : Type} {r : Registry α}

/-- Two sentences of one command that give the same to each of its flags hold the same. -/
theorem Valid.levels_eq {w v : Sentence} (hw : w.Valid r) (hv : v.Valid r) (hr : r.Reachable)
    (hwonce : w.Once) (hvonce : v.Once) (hcommand : w.command = v.command)
    (hgiven : ∀ f ∈ r.commandLevel w.command, w.given? f = v.given? f) :
    w.root r = v.root r ∧ w.own r = v.own r := by
  have hname : ∀ name, w.root r name = v.root r name ∧ w.own r name = v.own r name := by
    intro name
    by_cases hflag : ∃ f ∈ r.commandLevel w.command, f.name = name
    · obtain ⟨f, hf, rfl⟩ := hflag
      have hf' : f ∈ r.commandLevel v.command := hcommand ▸ hf
      by_cases hglobal : f.IsGlobal
      · have hroot := (Registry.mem_rootLevel_iff_isGlobal hf).mpr hglobal
        obtain ⟨hwown, hwroot⟩ := hw.holds_of_isGlobal hr hwonce hroot hglobal
        obtain ⟨hvown, hvroot⟩ := hv.holds_of_isGlobal hr hvonce hroot hglobal
        rw [hwown, hwroot, hvown, hvroot, hgiven f hf]
        exact ⟨rfl, rfl⟩
      · have hroot := mt (Registry.mem_rootLevel_iff_isGlobal hf).mp hglobal
        obtain ⟨hwown, hwroot⟩ := hw.holds_of_not_isGlobal hr hwonce hf hroot hglobal
        obtain ⟨hvown, hvroot⟩ := hv.holds_of_not_isGlobal hr hvonce hf' hroot hglobal
        rw [hwown, hwroot, hvown, hvroot, hgiven f hf]
        exact ⟨rfl, rfl⟩
    · -- under a name that no flag of the command has, neither holds anything
      have hnone : ∀ f ∈ r.commandLevel w.command, f.name ≠ name :=
        fun f hf heq => hflag ⟨f, hf, heq⟩
      obtain ⟨hwown, hwroot⟩ := hw.holds_nothing hnone
      obtain ⟨hvown, hvroot⟩ := hv.holds_nothing (hcommand ▸ hnone)
      rw [hwown, hwroot, hvown, hvroot]
      exact ⟨rfl, rfl⟩
  exact ⟨funext fun name => (hname name).1, funext fun name => (hname name).2⟩

end Sentence

/-! ## Moving a phrase -/

/-- A phrase that may stand among others before a command, or right after the command. -/
structure Relocation where
  /-- What comes before the phrase. -/
  front : List Phrase
  /-- The phrase. -/
  phrase : Phrase
  /-- What comes between the phrase and the command. -/
  back : List Phrase
  /-- The command. -/
  command : String
deriving DecidableEq, Repr

namespace Relocation

/-- The tokens with the phrase before the command, and some tokens after the command. -/
def earlyTokens (m : Relocation) (post : List OsText) : List OsText :=
  Phrase.written (m.front ++ m.phrase :: m.back) ++ .ofString m.command :: post

/-- The same tokens with the phrase right after the command. -/
def lateTokens (m : Relocation) (post : List OsText) : List OsText :=
  Phrase.written (m.front ++ m.back) ++ .ofString m.command :: (m.phrase.tokens ++ post)

/-- The sentence with the phrase before the command. -/
def early (m : Relocation) (after : List Phrase) : Sentence :=
  ⟨m.front ++ m.phrase :: m.back, m.command, after⟩

/-- The sentence with the phrase right after the command. -/
def late (m : Relocation) (after : List Phrase) : Sentence :=
  ⟨m.front ++ m.back, m.command, m.phrase :: after⟩

theorem tokens_early (m : Relocation) (after : List Phrase) :
    (m.early after).tokens = m.earlyTokens (Phrase.written after) := rfl

theorem tokens_late (m : Relocation) (after : List Phrase) :
    (m.late after).tokens = m.lateTokens (Phrase.written after) := by
  show _ ++ _ :: Phrase.written (m.phrase :: after) = _
  rw [Phrase.written_cons]
  rfl

/-- The phrases are those of the root level, and the command is registered. -/
structure Valid {α : Type} (r : Registry α) (m : Relocation) : Prop where
  phrases : ∀ p ∈ m.front ++ m.phrase :: m.back, p.Valid r.rootLevel
  registered : r.commands.contains m.command = true

instance {α : Type} (r : Registry α) (m : Relocation) : Decidable (m.Valid r) :=
  decidable_of_iff ((∀ p ∈ m.front ++ m.phrase :: m.back, p.Valid r.rootLevel)
    ∧ r.commands.contains m.command = true) ⟨fun h => ⟨h.1, h.2⟩, fun h => ⟨h.1, h.2⟩⟩

variable {α : Type} {r : Registry α} {m : Relocation} {after : List Phrase}

theorem Valid.phrase_valid (hm : m.Valid r) : m.phrase.Valid r.rootLevel :=
  hm.phrases _ (List.mem_append_right _ List.mem_cons_self)

/-- What the phrase gives goes to flags that are accepted on both sides of the command. -/
theorem Valid.mem_rootLevel (hm : m.Valid r) {g : Flag × FlagContent} (hg : g ∈ m.phrase.given) :
    g.1 ∈ r.rootLevel :=
  (Phrase.mem_level_of_mem_given hm.phrase_valid hg).1

theorem Valid.late_valid (hm : m.Valid r) (hearly : (m.early after).Valid r) :
    (m.late after).Valid r where
  before p hp := by
    rcases List.mem_append.mp hp with hfront | hback
    · exact hearly.before p (List.mem_append_left _ hfront)
    · exact hearly.before p (List.mem_append_right _ (List.mem_cons_of_mem _ hback))
  registered := hm.registered
  after := by
    refine List.forall_mem_cons.mpr ⟨hm.phrase_valid.mono fun f hf => ?_, hearly.after⟩
    exact Registry.mem_commandLevel_of_mem_rootLevel hf m.command

/-- When no flag is given twice before the command, nor after it. -/
theorem once_early_iff : (m.early after).Once
    ↔ (namesOf (Phrase.occurrences m.front) ++ (namesOf m.phrase.given
        ++ namesOf (Phrase.occurrences m.back))).Nodup
      ∧ (namesOf (Phrase.occurrences after)).Nodup := by
  show (namesOf (Phrase.occurrences (m.front ++ m.phrase :: m.back))).Nodup
    ∧ (namesOf (Phrase.occurrences after)).Nodup ↔ _
  simp only [namesOf, Phrase.occurrences_append, Phrase.occurrences_cons, List.map_append]

theorem once_late_iff : (m.late after).Once
    ↔ (namesOf (Phrase.occurrences m.front) ++ namesOf (Phrase.occurrences m.back)).Nodup
      ∧ (namesOf m.phrase.given ++ namesOf (Phrase.occurrences after)).Nodup := by
  show (namesOf (Phrase.occurrences (m.front ++ m.back))).Nodup
    ∧ (namesOf (Phrase.occurrences (m.phrase :: after))).Nodup ↔ _
  simp only [namesOf, Phrase.occurrences_append, Phrase.occurrences_cons, List.map_append]

/-- After the command, the phrase may come unless one of its flags is given there already. -/
theorem once_late_iff_of_early (honce : (m.early after).Once) :
    (m.late after).Once
      ↔ ∀ g ∈ m.phrase.given, g.1.name ∉ namesOf (Phrase.occurrences after) := by
  obtain ⟨hbefore, hafter⟩ := once_early_iff.mp honce
  have hphrase := (List.nodup_append.mp (List.nodup_append.mp hbefore).2.1).1
  have hothers := hbefore.sublist ((List.sublist_append_right _ _).append_left _)
  rw [once_late_iff]
  constructor
  · rintro ⟨-, hnodup⟩ g hg hmem
    exact (List.nodup_append.mp hnodup).2.2 _ (List.mem_map_of_mem hg) _ hmem rfl
  · intro honly
    refine ⟨hothers, List.nodup_append.mpr ⟨hphrase, hafter, ?_⟩⟩
    rintro name hname _ hmem rfl
    obtain ⟨g, hg, rfl⟩ := List.mem_map.mp hname
    exact honly g hg hmem

/-- On either side of the command, the phrase gives the same. -/
theorem Valid.given?_late (hm : m.Valid r) (hearly : (m.early after).Once)
    (hlate : (m.late after).Once) (f : Flag) :
    (m.late after).given? f = (m.early after).given? f := by
  show ((Phrase.occurrences (m.phrase :: after)).lookup f).or
      (if f.IsGlobal then (Phrase.occurrences (m.front ++ m.back)).lookup f else none)
    = ((Phrase.occurrences after).lookup f).or
      (if f.IsGlobal then (Phrase.occurrences (m.front ++ m.phrase :: m.back)).lookup f else none)
  simp only [Phrase.occurrences_append, Phrase.occurrences_cons, List.lookup_append]
  cases hlookup : m.phrase.given.lookup f with
  | none => simp only [Option.none_or]
  | some content =>
    -- a flag that the phrase gives is a global one, and nothing else gives it
    have hmem := AssocList.mem_of_lookup_eq_some hlookup
    have hname : f.name ∈ namesOf m.phrase.given := List.mem_map_of_mem hmem
    have hglobal : f.IsGlobal := by
      rcases Registry.mem_rootLevel_iff.mp (hm.mem_rootLevel hmem) with rfl | ⟨-, hglobal⟩
      · rfl
      · exact hglobal
    have hfront : f.name ∉ namesOf (Phrase.occurrences m.front) := by
      obtain ⟨hbefore, -⟩ := once_early_iff.mp hearly
      intro hother
      exact (List.nodup_append.mp hbefore).2.2 _ hother _ (List.mem_append_left _ hname) rfl
    have hafter : f.name ∉ namesOf (Phrase.occurrences after) :=
      (once_late_iff_of_early hearly).mp hlate _ hmem
    rw [lookup_eq_none_of_not_mem_namesOf hfront, lookup_eq_none_of_not_mem_namesOf hafter,
      if_pos hglobal, if_pos hglobal]
    rfl

/-! ## The command line with the phrase moved -/

section Accepted

variable (hm : m.Valid r) (hr : r.Reachable)
  (hnames : ∀ name ∈ r.commands.names, name.toList.head? ≠ some '-')

include hm hr hnames

/-- A command line that is accepted with the phrase before the command is a sentence. -/
theorem Valid.exists_early {post : List OsText} (hseparator : Token.separator.toText ∉ post)
    {line : CommandLine} (h : CommandLine.parse r (m.earlyTokens post) = .ok line) :
    ∃ after, post = Phrase.written after ∧ (m.early after).Valid r ∧ (m.early after).Once
      ∧ line = ⟨(m.early after).root r, some (m.command, (m.early after).own r)⟩ := by
  have hbefore : ∀ p ∈ m.front ++ m.phrase :: m.back, p.Valid r.rootLevel ∧ r.Undeclared p.word :=
    fun p hp => ⟨hm.phrases p hp, Registry.undeclared_of_head? hr hnames p.head?_word⟩
  obtain ⟨after, closed, rfl, hafter⟩ :=
    CommandLine.exists_after hr.distinct_rootLevel hbefore hm.registered h
  cases closed with
  | true => exact absurd (List.mem_append_right _ (List.mem_singleton_self _)) hseparator
  | false =>
    rw [Token.ending, if_neg Bool.false_ne_true, List.append_nil, ← tokens_early] at h
    rw [Token.ending, if_neg Bool.false_ne_true, List.append_nil]
    have hearly : (m.early after).Valid r := ⟨hbefore, hm.registered, hafter⟩
    obtain ⟨honce, hline⟩ := (hearly.parse_eq_ok_iff_once hr).mp h
    exact ⟨after, rfl, hearly, honce, hline⟩

/-- It is accepted as the same with the phrase after the command, unless a flag that the phrase
gives is given there too. -/
theorem Valid.parse_late {post : List OsText} (hseparator : Token.separator.toText ∉ post)
    {line : CommandLine} (h : CommandLine.parse r (m.earlyTokens post) = .ok line) :
    ((∀ g ∈ m.phrase.given, ¬(r.commandLevel m.command).Gives post g.1) →
        CommandLine.parse r (m.lateTokens post) = .ok line)
      ∧ ((∃ g ∈ m.phrase.given, (r.commandLevel m.command).Gives post g.1) →
        ∃ e, CommandLine.parse r (m.lateTokens post) = .error e) := by
  obtain ⟨after, rfl, hearly, honce, rfl⟩ := hm.exists_early hr hnames hseparator h
  have hgives : ∀ f : Flag, (r.commandLevel m.command).Gives (Phrase.written after) f
      ↔ f.name ∈ namesOf (Phrase.occurrences after) := fun f =>
    Level.gives_written_iff (hr.distinct_commandLevel m.command) hearly.after honce.2
  have hlate := hm.late_valid hearly
  simp only [hgives, ← tokens_late]
  constructor
  · intro honly
    have hlateOnce := (once_late_iff_of_early honce).mpr honly
    obtain ⟨hroot, hown⟩ := hlate.levels_eq hearly hr hlateOnce honce rfl
      fun f _ => hm.given?_late honce hlateOnce f
    refine (hlate.parse_eq_ok_iff_once hr).mpr ⟨hlateOnce, ?_⟩
    rw [hroot, hown]
    rfl
  · rintro ⟨g, hg, hmem⟩
    cases hparse : CommandLine.parse r (m.late after).tokens with
    | error e => exact ⟨e, rfl⟩
    | ok line =>
      obtain ⟨hlateOnce, -⟩ := (hlate.parse_eq_ok_iff_once hr).mp hparse
      exact absurd hmem ((once_late_iff_of_early honce).mp hlateOnce g hg)

end Accepted

end Relocation

namespace App

/-- Where no command has a name that starts with a hyphen: let the arguments be accepted with a
phrase of the root level before the command. If nothing after the command gives a flag that the
phrase gives, then all comes out the same with the phrase right after the command. The run writes
and returns the same, and it is the same action that runs, if one does, with the same to see.
Otherwise the flag would be given twice after the command, and the arguments are refused. -/
theorem run_relocated {app : App} (h : app.registry.Reachable)
    (hnames : ∀ name ∈ app.registry.commands.names, name.toList.head? ≠ some '-')
    {m : Relocation} (hm : m.Valid app.registry) {post : List OsText}
    (hseparator : Token.separator.toText ∉ post) (program : OsText)
    (haccepted : ∀ e, (app.run (program :: m.earlyTokens post)).result ≠ .error (.arguments e)) :
    ((∀ g ∈ m.phrase.given, ¬(app.registry.commandLevel m.command).Gives post g.1) →
        app.run (program :: m.lateTokens post) = app.run (program :: m.earlyTokens post)
          ∧ ∀ command inv, app.Dispatches (program :: m.lateTokens post) command inv
            ↔ app.Dispatches (program :: m.earlyTokens post) command inv)
      ∧ ((∃ g ∈ m.phrase.given, (app.registry.commandLevel m.command).Gives post g.1) →
        ∃ e, app.run (program :: m.lateTokens post) = Journal.fail (.arguments e)) := by
  obtain ⟨line, hearly⟩ :
      ∃ line, CommandLine.parse app.registry (m.earlyTokens post) = .ok line := by
    cases hparse : CommandLine.parse app.registry (m.earlyTokens post) with
    | ok line => exact ⟨line, rfl⟩
    | error e =>
      have hrun : app.run (program :: m.earlyTokens post) = Journal.fail (.arguments e) :=
        run_of_parse_eq_error hparse
      exact absurd (congrArg Journal.result hrun) (haccepted e)
  obtain ⟨hsame, hrefused⟩ := hm.parse_late h hnames hseparator hearly
  constructor
  · intro honly
    have hlate := hsame honly
    have hrun : app.run (program :: m.lateTokens post) = app.serve (app.request line) :=
      run_of_parse_eq_ok hlate
    have hparse : CommandLine.parse app.registry ((program :: m.lateTokens post).drop 1)
        = CommandLine.parse app.registry ((program :: m.earlyTokens post).drop 1) :=
      hlate.trans hearly.symm
    constructor
    · exact hrun.trans (run_of_parse_eq_ok hearly).symm
    · intro command inv
      unfold Dispatches
      rw [hparse]
  · intro hagain
    obtain ⟨e, he⟩ := hrefused hagain
    exact ⟨e, run_of_parse_eq_error he⟩

end App

namespace Sample

/-- The global flag of the command line, to be moved behind the command. -/
def relocation : Relocation where
  front := []
  phrase := .longValue config "cfg" .equals "b.toml"
  back := []
  command := "version"

/-- The action sees the same, whether the flag is given before the command or after it. -/
theorem run_config_after_command :
    app.run (["strata", "version", "--cfg=b.toml", "-j"].map .ofString) = app.run args := by
  let post : List OsText := Phrase.written [.letters [('j', json)]]
  have hnames : ∀ name ∈ app.registry.commands.names, name.toList.head? ≠ some '-' := by decide
  have hm : relocation.Valid app.registry := by decide
  have haccepted : ∀ e, (app.run args).result ≠ .error (.arguments e) := by
    intro e he
    cases he
  have honly : ∀ g ∈ relocation.phrase.given,
      ¬(app.registry.commandLevel relocation.command).Gives post g.1 := by
    intro g hg hgives
    obtain rfl := List.mem_singleton.mp hg
    have hlevel := reachable_registry.distinct_commandLevel "version"
    have hmem := (Level.gives_written_iff hlevel (by decide) (by decide)).mp hgives
    exact absurd hmem (by decide)
  have hseparator : Token.separator.toText ∉ post := by decide
  obtain ⟨hsame, -⟩ := App.run_relocated reachable_registry hnames hm hseparator
    (.ofString "strata") haccepted
  exact (hsame honly).1

end Sample

end CommandFront
