import CommandFront.Proofs.InvocationView
import CommandFront.Proofs.LevelReading

/-!
# Sub-commands after the separator

On the root level no flag comes after the separator: the first token is the sub-command, whether it
is declared or not, and the others are its operands, in which nothing is looked for.

The separator ends the flags of the level on which it stands. On the root level that leaves the
sub-command to come, so the next token is taken for it even if it looks like a flag, and as the
parser treats all that follows as operands of a foreign sub-command, the flags of the command are
not looked for. Yet a name that happens to be registered is then dispatched like any other, with the
root level alone to look things up in.

- `Escape`: such a command line.
- `Escape.Valid.parse_eq_ok_iff`: when it is accepted, and what it holds.
- `Sentence.Valid.parse_ending_eq_ok_iff`: after the name of a command, the separator changes
  nothing.
- `App.Dispatches.exists_route`: a command line that runs a command is a sentence, perhaps with the
  separator at its end, or it names the command after the separator.
- `App.Dispatches.shows_nothing`, `App.Dispatches.holds_of_mem_rootLevel`: what an action sees on
  either way.
-/

namespace CommandFront

/-- A command line that names its sub-command after the separator. -/
structure Escape where
  /-- What is given before the separator. -/
  before : List Phrase
  /-- The sub-command. -/
  command : String
  /-- What comes after the sub-command. -/
  operands : List String
deriving DecidableEq, Repr

namespace Escape

variable {α : Type} {r : Registry α} {e : Escape}

/-- The tokens. -/
def tokens (e : Escape) : List OsText :=
  Phrase.written e.before
    ++ Token.separator.toText :: .ofString e.command :: e.operands.map .ofString

/-- The phrases are those of the root level, and nothing before the sub-command names one. -/
structure Valid (r : Registry α) (e : Escape) : Prop where
  before : ∀ p ∈ e.before, p.Valid r.rootLevel ∧ r.Undeclared p.word
  separator : r.Undeclared Token.separator.toText

instance (r : Registry α) (e : Escape) : Decidable (e.Valid r) :=
  decidable_of_iff ((∀ p ∈ e.before, p.Valid r.rootLevel ∧ r.Undeclared p.word)
    ∧ r.Undeclared Token.separator.toText) ⟨fun h => ⟨h.1, h.2⟩, fun h => ⟨h.before, h.separator⟩⟩

/-- Before the separator, a flag is given once at most. -/
def Once (e : Escape) : Prop :=
  (namesOf (Phrase.occurrences e.before)).Nodup

instance (e : Escape) : Decidable e.Once :=
  inferInstanceAs (Decidable (List.Nodup _))

/-- What was given before the separator and the defaults of the root level. -/
def outer (r : Registry α) (e : Escape) : Matches :=
  ((∅ : Scan).noted (Phrase.occurrences e.before)).entries r.rootLevel

/-- What the flags of the root level hold in the end. -/
def root (r : Registry α) (e : Escape) : Matches :=
  (e.outer r).share (r.rootLevel.map Flag.name) ((e.outer r).merge (.ofOperands e.operands))

/-- What is held on the level of the sub-command in the end. -/
def own (r : Registry α) (e : Escape) : Matches :=
  (Matches.ofOperands e.operands).share (r.rootLevel.map Flag.name)
    ((e.outer r).merge (.ofOperands e.operands))

/-- There is no way to write it without the separator. -/
theorem separator_mem_tokens (e : Escape) : Token.separator.toText ∈ e.tokens :=
  List.mem_append_right _ List.mem_cons_self

/-! ## What is held -/

/-- The operands are held under no name of a flag. -/
theorem merge_ofOperands {outer : Matches} {operands : List String} {name : String}
    (h : name ≠ "") : outer.merge (.ofOperands operands) name = outer name := by
  have hnone : Matches.ofOperands operands name = none := Matches.ofOperands_of_ne h
  rw [Matches.merge, hnone]
  cases outer name <;> rfl

/-- The operands are held under no name that a flag may have. -/
theorem root_of_ne {name : String} (h : name ≠ "") : e.root r name = e.outer r name := by
  unfold root
  by_cases hmem : name ∈ r.rootLevel.map Flag.name
  · rw [Matches.share_of_mem hmem, merge_ofOperands h]
  · rw [Matches.share_of_not_mem hmem]

/-- Under the name of a flag, the level of the sub-command holds what the root level does. -/
theorem own_of_ne {name : String} (h : name ≠ "") :
    e.own r name = if name ∈ r.rootLevel.map Flag.name then e.outer r name else none := by
  unfold own
  by_cases hmem : name ∈ r.rootLevel.map Flag.name
  · rw [Matches.share_of_mem hmem, merge_ofOperands h, if_pos hmem]
  · rw [Matches.share_of_not_mem hmem, Matches.ofOperands_of_ne h, if_neg hmem]

/-! ## When it is accepted -/

/-- Operands that come from strings are valid Unicode. -/
theorem mapM_toString?_map_ofString (texts : List String) :
    (texts.map OsText.ofString).mapM OsText.toString? = some texts := by
  induction texts with
  | nil => rfl
  | cons text rest ih => simp [ih]

/-- When such a command line is accepted, and what it holds. -/
theorem Valid.parse_eq_ok_iff (h : e.Valid r) (hlevel : r.rootLevel.Distinct)
    {line : CommandLine} :
    CommandLine.parse r e.tokens = .ok line
      ↔ e.Once ∧ line = ⟨e.root r, some (e.command, e.own r)⟩ := by
  have hcut : ∀ t : Scan, t.Ready →
      CommandLine.cut r t
          (Token.separator.toText :: .ofString e.command :: e.operands.map .ofString)
        = .ok ({ t with trailing := true },
          .foreign (.ofString e.command) (e.operands.map .ofString)) := by
    intro t ht
    have hnone := CommandLine.declared?_of_undeclared ht h.separator
    have hstep : t.step r.rootLevel Token.separator.toText
        = .ok (some { t with trailing := true }) := Scan.step_of_separator ht.not_trailing
    rw [CommandLine.cut, hnone]
    show (t.step r.rootLevel Token.separator.toText >>= _) = _
    rw [hstep]
    exact CommandLine.cut_of_trailing (r := r) (s := { t with trailing := true }) rfl _
  have hselect : CommandLine.select r
      (.foreign (.ofString e.command) (e.operands.map .ofString))
        = .ok (some (e.command, .ofOperands e.operands)) := by
    rw [CommandLine.select, OsText.toString?_ofString, mapM_toString?_map_ofString]
  rw [tokens, CommandLine.parse_written_eq_ok_iff hlevel h.before hcut, hselect]
  constructor
  · rintro ⟨root, _, hnote, ⟨⟩, rfl⟩
    obtain ⟨hnodup, rfl⟩ := Scan.noteAll_empty_eq_ok_iff.mp hnote
    exact ⟨hnodup, rfl⟩
  · rintro ⟨hnodup, rfl⟩
    exact ⟨_, _, Scan.noteAll_empty_eq_ok_iff.mpr ⟨hnodup, rfl⟩, rfl, rfl⟩

theorem Valid.mem_rootLevel (h : e.Valid r) {g : Flag × FlagContent}
    (hg : g ∈ Phrase.occurrences e.before) : g.1 ∈ r.rootLevel :=
  (Phrase.mem_level_of_mem_occurrences (fun p hp => (h.before p hp).1) hg).1

/-- A flag of the root level holds what the phrases before the separator give it. -/
theorem Valid.outer_eq (h : e.Valid r) (hr : r.Reachable) (honce : e.Once) {f : Flag}
    (hf : f ∈ r.rootLevel) :
    e.outer r f.name = f.entryOf ((Phrase.occurrences e.before).lookup f) :=
  Scan.entries_noted hr.distinct_rootLevel (fun _ hg => h.mem_rootLevel hg) honce hf

/-- Nothing is held under a name that no flag of the root level has. -/
theorem Valid.outer_eq_none (h : e.Valid r) {name : String}
    (hname : ∀ f ∈ r.rootLevel, f.name ≠ name) : e.outer r name = none :=
  Scan.entries_noted_eq_none (fun _ hg => h.mem_rootLevel hg) hname

/-- A flag is given what its kind takes. -/
theorem Valid.suits (h : e.Valid r) {f : Flag} {content : FlagContent}
    (hgiven : (Phrase.occurrences e.before).lookup f = some content) : content.Suits f :=
  (Phrase.mem_level_of_mem_occurrences (fun p hp => (h.before p hp).1)
    (AssocList.mem_of_lookup_eq_some hgiven)).2

/-- The invocation holds what a flag of the root level was given before the separator. -/
theorem Valid.invocation_holds {app : App} (h : e.Valid app.registry)
    (hr : app.registry.Reachable) (honce : e.Once) (command : Command Action) {f : Flag}
    (hf : f ∈ app.registry.rootLevel) :
    (app.invocation command (e.root app.registry) (e.own app.registry)).Holds f
      ((Phrase.occurrences e.before).lookup f) := by
  have hne : f.name ≠ "" := hr.distinct_rootLevel.named f hf f.name f.name_mem_longNames
  have hname : f.name ∈ app.registry.rootLevel.map Flag.name := List.mem_map_of_mem hf
  have houter := h.outer_eq hr honce hf
  refine ⟨?_, .inl ?_⟩
  · show e.own app.registry f.name = _
    rw [own_of_ne hne, if_pos hname, houter]
  · show e.root app.registry f.name = _
    rw [root_of_ne hne, houter]

end Escape

/-- The tokens name their sub-command after the separator. -/
def Registry.Escapes {α : Type} (r : Registry α) (tokens : List OsText) : Prop :=
  ∃ e : Escape, e.Valid r ∧ e.tokens = tokens

theorem Registry.Escapes.separator_mem {α : Type} {r : Registry α} {tokens : List OsText}
    (h : r.Escapes tokens) : Token.separator.toText ∈ tokens := by
  obtain ⟨e, -, rfl⟩ := h
  exact e.separator_mem_tokens

/-! ## Below a command -/

namespace Sentence

variable {α : Type} {r : Registry α} {w : Sentence}

/-- The separator after the phrases of a command changes nothing. -/
theorem Valid.parse_ending_eq_ok_iff (h : w.Valid r) (hr : r.Reachable) (closed : Bool)
    {line : CommandLine} :
    CommandLine.parse r (w.tokens ++ Token.ending closed) = .ok line
      ↔ w.Once ∧ line = ⟨w.root r, some (w.command, w.own r)⟩ := by
  have hown := hr.distinct_commandLevel w.command
  have hscan : ∀ closed, (r.commandLevel w.command).scan none
      (Phrase.written w.after ++ Token.ending closed) = _ :=
    fun closed => Level.scan_flags hown h.after none closed
  have hbelow : r.scanBelow w.command (Phrase.written w.after ++ Token.ending closed)
      = r.scanBelow w.command (Phrase.written w.after) := by
    have hplain := hscan false
    simp only [Token.ending, Bool.false_eq_true, if_false, List.append_nil] at hplain
    rw [Registry.scanBelow, Registry.scanBelow, if_pos h.registered, if_pos h.registered,
      hscan, hplain]
    -- what is held depends on what is given alone
    cases Scan.noteAll { positional := none } (Phrase.occurrences w.after) <;> rfl
  rw [← h.parse_eq_ok_iff_once hr, tokens, List.append_assoc, List.cons_append,
    CommandLine.parse_declared_eq_ok_iff hr.distinct_rootLevel h.before h.declares,
    CommandLine.parse_declared_eq_ok_iff hr.distinct_rootLevel h.before h.declares, hbelow]

end Sentence

/-! ## The ways to a command -/

namespace App

variable {app : App} {args : List OsText} {command : Command Action} {inv : Invocation}

/-- Which command lines run a command that they name after the separator. -/
theorem dispatches_escape_iff {e : Escape} (he : e.Valid app.registry) (h : app.registry.Reachable)
    (hregistered : app.registry.commands.contains e.command = true)
    (htokens : e.tokens = args.drop 1) :
    app.Dispatches args command inv
      ↔ e.Once ∧ app.registry.commands.get? e.command = some command
        ∧ inv = app.invocation command (e.root app.registry) (e.own app.registry)
        ∧ inv.switch Flag.help.name = false := by
  refine dispatches_iff_of_parse (fun line => ?_) hregistered
  rw [← htokens]
  exact he.parse_eq_ok_iff h.distinct_rootLevel

/-- A command line that runs the command which it names after phrases of the root level is a
sentence, perhaps with the separator at its end. -/
theorem Dispatches.exists_after (hrun : app.Dispatches args command inv)
    (h : app.registry.Reachable) {before : List Phrase}
    (hbefore : ∀ p ∈ before, p.Valid app.registry.rootLevel ∧ app.registry.Undeclared p.word)
    {rest : List OsText}
    (htokens : args.drop 1 = Phrase.written before ++ .ofString command.name :: rest) :
    ∃ (after : List Phrase) (closed : Bool), rest = Phrase.written after ++ Token.ending closed
      ∧ Sentence.Valid app.registry ⟨before, command.name, after⟩
      ∧ Sentence.Once ⟨before, command.name, after⟩
      ∧ inv = app.invocation command (Sentence.root app.registry ⟨before, command.name, after⟩)
        (Sentence.own app.registry ⟨before, command.name, after⟩) := by
  obtain ⟨root, own, hparse, hregistered⟩ := hrun.parse_eq h
  rw [htokens] at hparse
  obtain ⟨after, closed, rfl, hafter⟩ :=
    CommandLine.exists_after h.distinct_rootLevel hbefore hregistered hparse
  let w : Sentence := ⟨before, command.name, after⟩
  have hw : w.Valid app.registry := ⟨hbefore, hregistered, hafter⟩
  have hwritten : w.tokens ++ Token.ending closed = args.drop 1 := by
    rw [htokens, Sentence.tokens, List.append_assoc, List.cons_append]
  have hline : ∀ line, CommandLine.parse app.registry (args.drop 1) = .ok line
      ↔ w.Once ∧ line = ⟨w.root app.registry, some (command.name, w.own app.registry)⟩ := by
    intro line
    rw [← hwritten]
    exact hw.parse_ending_eq_ok_iff h closed
  obtain ⟨honce, -, hinv, -⟩ := (dispatches_iff_of_parse hline hregistered).mp hrun
  exact ⟨after, closed, rfl, hw, honce, hinv⟩

/-- A command line that runs a command is a sentence, perhaps with the separator at its end, or it
names the command after the separator. -/
theorem Dispatches.exists_route (hrun : app.Dispatches args command inv)
    (h : app.registry.Reachable) :
    (∃ (w : Sentence) (closed : Bool), w.Valid app.registry ∧ w.command = command.name
        ∧ w.tokens ++ Token.ending closed = args.drop 1 ∧ w.Once
        ∧ inv = app.invocation command (w.root app.registry) (w.own app.registry))
      ∨ ∃ e : Escape, e.Valid app.registry ∧ e.command = command.name ∧ e.tokens = args.drop 1
        ∧ e.Once ∧ inv = app.invocation command (e.root app.registry) (e.own app.registry) := by
  obtain ⟨root, own, hparse, hregistered⟩ := hrun.parse_eq h
  have hdeclares := Registry.declares_of_contains hregistered
  obtain ⟨before, hbefore, ⟨rest, htokens⟩ | ⟨hseparator, operands, htokens⟩⟩ :=
    CommandLine.exists_before hparse rfl hdeclares
  · left
    obtain ⟨after, closed, rfl, hw, honce, hinv⟩ := hrun.exists_after h hbefore htokens
    refine ⟨⟨before, command.name, after⟩, closed, hw, rfl, ?_, honce, hinv⟩
    rw [htokens, Sentence.tokens, List.append_assoc, List.cons_append]
  · right
    let e : Escape := ⟨before, command.name, operands⟩
    have he : e.Valid app.registry := ⟨hbefore, hseparator⟩
    obtain ⟨honce, -, hinv, -⟩ := (dispatches_escape_iff he h hregistered htokens.symm).mp hrun
    exact ⟨e, he, rfl, htokens.symm, honce, hinv⟩

/-- On either way, an action sees nothing under a name that no flag of its command has. -/
theorem Dispatches.shows_nothing (hrun : app.Dispatches args command inv)
    (h : app.registry.Reachable) {name : String} (hne : name ≠ "")
    (hname : ∀ f ∈ app.registry.commandLevel command.name, f.name ≠ name) :
    inv.value? name = none ∧ inv.explicitValue? name = none ∧ inv.switch name = false := by
  obtain ⟨w, closed, hw, hcommand, -, -, rfl⟩ | ⟨e, he, -, -, -, rfl⟩ := hrun.exists_route h
  · rw [← hcommand] at hname
    obtain ⟨hown, hroot⟩ := hw.holds_nothing hname
    exact Invocation.eq_none_of_holds_nothing hown hroot
  · have houter : e.outer app.registry name = none := by
      refine he.outer_eq_none fun f hf => ?_
      exact hname f (Registry.mem_commandLevel_of_mem_rootLevel hf command.name)
    have hroot : e.root app.registry name = none := by
      rw [Escape.root_of_ne hne, houter]
    have hown : e.own app.registry name = none := by
      rw [Escape.own_of_ne hne, houter, ite_self]
    exact Invocation.eq_none_of_holds_nothing hown hroot

/-- On either way, an action sees what a flag of the root level was given, or its default. -/
theorem Dispatches.holds_of_mem_rootLevel (hrun : app.Dispatches args command inv)
    (h : app.registry.Reachable) {f : Flag} (hf : f ∈ app.registry.rootLevel) :
    ∃ content, inv.Holds f content ∧ ∀ c, content = some c → c.Suits f := by
  obtain ⟨w, closed, hw, -, -, honce, rfl⟩ | ⟨e, he, -, -, honce, rfl⟩ := hrun.exists_route h
  · have hmem := Registry.mem_commandLevel_of_mem_rootLevel hf w.command
    exact ⟨w.given? f, hw.invocation_holds h honce command hmem, fun c hc => hw.suits hc⟩
  · exact ⟨(Phrase.occurrences e.before).lookup f, he.invocation_holds h honce command hf,
      fun c hc => he.suits hc⟩

end App

end CommandFront
