import CommandFront.Proofs.HelpTopic
import CommandFront.Proofs.PhraseTokens

/-!
# Help on the commands that are listed

The help of an application lists its commands and the built-in help command. The help command looks
its topic up among the commands that are registered.

The two lists are made in different ways. The help goes through the registry and adds the help
command at the end, as a line of its own. The topic is looked up in the registry, where the help
command is not, and a topic that looks like a flag never gets as far as this look-up. So the
commands that are listed and the topics that there is help on agree but for these two.

- `Registry.exists_parse_help`: what the level of the help command takes is accepted.
- `App.run_help`: what a request for help serves depends on its topic alone.
- `Registry.operand?_eq_none`: a name that looks like a flag is no topic.
- `App.help_on_listed`: each registered command whose name does not look like a flag is a topic, and
  the help command is none.
-/

namespace CommandFront

namespace Registry

variable {α : Type} {r : Registry α}

/-- What the level of the help command takes is accepted after the help command. -/
theorem exists_parse_help (hr : r.Reachable) (hfree : r.commands.contains helpCommand = false)
    {tokens : List OsText} {s : Scan}
    (hscan : r.helpLevel.scan (some helpTopic) tokens = .ok s) :
    ∃ line own, CommandLine.parse r (.ofString helpCommand :: tokens) = .ok line
      ∧ line.selected = some (helpCommand, own) := by
  have hbelow : r.scanBelow helpCommand tokens = .ok (s.entries r.helpLevel) := by
    rw [scanBelow_helpCommand hfree, hscan]
    rfl
  have hparse := (CommandLine.parse_declared_eq_ok_iff hr.distinct_rootLevel
    (List.forall_mem_nil _) r.declares_helpCommand).mpr ⟨∅, _, rfl, hbelow, rfl⟩
  exact ⟨_, _, hparse, rfl⟩

/-- A single operand is scanned. -/
theorem exists_scan_operand (level : Level) (name : String) {text : String}
    (hfits : Joint.apart.Fits text) : ∃ s, level.scan (some name) [.ofString text] = .ok s := by
  have hready : Scan.Ready { positional := some name } := ⟨rfl, rfl⟩
  have hplain := Token.ofText_eq_plain_iff.mpr hfits
  obtain ⟨t, htake⟩ : ∃ t, Scan.take { positional := some name } (.ofString text) = .ok t :=
    ⟨_, Scan.take_eq_ok_iff.mpr ⟨name, _, rfl, rfl, rfl⟩⟩
  obtain ⟨-, s, hsettle, -⟩ := Scan.lookup_of_take (fun _ _ => rfl) htake
  refine ⟨s, bind_eq_ok_iff.mpr ⟨t, ?_, hsettle⟩⟩
  refine bind_eq_ok_iff.mpr ⟨t, ?_, rfl⟩
  rw [Scan.read_of_step_eq_none (Scan.step_of_plain hready hplain), htake]

/-- A name that looks like a flag is no operand, also where the level takes it. -/
theorem operand?_eq_none {level : Level} {positional : Option String} {name : String}
    (hfits : ¬Joint.apart.Fits name) {w : Remainder} (hw : w.Valid level positional)
    (htokens : w.tokens = [.ofString name]) : w.operand? = none := by
  cases w with
  | flags phrases closed => rfl
  | operand front text back closed =>
    obtain ⟨-, htext, -⟩ := hw
    have hmem : OsText.ofString text ∈ Remainder.tokens (.operand front text back closed) :=
      List.mem_append_right _ List.mem_cons_self
    rw [htokens, List.mem_singleton] at hmem
    rw [OsText.ofString_inj hmem] at htext
    exact absurd htext hfits
  | escaped front text =>
    -- the separator and the operand are two tokens
    have hlength := congrArg List.length htokens
    simp [Remainder.tokens] at hlength

end Registry

/-! ## Asking for help -/

/-- The arguments that ask for help on a topic. -/
def topicArgs (program : OsText) (topic : String) : List OsText :=
  [program, .ofString helpCommand, .ofString topic]

namespace App

variable {app : App}

/-- A request for help without flags before it serves what its topic asks for, and without one what
a global flag holds that bears the name of the topic. -/
theorem run_help (h : app.registry.Reachable)
    (hfree : app.registry.commands.contains helpCommand = false) {w : Remainder}
    (hw : w.Valid app.registry.helpLevel (some helpTopic)) {s : Scan}
    (hscan : app.registry.helpLevel.scan (some helpTopic) w.tokens = .ok s) (program : OsText) :
    ∃ own, app.run (program :: .ofString helpCommand :: w.tokens)
        = app.serve (app.helpRequest own)
      ∧ own helpTopic = (w.operand?.map fun text => ⟨.text text, true⟩).or
        (app.registry.topicOnRoot []) := by
  obtain ⟨line, own, hparse, hselected⟩ := Registry.exists_parse_help h hfree hscan
  have hasks : app.registry.AsksForHelp (.ofString helpCommand :: w.tokens) [] w.operand? :=
    .parsed [] w (List.forall_mem_nil _) hw rfl
  exact ⟨own, run_eq_of_selected hfree hparse hselected,
    Registry.own_helpTopic h hfree hparse hselected hasks⟩

/-- The topic alone decides what is served. -/
theorem helpRequest_congr {own own' : Matches} (h : own helpTopic = own' helpTopic) :
    app.helpRequest own = app.helpRequest own' := by
  unfold helpRequest
  rw [h]

/-- A topic that does not look like a flag is the one that help is on. -/
theorem run_topicArgs_of_fits (h : app.registry.Reachable)
    (hfree : app.registry.commands.contains helpCommand = false) {topic : String}
    (hfits : Joint.apart.Fits topic) (program : OsText) :
    app.run (topicArgs program topic) = app.helpOn (some topic) := by
  obtain ⟨s, hscan⟩ := Registry.exists_scan_operand app.registry.helpLevel helpTopic hfits
  let w : Remainder := .operand [] topic [] false
  have hw : w.Valid app.registry.helpLevel (some helpTopic) :=
    ⟨rfl, hfits, List.forall_mem_nil _, List.forall_mem_nil _⟩
  obtain ⟨own, hrun, hown⟩ := run_help (w := w) h hfree hw hscan program
  have htopic : (own helpTopic).map Entry.content = some (.text topic) := by
    rw [hown]
    rfl
  exact hrun.trans (serve_helpRequest_of_text htopic)

/-- One that looks like a flag is refused, or help is asked for without a topic. -/
theorem run_topicArgs_of_not_fits (h : app.registry.Reachable)
    (hfree : app.registry.commands.contains helpCommand = false) {topic : String}
    (hfits : ¬Joint.apart.Fits topic) (program : OsText) :
    (∃ e, app.run (topicArgs program topic) = Journal.fail (.arguments e))
      ∨ app.run (topicArgs program topic) = app.run [program, .ofString helpCommand] := by
  cases hparse : CommandLine.parse app.registry [.ofString helpCommand, .ofString topic] with
  | error e =>
    left
    exact ⟨e, run_of_parse_eq_error hparse⟩
  | ok line =>
    right
    obtain ⟨-, below, -, hbelow, -⟩ := (CommandLine.parse_declared_eq_ok_iff h.distinct_rootLevel
      (List.forall_mem_nil _) app.registry.declares_helpCommand).mp hparse
    rw [Registry.scanBelow_helpCommand hfree] at hbelow
    obtain ⟨s, hscan, -⟩ := map_eq_ok_iff.mp hbelow
    obtain ⟨w, hw, htokens⟩ := Level.exists_remainder hscan
    rw [← htokens] at hscan
    obtain ⟨own, hrun, hown⟩ := run_help h hfree hw hscan program
    obtain ⟨own', hrun', hown'⟩ := run_help (w := .flags [] false) h hfree
      (List.forall_mem_nil _) rfl program
    rw [Registry.operand?_eq_none hfits hw htokens] at hown
    rw [htokens] at hrun
    refine hrun.trans (Eq.trans ?_ hrun'.symm)
    exact congrArg app.serve (helpRequest_congr (hown.trans hown'.symm))

theorem names_commandTable (hfree : app.registry.commands.contains helpCommand = false) :
    app.commandTable.map Prod.fst = app.registry.commands.names ++ [helpCommand] := by
  rw [commandTable, if_pos (Registry.hasHelpCommand_of_contains_eq_false hfree), List.map_append,
    List.map_map]
  rfl

/-- Where no command has taken the name of the help command, the help lists the registered commands
and the help command. Asked for help on one of the registered commands, the application writes its
help, unless the name of the command looks like a flag: then the arguments are refused, or taken for
a request without a topic. Asked for help on the help command, it fails as on any name that is not
registered. -/
theorem help_on_listed (h : app.registry.Reachable)
    (hfree : app.registry.commands.contains helpCommand = false) (program : OsText) :
    app.commandTable.map Prod.fst = app.registry.commands.names ++ [helpCommand]
      ∧ (∀ command ∈ app.registry.commands.commands,
        (Joint.apart.Fits command.name →
          app.run (topicArgs program command.name)
            = Journal.write .write (app.commandHelp command))
        ∧ (¬Joint.apart.Fits command.name →
          (∃ e, app.run (topicArgs program command.name) = Journal.fail (.arguments e))
            ∨ app.run (topicArgs program command.name)
              = app.run [program, .ofString helpCommand]))
      ∧ app.run (topicArgs program helpCommand)
        = (do Journal.fail (← app.notFound helpCommand)) := by
  refine ⟨names_commandTable hfree, fun command hcommand => ⟨fun hfits => ?_, fun hfits => ?_⟩, ?_⟩
  · have hget := h.consistent.get?_eq_some_iff.mpr ⟨hcommand, rfl⟩
    rw [run_topicArgs_of_fits h hfree hfits, helpOn_registered hget]
  · exact run_topicArgs_of_not_fits h hfree hfits program
  · have hget : app.registry.commands.get? helpCommand = none := by
      rw [h.consistent.get?_eq_none_iff, ← h.consistent.contains_iff, hfree]
      exact Bool.false_ne_true
    have hfits : Joint.apart.Fits helpCommand := by decide
    rw [run_topicArgs_of_fits h hfree hfits, helpOn_unregistered hget]

end App

namespace Sample

/-- The help on a command that is registered. -/
theorem help_on_version :
    app.run (topicArgs (.ofString "strata") "version")
      = Journal.write .write (app.commandHelp version) := by
  have hfree : app.registry.commands.contains helpCommand = false := by decide
  obtain ⟨-, hregistered, -⟩ := App.help_on_listed reachable_registry hfree (.ofString "strata")
  exact (hregistered version (by exact List.mem_singleton_self _)).1 (by decide)

/-- So it is not so that there is help on each command that is listed. -/
theorem listed_not_always_topic :
    ¬∀ (app : App) (program : OsText) (name : String), app.registry.Reachable →
      app.registry.commands.contains helpCommand = false →
      name ∈ app.commandTable.map Prod.fst →
      (app.run (topicArgs program name)).result = .ok () := by
  intro hall
  have hok := hall app (.ofString "strata") helpCommand reachable_registry (by decide) (by decide)
  have herror : (app.run (topicArgs (.ofString "strata") helpCommand)).result
      = .error (.unknownCommand "strata" helpCommand []) := by rfl
  rw [herror] at hok
  cases hok

end Sample

end CommandFront
