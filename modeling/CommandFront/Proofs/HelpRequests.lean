import CommandFront.Proofs.FrontTokens
import CommandFront.Proofs.ListedTopics
import CommandFront.Proofs.Relocation
import CommandFront.Proofs.RunOutcome

/-!
# Requests for help

Help is asked for by the help flag, before a command or after it, or by the help command.

The help flag is a flag like any other to the parser, and a request for help is an accepted command
line. What is asked for is decided after parsing, from what the levels hold. So that help runs no
action has two sides: a command line with a spelling of the help flag in front of the separator
dispatches nothing, whatever else it says, and a sentence in which the flag is given is served as a
request for the help of its command, wherever the flag stands.

- `Flag.helpSpellings`: the tokens that are a spelling of the help flag.
- `App.Dispatches.not_mem_front_of_help`: where an action runs, none of them is in front of the
  separator.
- `Sentence.Valid.asks_describe`: a sentence that gives the help flag asks for the help of its
  command.
- `App.run_of_not_dispatches`: what a run does that runs no action.
- `App.help_runs_no_action`: asking for help runs no action, and the four ways to ask for it on one
  command are the same.
-/

namespace CommandFront

namespace Flag

/-- The tokens that are a spelling of the help flag. -/
def helpSpellings : List OsText :=
  [.ofString "--help", .ofString "-h"]

theorem helpSpellings_head? {token : OsText} (h : token ∈ helpSpellings) :
    token.head? = some Token.hyphen := by
  revert token
  decide

end Flag

/-! ## Spellings of the help flag -/

/-- A token of a phrase that is a spelling of the help flag gives it. -/
theorem Phrase.help_mem_given {level : Level} {p : Phrase} {token : OsText}
    (hlevel : level.Distinct) (hhelp : Flag.help ∈ level) (h : p.Valid level)
    (htoken : token ∈ Flag.helpSpellings) (hmem : token ∈ p.tokens) :
    (Flag.help, .toggle true) ∈ p.given := by
  have hshape := ofText_of_mem_tokens hlevel h hmem
  rcases List.mem_cons.mp htoken with rfl | htoken
  · have hlong : Token.ofText (.ofString "--help") = .long (.ofString "help") none := by decide
    rw [hlong] at hshape
    exact mem_given_of_shape hlevel h hhelp rfl (by decide)
      (hshape.resolve_right Token.noConfusion).symm
  · obtain rfl := List.mem_singleton.mp htoken
    have hletter : Token.ofText (.ofString "-h") = .cluster [.scalar 'h'] := by decide
    rw [hletter] at hshape
    exact mem_given_of_letter hlevel h hhelp rfl rfl
      (hshape.resolve_right Token.noConfusion).symm

namespace App

variable {app : App} {args : List OsText} {command : Command Action} {inv : Invocation}

/-- What a run does that runs no action. -/
theorem run_of_not_dispatches (hnone : ∀ command inv, ¬app.Dispatches args command inv) :
    (∃ cause, app.run args = Journal.fail (.arguments cause))
      ∨ app.run args = app.renderHelp
      ∨ (∃ command, app.run args = app.renderCommandHelp command)
      ∨ (∃ name, app.run args = (do Journal.fail (← app.notFound name)))
      ∨ ∃ name, app.run args = Journal.fail (.topicIsNoText name) := by
  obtain ⟨cause, hrun, -⟩ | ⟨request, hasks⟩ := app.cases_of_run args
  · exact .inl ⟨cause, hrun⟩
  cases request with
  | overview => exact .inr (.inl hasks.run_eq)
  | describe command => exact .inr (.inr (.inl ⟨command, hasks.run_eq⟩))
  | invoke command root own =>
    exact absurd (dispatches_iff_asks.mpr ⟨root, own, hasks, rfl⟩) (hnone command _)
  | unknown name => exact .inr (.inr (.inr (.inl ⟨name, hasks.run_eq⟩)))
  | topicIsNoText name => exact .inr (.inr (.inr (.inr ⟨name, hasks.run_eq⟩)))

/-- An action never sees the help flag. -/
theorem Dispatches.switch_help (hrun : app.Dispatches args command inv) :
    inv.switch Flag.help.name = false := by
  obtain ⟨line, root, own, -, hrequest, rfl⟩ := hrun
  obtain ⟨name, -, -, -, hoff⟩ := request_eq_invoke_iff.mp hrequest
  exact hoff

/-- Where an action runs, no spelling of the help flag is in front of the separator: it would be
neither a value nor the name of the command. -/
theorem Dispatches.not_mem_front_of_help (hrun : app.Dispatches args command inv)
    (h : app.registry.Reachable) (hcommand : command.name.toList.head? ≠ some '-')
    {token : OsText} (htoken : token ∈ Flag.helpSpellings) :
    token ∉ CommandLine.front (args.drop 1) := by
  intro hmem
  rcases hrun.exists_phrase h (.inr hcommand) hmem with rfl | hphrase
  · have hhead := Flag.helpSpellings_head? htoken
    rw [OsText.ofString, List.head?_map] at hhead
    obtain ⟨c, hc, hglyph⟩ := Option.map_eq_some_iff.mp hhead
    rw [hc, Glyph.scalar.inj hglyph] at hcommand
    exact hcommand rfl
  · obtain ⟨level, p, hlevel, hp, htokens, hsub, hseen⟩ := hphrase
    have hhelp : Flag.help ∈ app.registry.rootLevel := List.mem_cons_self
    have hgiven := Phrase.help_mem_given hlevel (hsub _ hhelp) hp htoken htokens
    have hon := hseen _ hhelp rfl hgiven
    rw [hrun.switch_help] at hon
    cases hon

end App

/-! ## Help on one command -/

/-- A sentence that gives the help flag asks for the help of its command. -/
theorem Sentence.Valid.asks_describe {app : App} {w : Sentence} (hw : w.Valid app.registry)
    (h : app.registry.Reachable) (honce : w.Once) {command : Command Action}
    (hget : app.registry.commands.get? w.command = some command)
    (hon : (w.given? Flag.help).isSome = true) (program : OsText) :
    app.Asks (program :: w.tokens) (.describe command) := by
  refine ⟨_, (hw.parse_eq_ok_iff_once h).mpr ⟨honce, rfl⟩, ?_⟩
  have hmem := Registry.help_mem_commandLevel app.registry w.command
  have hholds := hw.invocation_holds h honce command hmem
  obtain ⟨hswitch, -⟩ := hholds.switch_eq_of_switch (fun c hc => hw.suits hc) rfl
  rw [hon] at hswitch
  have hbuiltin : ¬(w.command = helpCommand ∧ app.registry.hasHelpCommand = true) := by
    -- the built-in help command gives way to a registered one of its name
    rintro ⟨hhelp, hfree⟩
    rw [Registry.hasHelpCommand, ← hhelp, hw.registered] at hfree
    cases hfree
  unfold App.request
  dsimp only
  rw [if_neg hbuiltin, hget]
  exact if_pos hswitch

/-- The arguments that ask for help on one command, after the name of the program. -/
def helpLines (command : String) : List (List OsText) :=
  [[.ofString helpCommand, .ofString command], [.ofString command, .ofString "--help"],
    [.ofString command, .ofString "-h"], [.ofString "--help", .ofString command]]

namespace App

variable {app : App}

section Reachable

variable (h : app.registry.Reachable)
  (hnames : ∀ name ∈ app.registry.commands.names, name.toList.head? ≠ some '-')

include h hnames

/-- Each of the four ways to ask for help on a command writes its help. -/
theorem run_helpLines (hfree : app.registry.commands.contains helpCommand = false)
    {command : Command Action} (hcommand : command ∈ app.registry.commands.commands)
    {line : List OsText} (hline : line ∈ helpLines command.name) (program : OsText) :
    app.run (program :: line) = Journal.write .write (app.commandHelp command) := by
  have hname : command.name ∈ app.registry.commands.names := List.mem_map_of_mem hcommand
  have hget := h.consistent.get?_eq_some_iff.mpr ⟨hcommand, rfl⟩
  have hregistered := h.consistent.contains_iff.mpr hname
  have hown := Registry.help_mem_commandLevel app.registry command.name
  have hroot : Flag.help ∈ app.registry.rootLevel := List.mem_cons_self
  have hsentence : ∀ w : Sentence, w.Valid app.registry → w.Once → w.command = command.name →
      (w.given? Flag.help).isSome = true →
        app.run (program :: w.tokens) = Journal.write .write (app.commandHelp command) := by
    intro w hw honce hcommand hon
    exact (hw.asks_describe h honce (hcommand ▸ hget) hon program).run_eq
  have hlong : ∀ level : Level, Flag.help ∈ level → (Phrase.long Flag.help "help").Valid level :=
    fun level hmem => ⟨⟨hmem, by decide, by decide⟩, rfl⟩
  have hletter : (Phrase.letters [('h', Flag.help)]).Valid
      (app.registry.commandLevel command.name) := by
    refine ⟨List.cons_ne_nil _ _, by decide, fun s hs => ?_⟩
    obtain rfl := List.mem_singleton.mp hs
    exact ⟨hown, rfl, rfl⟩
  simp only [helpLines, List.mem_cons, List.not_mem_nil, or_false] at hline
  rcases hline with rfl | rfl | rfl | rfl
  · have hfits : Joint.apart.Fits command.name := .inr (hnames _ hname)
    exact (run_topicArgs_of_fits h hfree hfits program).trans (helpOn_registered hget)
  · refine hsentence ⟨[], command.name, [.long Flag.help "help"]⟩ ?_
      ⟨List.nodup_nil, List.pairwise_singleton _ _⟩ rfl rfl
    exact ⟨List.forall_mem_nil _, hregistered, List.forall_mem_singleton.mpr (hlong _ hown)⟩
  · refine hsentence ⟨[], command.name, [.letters [('h', Flag.help)]]⟩ ?_
      ⟨List.nodup_nil, List.pairwise_singleton _ _⟩ rfl rfl
    exact ⟨List.forall_mem_nil _, hregistered, List.forall_mem_singleton.mpr hletter⟩
  · refine hsentence ⟨[.long Flag.help "help"], command.name, []⟩ ?_
      ⟨List.pairwise_singleton _ _, List.nodup_nil⟩ rfl rfl
    refine ⟨List.forall_mem_singleton.mpr ⟨hlong _ hroot, ?_⟩, hregistered, List.forall_mem_nil _⟩
    exact Registry.undeclared_of_head? h hnames (Phrase.head?_word _)

/-- Where no command has a name that starts with a hyphen, asking for help runs no action: not on
any arguments that have a spelling of the help flag in front of the separator. These are refused,
show a help text, or fail for a name that no command has or for a topic that is no text. Where
moreover no command has taken the name of the help command, the four ways to ask for help on a
registered command write the same, its help, and take no snapshot. Asked for the help of the
application, a run takes one snapshot and writes the help with it. -/
theorem help_runs_no_action :
    (∀ args, ∀ token ∈ Flag.helpSpellings, token ∈ CommandLine.front (args.drop 1) →
        (∀ command inv, ¬app.Dispatches args command inv)
          ∧ ((∃ cause, app.run args = Journal.fail (.arguments cause))
            ∨ app.run args = app.renderHelp
            ∨ (∃ command, app.run args = app.renderCommandHelp command)
            ∨ (∃ name, app.run args = (do Journal.fail (← app.notFound name)))
            ∨ ∃ name, app.run args = Journal.fail (.topicIsNoText name)))
      ∧ (app.registry.commands.contains helpCommand = false →
        ∀ command ∈ app.registry.commands.commands, ∀ line ∈ helpLines command.name, ∀ program,
          app.run (program :: line) = Journal.write .write (app.commandHelp command)
            ∧ ∀ sink, ((app.run (program :: line)).deliver sink).snapshots = 0
              ∧ (sink.capacity = none →
                ((app.run (program :: line)).deliver sink).result = .ok ()
                  ∧ ((app.run (program :: line)).deliver sink).written
                    = Journal.encode (app.commandHelp command)))
      ∧ ∀ args, app.Asks args .overview →
        (app.run args).texts = [app.help app.readings.snapshot] ∧ (app.run args).result = .ok ()
          ∧ ∀ sink, ((app.run args).deliver sink).snapshots = 1 := by
  refine ⟨fun args token htoken hmem => ?_, ?_, fun args hasks => ?_⟩
  · have hnone : ∀ command inv, ¬app.Dispatches args command inv := fun command inv hrun =>
      hrun.not_mem_front_of_help h (hnames _ (hrun.name_mem_names h)) htoken hmem
    exact ⟨hnone, run_of_not_dispatches hnone⟩
  · intro hfree command hcommand line hline program
    have hrun := run_helpLines h hnames hfree hcommand hline program
    refine ⟨hrun, fun sink => ?_⟩
    rw [hrun]
    refine ⟨Journal.snapshots_deliver_write _ _ sink, fun hsink => ?_⟩
    obtain ⟨hwritten, -, hresult⟩ := Journal.deliver_of_unlimited hsink
      (Journal.write RunError.write (app.commandHelp command))
    exact ⟨hresult, hwritten.trans (List.flatMap_singleton _ _)⟩
  · obtain ⟨htexts, -, hok⟩ := app.helpOn_none
    have hrun : app.run args = app.renderHelp := hasks.run_eq
    rw [hrun]
    exact ⟨htexts, hok, snapshots_deliver_renderHelp app⟩

end Reachable

end App

namespace Sample

/-- The help flag after a command keeps the action from running, whatever comes before. -/
theorem version_help_runs_no_action :
    (∀ command inv, ¬app.Dispatches (["strata", "--cfg=b.toml", "version", "-h"].map .ofString)
        command inv)
      ∧ app.run (["strata", "version", "-h"].map .ofString)
        = Journal.write .write (app.commandHelp version) := by
  have hnames : ∀ name ∈ app.registry.commands.names, name.toList.head? ≠ some '-' := by decide
  obtain ⟨hhelp, hlines, -⟩ := App.help_runs_no_action reachable_registry hnames
  have hfree : app.registry.commands.contains helpCommand = false := by decide
  refine ⟨(hhelp _ (.ofString "-h") (by decide) (by decide)).1, ?_⟩
  exact (hlines hfree version (by exact List.mem_singleton_self _)
    (["version", "-h"].map .ofString) (by decide) (.ofString "strata")).1

end Sample

end CommandFront
