import CommandFront.Proofs.DeclaredLevels
import CommandFront.Proofs.RunOutcome
import CommandFront.Proofs.UnknownCommand

/-!
# The status of a run

How a run ends, at whichever sink, and what its status tells.

The status is computed from the result alone, so what it tells of the output and of the action has
to be read off the run: which results come with which output, and with or without an action. The
ways in which a run ends are listed for that as an inductive relation, with a case for each, and one
theorem shows that every run at every sink is one of them. The meaning of each status then comes by
cases.

One of the ways has no status of its own. A global switch may bear the name under which the help
command looks for its topic, and then the run breaks off.

- `exitStatus_eq_zero_iff` and its like: what a status says of the result.
- `App.breaksOff_iff`: when a run breaks off.
- `App.Ends`: the ways in which a run ends, by what its arguments ask for.
- `App.ends_deliver`: each run ends in one of them.
- `App.exit_status_tells_outcome`: what the status of a run says of it.
-/

namespace CommandFront

/-! ## Statuses -/

section Status

variable {result : Except RunError Unit}

/-- Zero stands for success alone. -/
theorem exitStatus_eq_zero_iff : (exitStatus result).1 = 0 ↔ result = .ok () := by
  cases result with
  | ok _ => exact ⟨fun _ => rfl, fun _ => rfl⟩
  | error e =>
    constructor
    · intro h
      cases e <;> cases h
    · intro h
      cases h

/-- Two stands for arguments that are refused. -/
theorem exitStatus_eq_two_iff :
    (exitStatus result).1 = 2 ↔ ∃ cause, result = .error (.arguments cause) := by
  constructor
  · intro h
    cases result with
    | ok _ => cases h
    | error e =>
      cases e with
      | arguments cause => exact ⟨cause, rfl⟩
      | unknownCommand app token suggestions => cases h
      | action chain => cases h
      | write reason => cases h
      | topicIsNoText name => cases h
  · rintro ⟨cause, rfl⟩
    rfl

/-- One stands for an unknown command, an action that failed, and output that is cut. -/
theorem exitStatus_eq_one_iff : (exitStatus result).1 = 1
    ↔ (∃ app token suggestions, result = .error (.unknownCommand app token suggestions))
      ∨ (∃ chain, result = .error (.action chain)) ∨ ∃ reason, result = .error (.write reason) := by
  constructor
  · intro h
    cases result with
    | ok _ => cases h
    | error e =>
      cases e with
      | arguments cause => cases h
      | unknownCommand app token suggestions => exact .inl ⟨app, token, suggestions, rfl⟩
      | action chain => exact .inr (.inl ⟨chain, rfl⟩)
      | write reason => exact .inr (.inr ⟨reason, rfl⟩)
      | topicIsNoText name => cases h
  · rintro (⟨app, token, suggestions, rfl⟩ | ⟨chain, rfl⟩ | ⟨reason, rfl⟩) <;> rfl

/-- A run without a status of its own breaks off. -/
theorem exitStatus_not_mem_iff :
    (exitStatus result).1 ∉ [0, 1, 2] ↔ ∃ name, result = .error (.topicIsNoText name) := by
  constructor
  · intro h
    have hone : (1 : Nat) ∈ [0, 1, 2] := by decide
    have htwo : (2 : Nat) ∈ [0, 1, 2] := by decide
    cases result with
    | ok _ => exact absurd List.mem_cons_self h
    | error e =>
      cases e with
      | topicIsNoText name => exact ⟨name, rfl⟩
      | arguments cause => exact absurd htwo h
      | unknownCommand app token suggestions => exact absurd hone h
      | action chain => exact absurd hone h
      | write reason => exact absurd hone h
  · rintro ⟨name, rfl⟩
    show (101 : Nat) ∉ [0, 1, 2]
    decide

/-- The error stream stays empty on success alone, as a report ends with a line break. -/
theorem exitStatus_report_eq_empty_iff :
    (exitStatus result).2 = "" ↔ (exitStatus result).1 = 0 := by
  rw [exitStatus_eq_zero_iff]
  cases result with
  | ok _ => exact ⟨fun _ => rfl, fun _ => rfl⟩
  | error e =>
    have hreport : e.report ≠ "" := by
      intro h
      have hlist := congrArg String.toList h
      rw [RunError.report, String.toList_append] at hlist
      cases (List.append_eq_nil_iff.mp hlist).2
    constructor
    · intro h
      exact absurd h hreport
    · intro h
      cases h

end Status

namespace App

variable {app : App}

/-! ## Runs that break off -/

theorem helpRequest_eq_topicIsNoText_iff {own : Matches} {name : String} :
    app.helpRequest own = .topicIsNoText name
      ↔ name = helpTopic ∧ ∃ on, (own helpTopic).map Entry.content = some (.toggle on) := by
  unfold helpRequest
  cases own helpTopic with
  | none =>
    constructor
    · intro h
      cases h
    · rintro ⟨-, on, hcontent⟩
      cases hcontent
  | some entry =>
    obtain ⟨content, given⟩ := entry
    cases content with
    | toggle on =>
      constructor
      · intro h
        cases h
        exact ⟨rfl, on, rfl⟩
      · rintro ⟨rfl, -⟩
        rfl
    | text topic =>
      constructor
      · intro h
        dsimp only at h
        split at h <;> cases h
      · rintro ⟨-, on, hcontent⟩
        cases hcontent

/-- Only the built-in help command looks for a topic. -/
theorem request_eq_topicIsNoText_iff {line : CommandLine} {name : String} :
    app.request line = .topicIsNoText name
      ↔ app.registry.hasHelpCommand = true ∧ name = helpTopic
        ∧ ∃ own on, line.selected = some (helpCommand, own)
          ∧ (own helpTopic).map Entry.content = some (.toggle on) := by
  obtain ⟨root, selected⟩ := line
  cases selected with
  | none =>
    constructor
    · intro h
      cases h
    · rintro ⟨-, -, own, on, hselected, -⟩
      cases hselected
  | some pair =>
    obtain ⟨found, own⟩ := pair
    unfold request
    dsimp only
    split
    case isTrue hhelp =>
      obtain ⟨rfl, hfree⟩ := hhelp
      rw [helpRequest_eq_topicIsNoText_iff]
      constructor
      · rintro ⟨hname, on, hcontent⟩
        exact ⟨hfree, hname, own, on, rfl, hcontent⟩
      · rintro ⟨-, hname, _, on, ⟨⟩, hcontent⟩
        exact ⟨hname, on, hcontent⟩
    case isFalse hother =>
      constructor
      · intro h
        split at h
        · cases h
        split at h <;> cases h
      · rintro ⟨hfree, -, _, _, ⟨⟩, -⟩
        exact absurd ⟨rfl, hfree⟩ hother

end App

/-- The help flag is declared on every level. -/
theorem Registry.help_mem_of_declarations {α : Type} {r : Registry α} {d : LevelDeclaration}
    (hd : d ∈ r.declarations) : Flag.help ∈ d.flags := by
  have hroot : Flag.help ∈ r.rootLevel := List.mem_cons_self
  rcases mem_declarations_iff.mp hd with rfl | ⟨name, -, rfl⟩ | ⟨-, rfl⟩
  · exact hroot
  · exact help_mem_commandLevel r name
  · exact hroot

/-- The root level holds no text for the topic exactly if a global switch bears its name. -/
theorem Registry.topicOnRoot_toggle_iff {α : Type} {r : Registry α} (hr : r.Reachable)
    {before : List Phrase} (hbefore : ∀ p ∈ before, p.Valid r.rootLevel ∧ r.Undeclared p.word)
    (honce : (namesOf (Phrase.occurrences before)).Nodup) :
    (∃ on, (r.topicOnRoot before).map Entry.content = some (.toggle on))
      ↔ ∃ f ∈ r.flags.globals, f.name = helpTopic ∧ f.kind = .switch := by
  have hsuits : ∀ (f : Flag) (c : FlagContent),
      (Phrase.occurrences before).lookup f = some c → c.Suits f := fun f c hc =>
    (Phrase.mem_level_of_mem_occurrences (fun p hp => (hbefore p hp).1)
      (AssocList.mem_of_lookup_eq_some hc)).2
  constructor
  · rintro ⟨on, hcontent⟩
    have hmem : helpTopic ∈ r.rootLevel.map Flag.name := by
      refine Decidable.byContradiction fun hnot => ?_
      rw [topicOnRoot_of_not_mem hbefore hnot] at hcontent
      cases hcontent
    obtain ⟨f, hf, hname⟩ := List.mem_map.mp hmem
    rw [topicOnRoot_eq hr hbefore honce hf hname] at hcontent
    have hglobal : f ∈ r.flags.globals := by
      rcases List.mem_cons.mp hf with rfl | hglobal
      · exact absurd hname (by decide)
      · exact hglobal
    refine ⟨f, hglobal, hname, ?_⟩
    cases hkind : f.kind with
    | switch => rfl
    | value =>
      -- a flag with a value holds a text, if anything
      rw [Flag.content_entryOf_of_value hkind (hsuits f)] at hcontent
      obtain ⟨text, -, htext⟩ := Option.map_eq_some_iff.mp hcontent
      cases htext
  · rintro ⟨f, hf, hname, hkind⟩
    rw [topicOnRoot_eq hr hbefore honce (List.mem_cons_of_mem _ hf) hname]
    exact ⟨_, Flag.content_entryOf_of_switch hkind (hsuits f)⟩

namespace App

variable {app : App} {args : List OsText} {command : Command Action} {inv : Invocation}

/-- The run breaks off: it looks for a topic in what holds no text. -/
def BreaksOff (app : App) (args : List OsText) : Prop :=
  app.Asks args (.topicIsNoText helpTopic)

/-- This comes of a global switch that bears the name of the topic, and only where the built-in help
command is given no topic. -/
theorem breaksOff_iff (h : app.registry.Reachable) :
    app.BreaksOff args ↔ app.registry.hasHelpCommand = true
      ∧ (∃ line own, CommandLine.parse app.registry (args.drop 1) = .ok line
        ∧ line.selected = some (helpCommand, own))
      ∧ (∃ before, app.registry.AsksForHelp (args.drop 1) before none)
      ∧ ∃ f ∈ app.registry.flags.globals, f.name = helpTopic ∧ f.kind = .switch := by
  have hcontains : app.registry.hasHelpCommand = true →
      app.registry.commands.contains helpCommand = false := by
    intro hhelp
    rw [Registry.hasHelpCommand, Bool.not_eq_true'] at hhelp
    exact hhelp
  constructor
  · rintro ⟨line, hparse, hrequest⟩
    obtain ⟨hhelp, -, own, on, hselected, hcontent⟩ := request_eq_topicIsNoText_iff.mp hrequest
    have hfree := hcontains hhelp
    obtain ⟨before, topic, hasks⟩ := Registry.exists_asksForHelp h hfree hparse hselected
    obtain ⟨hbefore, honce⟩ := hasks.before_once h hparse
    rw [Registry.own_helpTopic h hfree hparse hselected hasks] at hcontent
    cases topic with
    | some text => cases hcontent
    | none =>
      rw [Option.map_none, Option.none_or] at hcontent
      have hflag := (Registry.topicOnRoot_toggle_iff h hbefore honce).mp ⟨on, hcontent⟩
      exact ⟨hhelp, ⟨line, own, hparse, hselected⟩, ⟨before, hasks⟩, hflag⟩
  · rintro ⟨hhelp, ⟨line, own, hparse, hselected⟩, ⟨before, hasks⟩, hflag⟩
    obtain ⟨hbefore, honce⟩ := hasks.before_once h hparse
    obtain ⟨on, hcontent⟩ := (Registry.topicOnRoot_toggle_iff h hbefore honce).mpr hflag
    have hheld := Registry.own_helpTopic h (hcontains hhelp) hparse hselected hasks
    rw [Option.map_none, Option.none_or] at hheld
    rw [← hheld] at hcontent
    exact ⟨line, hparse, request_eq_topicIsNoText_iff.mpr
      ⟨hhelp, rfl, own, on, hselected, hcontent⟩⟩

/-! ## The ends of a run -/

/-- The ways in which a run ends at a sink, by what its arguments ask for: the bytes that are
written, the number of snapshots and the result. -/
inductive Ends (app : App) (args : List OsText) (reason : String) :
    List UInt8 → Nat → Except RunError Unit → Prop where
  | refused (cause : ArgumentError) : (∀ request, ¬app.Asks args request) →
      Ends app args reason [] 0 (.error (.arguments cause))
  | described (written : List UInt8) (snapshots : Nat) : app.AsksForText args →
      Ends app args reason written snapshots (.ok ())
  | cutOff (written : List UInt8) (snapshots : Nat) : app.AsksForText args →
      Ends app args reason written snapshots (.error (.write reason))
  | done (command : Command Action) (inv : Invocation) (written : List UInt8) (snapshots : Nat) :
      app.Dispatches args command inv → Ends app args reason written snapshots (.ok ())
  | failed (command : Command Action) (inv : Invocation) (written : List UInt8) (snapshots : Nat)
      (chain : ErrorChain) : app.Dispatches args command inv →
      Ends app args reason written snapshots (.error (.action chain))
  | unknown (token : String) : app.Asks args (.unknown token) →
      Ends app args reason [] 0
        (.error (.unknownCommand app.name token (app.registry.commands.closest token)))
  | brokenOff : app.BreaksOff args →
      Ends app args reason [] 0 (.error (.topicIsNoText helpTopic))

/-- An action fails as an action, whether of its own or for the sink. -/
theorem Dispatches.result_deliver (hrun : app.Dispatches args command inv) (sink : Sink) :
    ((app.run args).deliver sink).result = .ok ()
      ∨ ∃ chain, ((app.run args).deliver sink).result = .error (.action chain) := by
  -- an action may go on where a text is refused, but however it fails, it fails as an action
  have hended : ((app.run args).deliver sink).result
      = ((command.action inv).deliver sink).result.mapError .action := by
    rw [hrun.run_eq]
    exact Journal.result_deliver_mapError RunError.action sink (command.action inv)
  rw [hended]
  cases ((command.action inv).deliver sink).result with
  | ok _ => exact .inl rfl
  | error chain => exact .inr ⟨chain, rfl⟩

/-- Each run ends in one of these ways. -/
theorem ends_deliver (hhook : app.notFound = suggestClosest app.name app.registry.commands)
    (args : List OsText) (sink : Sink) :
    let d := (app.run args).deliver sink
    app.Ends args sink.reason d.written d.snapshots d.result := by
  intro d
  obtain ⟨cause, hrun, hnone⟩ | ⟨request, hasks⟩ := app.cases_of_run args
  · have hd : d = _ := congrArg (Journal.deliver sink) hrun
    rw [hd]
    exact .refused cause hnone
  have htext : app.AsksForText args → app.Ends args sink.reason d.written d.snapshots d.result := by
    intro hdescribed
    obtain ⟨hgivesUp, hok⟩ := hdescribed.givesUp
    have hresult : d.result = _ ∨ d.result = _ := hgivesUp.result_deliver sink
    rcases hresult with hresult | hresult
    · rw [hresult, hok]
      exact .described _ _ hdescribed
    · rw [hresult]
      exact .cutOff _ _ hdescribed
  cases request with
  | overview => exact htext (.inl hasks)
  | describe command => exact htext (.inr ⟨command, hasks⟩)
  | invoke command root own =>
    have hrun := dispatches_iff_asks.mpr ⟨root, own, hasks, rfl⟩
    have hresult : d.result = _ ∨ ∃ chain, d.result = _ := hrun.result_deliver sink
    rcases hresult with hresult | ⟨chain, hresult⟩
    · rw [hresult]
      exact .done command _ _ _ hrun
    · rw [hresult]
      exact .failed command _ _ _ chain hrun
  | unknown token =>
    have hd : d = _ := congrArg (Journal.deliver sink)
      (hasks.run_eq.trans (serve_unknown_eq hhook token))
    rw [hd]
    exact .unknown token hasks
  | topicIsNoText name =>
    obtain ⟨line, hparse, hrequest⟩ := hasks
    obtain ⟨-, rfl, -⟩ := request_eq_topicIsNoText_iff.mp hrequest
    have hbreak : app.BreaksOff args := ⟨line, hparse, hrequest⟩
    have hd : d = _ := congrArg (Journal.deliver sink) hbreak.run_eq
    rw [hd]
    exact .brokenOff hbreak

section Ends

variable {reason : String} {written : List UInt8} {snapshots : Nat}

/-- A run that is refused has done nothing. -/
theorem Ends.of_arguments {cause : ArgumentError}
    (h : app.Ends args reason written snapshots (.error (.arguments cause))) :
    written = [] ∧ snapshots = 0 ∧ ∀ command inv, ¬app.Dispatches args command inv := by
  cases h with
  | refused _ hnone =>
    refine ⟨rfl, rfl, fun command inv hrun => ?_⟩
    obtain ⟨root, own, hasks, -⟩ := dispatches_iff_asks.mp hrun
    exact hnone _ hasks

/-- A run that finds no command has done nothing. -/
theorem Ends.of_unknownCommand {name token : String} {suggestions : List String}
    (h : app.Ends args reason written snapshots
      (.error (.unknownCommand name token suggestions))) :
    written = [] ∧ snapshots = 0 ∧ ∀ command inv, ¬app.Dispatches args command inv := by
  cases h with
  | unknown _ hasks =>
    exact ⟨rfl, rfl, fun command inv => hasks.not_dispatches fun _ _ _ => nofun⟩

theorem Ends.of_topicIsNoText {name : String}
    (h : app.Ends args reason written snapshots (.error (.topicIsNoText name))) :
    app.BreaksOff args := by
  cases h with
  | brokenOff hbreak => exact hbreak

end Ends

/-- At whichever sink, with the default hook for unknown commands: the status of a run is 0 exactly
on success, and only then nothing is reported; it is 2 exactly if the arguments are refused, and 1
exactly if there is no such command, the action fails or the output cannot be written. Each failure
is told as what it is: a help text fails for the sink alone, and a command that runs fails as an
action. Where the arguments are refused or name no command, nothing is written, no snapshot is taken
and no action runs. What else there is are runs that break off: the built-in help command is given
no topic, and a global switch bears the name of the topic. On every level the spellings of help are
those of the flag of the application, so that reading the arguments shows no help. -/
theorem exit_status_tells_outcome (h : app.registry.Reachable)
    (hhook : app.notFound = suggestClosest app.name app.registry.commands) (args : List OsText)
    (sink : Sink) :
    let d := (app.run args).deliver sink
    let status := exitStatus d.result
    (status.1 = 0 ↔ d.result = .ok ())
      ∧ (status.2 = "" ↔ status.1 = 0)
      ∧ (status.1 = 2 ↔ ∃ cause, d.result = .error (.arguments cause))
      ∧ (status.1 = 1
        ↔ (∃ name token suggestions, d.result = .error (.unknownCommand name token suggestions))
          ∨ (∃ chain, d.result = .error (.action chain))
          ∨ ∃ reason, d.result = .error (.write reason))
      ∧ (∀ cause, CommandLine.parse app.registry (args.drop 1) = .error cause →
        d.result = .error (.arguments cause))
      ∧ (∀ token, app.Asks args (.unknown token) → d.result = .error
        (.unknownCommand app.name token (app.registry.commands.closest token)))
      ∧ (app.AsksForText args → d.result = .ok () ∨ d.result = .error (.write sink.reason))
      ∧ (∀ command inv, app.Dispatches args command inv →
        d.result = .ok () ∨ ∃ chain, d.result = .error (.action chain))
      ∧ (((∃ cause, d.result = .error (.arguments cause))
          ∨ ∃ name token suggestions, d.result = .error (.unknownCommand name token suggestions)) →
        d.written = [] ∧ d.snapshots = 0 ∧ ∀ command inv, ¬app.Dispatches args command inv)
      ∧ (status.1 ∉ [0, 1, 2] ↔ app.registry.hasHelpCommand = true
        ∧ (∃ line own, CommandLine.parse app.registry (args.drop 1) = .ok line
          ∧ line.selected = some (helpCommand, own))
        ∧ (∃ before, app.registry.AsksForHelp (args.drop 1) before none)
        ∧ ∃ f ∈ app.registry.flags.globals, f.name = helpTopic ∧ f.kind = .switch)
      ∧ ∀ level ∈ app.registry.declarations,
        level.flags.long? "help" = some Flag.help ∧ level.flags.short? 'h' = some Flag.help := by
  intro d status
  have hends : app.Ends args sink.reason d.written d.snapshots d.result :=
    ends_deliver hhook args sink
  refine ⟨exitStatus_eq_zero_iff, exitStatus_report_eq_empty_iff, exitStatus_eq_two_iff,
    exitStatus_eq_one_iff, fun cause hparse => ?_, fun token hasks => ?_, fun hasks => ?_,
    fun command inv hrun => hrun.result_deliver sink, ?_, ?_, fun level hlevel => ?_⟩
  · exact congrArg (fun j => (j.deliver sink).result) (run_of_parse_eq_error hparse)
  · have hrun := hasks.run_eq.trans (serve_unknown_eq hhook token)
    exact congrArg (fun j => (j.deliver sink).result) hrun
  · obtain ⟨hgivesUp, hok⟩ := hasks.givesUp
    have hresult := hgivesUp.result_deliver sink
    rw [hok] at hresult
    exact hresult
  · rintro (⟨cause, hresult⟩ | ⟨name, token, suggestions, hresult⟩)
    · rw [hresult] at hends
      exact hends.of_arguments
    · rw [hresult] at hends
      exact hends.of_unknownCommand
  · rw [← breaksOff_iff h]
    refine exitStatus_not_mem_iff.trans ⟨?_, fun hbreak => ?_⟩
    · rintro ⟨name, hresult⟩
      rw [hresult] at hends
      exact hends.of_topicIsNoText
    · exact ⟨helpTopic, congrArg (fun j => (j.deliver sink).result) hbreak.run_eq⟩
  · have hdistinct := h.distinct_declaration hlevel
    have hhelp := Registry.help_mem_of_declarations hlevel
    exact ⟨hdistinct.long?_eq_some_iff.mpr ⟨hhelp, by decide⟩,
      hdistinct.short?_eq_some_iff.mpr ⟨hhelp, rfl⟩⟩

end App

namespace Sample

/-- No version is shown for a flag that is not registered: the arguments are refused. -/
theorem version_flag_refused :
    let d := (app.run (["strata", "version", "--version"].map .ofString)).deliver {}
    (exitStatus d.result).1 = 2 ∧ (exitStatus d.result).2 ≠ "" ∧ d.written = []
      ∧ d.snapshots = 0 := by
  intro d
  have hhook : app.notFound = App.suggestClosest app.name app.registry.commands := rfl
  obtain ⟨-, hempty, htwo, -, -, -, -, -, hnothing, -⟩ := App.exit_status_tells_outcome
    reachable_registry hhook (["strata", "version", "--version"].map .ofString) {}
  have hrefused : ∃ cause, d.result = .error (.arguments cause) := ⟨_, rfl⟩
  obtain ⟨hwritten, hsnapshots, -⟩ := hnothing (.inl hrefused)
  have hstatus : (exitStatus d.result).1 = 2 := htwo.mpr hrefused
  refine ⟨hstatus, fun h => ?_, hwritten, hsnapshots⟩
  rw [hempty.mp h] at hstatus
  cases hstatus

/-- A global switch that bears the name of the topic. -/
def topicSwitch : Flag :=
  Flag.switch "command" "Command to look up."

/-- The registry of the command and this switch. -/
def topicSwitchRegistry : Registry Action where
  commands := (∅ : CommandRegistry Action).extend version
  flags := ⟨[topicSwitch]⟩

theorem reachable_topicSwitchRegistry : topicSwitchRegistry.Reachable := by
  have hcommand : (∅ : Registry Action).registerCommand version
      = .ok { topicSwitchRegistry with flags := ∅ } := by rfl
  have hflag : Registry.registerFlag { topicSwitchRegistry with flags := ∅ } topicSwitch
      = .ok topicSwitchRegistry := by rfl
  exact .registerFlag topicSwitch (.registerCommand version .empty hcommand) hflag

/-- An application of the registry. -/
def topicSwitchApp : App :=
  App.ofRegistry "strata" "1.0.0" topicSwitchRegistry app.readings

/-- So it is not so that a run whose arguments are accepted has status 0 or 1. -/
theorem status_not_always_told :
    ¬∀ (app : App) (args : List OsText) (sink : Sink), app.registry.Reachable →
      app.notFound = App.suggestClosest app.name app.registry.commands →
      ∀ e, ((app.run args).deliver sink).result = .error e → (∀ cause, e ≠ .arguments cause) →
        (exitStatus ((app.run args).deliver sink).result).1 = 1 := by
  intro hall
  have hone := hall topicSwitchApp helpArgs {} reachable_topicSwitchRegistry rfl
    (.topicIsNoText helpTopic) rfl fun _ => RunError.noConfusion
  have hother : (exitStatus ((topicSwitchApp.run helpArgs).deliver {}).result).1 = 101 := by rfl
  rw [hone] at hother
  cases hother

end Sample

end CommandFront
