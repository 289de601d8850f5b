import CommandFront.Proofs.Effects
import CommandFront.Proofs.Escape

/-!
# The topic of a request for help

The built-in help command takes the name of a command as its topic. The topic is held under the name
`command`, which a global flag may bear as well.

The parser hands global flags down to every sub-command, the built-in help included, and it stores
arguments by name. The topic of a request for help is such an argument, under the name `command`.
Nothing keeps a registry from having a global flag of that name, so without a topic the look-up
finds what that flag holds: its value, its default, or a truth value, which is no text at all. The
cases below are those of what is held there.

- `Registry.AsksForHelp`: the ways to ask for help, with the topic that is given.
- `App.helpOn`: the help on a topic, or that of the application.
- `Registry.own_helpTopic`: what is held under the name of the topic.
- `App.help_depends_on_topic`: the topic that is given decides. Without one, a global flag of that
  name takes its place.
-/

namespace CommandFront

/-- A level stays distinct when flags are left out. -/
theorem Level.Distinct.filter {level : Level} (h : level.Distinct) (p : Flag → Bool) :
    Level.Distinct (level.filter p) where
  named f hf name hname := h.named f (List.mem_filter.mp hf).1 name hname
  apart := h.apart.filter p

/-! ## What a flag holds -/

namespace Flag

variable {f : Flag} {content : Option FlagContent}

/-- A flag with a value holds the text that it was given, or else its default. -/
theorem content_entryOf_of_value (hkind : f.kind = .value)
    (hsuits : ∀ c, content = some c → c.Suits f) :
    (f.entryOf content).map Entry.content
      = ((content.bind FlagContent.text?).or f.default).map .text := by
  cases content with
  | some c =>
    have hc := hsuits c rfl
    rw [FlagContent.Suits, hkind] at hc
    obtain ⟨value, rfl⟩ := hc
    rfl
  | none =>
    show f.defaultEntry.map Entry.content = f.default.map .text
    rw [defaultEntry, hkind]
    cases f.default <;> rfl

/-- A switch is on if it was given, and off if not. -/
theorem content_entryOf_of_switch (hkind : f.kind = .switch)
    (hsuits : ∀ c, content = some c → c.Suits f) :
    (f.entryOf content).map Entry.content = some (.toggle content.isSome) := by
  cases content with
  | some c =>
    have hc := hsuits c rfl
    rw [FlagContent.Suits, hkind] at hc
    rw [hc]
    rfl
  | none =>
    show f.defaultEntry.map Entry.content = _
    rw [defaultEntry, hkind]
    rfl

end Flag

/-! ## Asking for help -/

namespace Registry

variable {α : Type} {r : Registry α} {tokens : List OsText} {before : List Phrase}
  {topic : Option String}

/-- The tokens ask for help, after some phrases of the root level and perhaps on a topic. After the
separator, help is not parsed for a topic. -/
inductive AsksForHelp (r : Registry α) (tokens : List OsText) : List Phrase → Option String → Prop
  where
  | parsed (before : List Phrase) (rest : Remainder) :
      (∀ p ∈ before, p.Valid r.rootLevel ∧ r.Undeclared p.word) →
      rest.Valid r.helpLevel (some helpTopic) →
      tokens = Phrase.written before ++ .ofString helpCommand :: rest.tokens →
      AsksForHelp r tokens before rest.operand?
  | escaped (e : Escape) : e.Valid r → e.command = helpCommand → tokens = e.tokens →
      AsksForHelp r tokens e.before none

theorem declares_helpCommand (r : Registry α) : r.declares helpCommand = true := by
  simp [declares]

theorem hasHelpCommand_of_contains_eq_false (h : r.commands.contains helpCommand = false) :
    r.hasHelpCommand = true := by
  rw [hasHelpCommand, h]
  rfl

/-- After the built-in help command, its own level is scanned, with a place for the topic. -/
theorem scanBelow_helpCommand (h : r.commands.contains helpCommand = false)
    (tokens : List OsText) :
    r.scanBelow helpCommand tokens
      = Scan.entries r.helpLevel <$> r.helpLevel.scan (some helpTopic) tokens := by
  rw [scanBelow, h]
  cases r.helpLevel.scan (some helpTopic) tokens <;> rfl

/-- No flag that the help command itself declares has the name of the topic. -/
theorem name_ne_helpTopic {f : Flag} (h : f ∈ r.helpLevel) : f.name ≠ helpTopic := by
  have hkeep := (List.mem_filter.mp h).2
  exact of_decide_eq_true hkeep

/-- What is given before the help command gives each flag once at most. -/
theorem AsksForHelp.before_once (hasks : r.AsksForHelp tokens before topic) (hr : r.Reachable)
    {line : CommandLine} (h : CommandLine.parse r tokens = .ok line) :
    (∀ p ∈ before, p.Valid r.rootLevel ∧ r.Undeclared p.word)
      ∧ (namesOf (Phrase.occurrences before)).Nodup := by
  cases hasks with
  | parsed before w hbefore hw htokens =>
    subst htokens
    obtain ⟨root, below, hnote, -⟩ := (CommandLine.parse_declared_eq_ok_iff
      hr.distinct_rootLevel hbefore r.declares_helpCommand).mp h
    exact ⟨hbefore, (Scan.noteAll_empty_eq_ok_iff.mp hnote).1⟩
  | escaped e he hcommand htokens =>
    subst htokens
    obtain ⟨honce, -⟩ := (he.parse_eq_ok_iff hr.distinct_rootLevel).mp h
    exact ⟨he.before, honce⟩

/-- A command line that is accepted and selects the help command is of one of these forms. -/
theorem exists_asksForHelp (hr : r.Reachable) (hfree : r.commands.contains helpCommand = false)
    {line : CommandLine} (h : CommandLine.parse r tokens = .ok line) {own : Matches}
    (hselected : line.selected = some (helpCommand, own)) :
    ∃ before topic, r.AsksForHelp tokens before topic := by
  have hdeclares := r.declares_helpCommand
  obtain ⟨before, hbefore, ⟨rest, rfl⟩ | ⟨hseparator, operands, rfl⟩⟩ :=
    CommandLine.exists_before h hselected hdeclares
  · obtain ⟨root, below, -, hbelow, -⟩ :=
      (CommandLine.parse_declared_eq_ok_iff hr.distinct_rootLevel hbefore hdeclares).mp h
    rw [scanBelow_helpCommand hfree] at hbelow
    obtain ⟨s, hscan, -⟩ := map_eq_ok_iff.mp hbelow
    obtain ⟨w, hw, rfl⟩ := Level.exists_remainder hscan
    exact ⟨before, w.operand?, .parsed before w hbefore hw rfl⟩
  · exact ⟨before, none, .escaped ⟨before, helpCommand, operands⟩ ⟨hbefore, hseparator⟩ rfl rfl⟩

/-! ## What is held under the name of the topic -/

/-- What the root level holds for a global flag that bears the name of the topic. -/
def topicOnRoot (r : Registry α) (before : List Phrase) : Option Entry :=
  ((∅ : Scan).noted (Phrase.occurrences before)).entries r.rootLevel helpTopic

/-- Without such a flag, the root level holds nothing. -/
theorem topicOnRoot_eq_none (hbefore : ∀ p ∈ before, p.Valid r.rootLevel ∧ r.Undeclared p.word)
    (hname : ∀ f ∈ r.rootLevel, f.name ≠ helpTopic) : r.topicOnRoot before = none := by
  have hmem : ∀ g ∈ Phrase.occurrences before, g.1 ∈ r.rootLevel := by
    intro g hg
    exact (Phrase.mem_level_of_mem_occurrences (fun p hp => (hbefore p hp).1) hg).1
  exact Scan.entries_noted_eq_none hmem hname

/-- The root level holds no topic if none of its flags has that name. -/
theorem topicOnRoot_of_not_mem
    (hbefore : ∀ p ∈ before, p.Valid r.rootLevel ∧ r.Undeclared p.word)
    (hmem : helpTopic ∉ r.rootLevel.map Flag.name) : r.topicOnRoot before = none := by
  refine topicOnRoot_eq_none hbefore fun f hf heq => hmem ?_
  rw [← heq]
  exact List.mem_map_of_mem hf

/-- Below the help command, the topic is held as what was given, and without one nothing is. -/
theorem entries_helpTopic (hr : r.Reachable) {w : Remainder}
    (hw : w.Valid r.helpLevel (some helpTopic)) {s : Scan}
    (hscan : r.helpLevel.scan (some helpTopic) w.tokens = .ok s) :
    s.entries r.helpLevel helpTopic = w.operand?.map fun text => ⟨.text text, true⟩ := by
  have hlevel : r.helpLevel.Distinct := hr.distinct_rootLevel.filter _
  have hlookup := hw.lookup_operand hlevel (fun f hf => name_ne_helpTopic hf) hscan
  have hfind : r.helpLevel.get? helpTopic = none := by
    refine List.find?_eq_none.mpr fun f hf => ?_
    simpa using name_ne_helpTopic hf
  unfold Scan.entries
  rw [hlookup, hfind]
  cases w.operand? <;> rfl

/-- The topic that is given is held, and without one what the root level holds. -/
theorem own_helpTopic (hr : r.Reachable) (hfree : r.commands.contains helpCommand = false)
    {line : CommandLine} (h : CommandLine.parse r tokens = .ok line) {own : Matches}
    (hselected : line.selected = some (helpCommand, own))
    (hasks : r.AsksForHelp tokens before topic) :
    own helpTopic = (topic.map fun text => ⟨.text text, true⟩).or (r.topicOnRoot before) := by
  cases hasks with
  | parsed before w hbefore hw htokens =>
    subst htokens
    obtain ⟨root, below, hnote, hbelow, hline⟩ := (CommandLine.parse_declared_eq_ok_iff
      hr.distinct_rootLevel hbefore r.declares_helpCommand).mp h
    obtain ⟨-, rfl⟩ := Scan.noteAll_empty_eq_ok_iff.mp hnote
    rw [scanBelow_helpCommand hfree] at hbelow
    obtain ⟨s, hscan, rfl⟩ := map_eq_ok_iff.mp hbelow
    have hgiven := entries_helpTopic hr hw hscan
    subst hline
    cases hselected
    by_cases hmem : helpTopic ∈ r.rootLevel.map Flag.name
    · -- a global flag of that name: what is given on the inner level is the stronger
      rw [Matches.share_of_mem hmem, Matches.merge, hgiven]
      cases w.operand? with
      | none =>
        show _ = r.topicOnRoot before
        unfold topicOnRoot
        cases Scan.entries r.rootLevel _ helpTopic <;> rfl
      | some text =>
        cases Scan.entries r.rootLevel _ helpTopic with
        | none => rfl
        | some outer => simp [Entry.merge]
    · rw [Matches.share_of_not_mem hmem, hgiven, topicOnRoot_of_not_mem hbefore hmem,
        Option.or_none]
  | escaped e he hcommand htokens =>
    subst htokens
    obtain ⟨-, rfl⟩ := (he.parse_eq_ok_iff hr.distinct_rootLevel).mp h
    have hown : e.own r = own := congrArg Prod.snd (Option.some.inj hselected)
    have hne : helpTopic ≠ "" := by decide
    rw [← hown, Escape.own_of_ne hne]
    by_cases hmem : helpTopic ∈ r.rootLevel.map Flag.name
    · rw [if_pos hmem]
      rfl
    · rw [if_neg hmem, topicOnRoot_of_not_mem he.before hmem]
      rfl

/-- A global flag that bears the name of the topic holds what it was given, or its default. -/
theorem topicOnRoot_eq (hr : r.Reachable)
    (hbefore : ∀ p ∈ before, p.Valid r.rootLevel ∧ r.Undeclared p.word)
    (honce : (namesOf (Phrase.occurrences before)).Nodup) {f : Flag} (hf : f ∈ r.rootLevel)
    (hname : f.name = helpTopic) :
    r.topicOnRoot before = f.entryOf ((Phrase.occurrences before).lookup f) := by
  have hmem : ∀ g ∈ Phrase.occurrences before, g.1 ∈ r.rootLevel := by
    intro g hg
    exact (Phrase.mem_level_of_mem_occurrences (fun p hp => (hbefore p hp).1) hg).1
  rw [topicOnRoot, ← hname]
  exact Scan.entries_noted hr.distinct_rootLevel hmem honce hf

end Registry

/-! ## The help that is shown -/

namespace App

/-- The help on a topic, or that of the application. -/
def helpOn (app : App) : Option String → Journal RunError Unit
  | none => app.renderHelp
  | some topic =>
    match app.registry.commands.get? topic with
    | some command => app.renderCommandHelp command
    | none => do Journal.fail (← app.notFound topic)

variable {app : App} {own : Matches}

/-- What is held under the name of the topic decides. -/
theorem serve_helpRequest_of_none (h : own helpTopic = none) :
    app.serve (app.helpRequest own) = app.helpOn none := by
  rw [helpRequest, h]
  rfl

/-- A text that is held there is taken for the topic. -/
theorem serve_helpRequest_of_text {topic : String}
    (h : (own helpTopic).map Entry.content = some (.text topic)) :
    app.serve (app.helpRequest own) = app.helpOn (some topic) := by
  obtain ⟨entry, hentry, hcontent⟩ := Option.map_eq_some_iff.mp h
  simp only [helpRequest, hentry, hcontent, helpOn]
  cases app.registry.commands.get? topic <;> rfl

/-- What is held there and is no text makes the run break off. -/
theorem serve_helpRequest_of_toggle {on : Bool}
    (h : (own helpTopic).map Entry.content = some (.toggle on)) :
    app.serve (app.helpRequest own) = Journal.fail (.topicIsNoText helpTopic) := by
  obtain ⟨entry, hentry, hcontent⟩ := Option.map_eq_some_iff.mp h
  simp only [helpRequest, hentry, hcontent]
  rfl

/-- The help of the application takes one snapshot and writes one text. -/
theorem helpOn_none :
    (app.helpOn none).texts = [app.help app.readings.snapshot]
      ∧ (app.helpOn none).snapshots = 1 ∧ (app.helpOn none).result = .ok () := by
  let taken : Journal RunError Snapshot := app.readings.takeSnapshot
  obtain ⟨htexts, hcount, hok⟩ : taken.texts = [] ∧ taken.snapshots = 1
      ∧ taken.result = .ok app.readings.snapshot := Journal.takeSnapshot_effects app.readings
  refine ⟨?_, ?_, ?_⟩
  · show (taken >>= _).texts = _
    rw [Journal.texts_bind_of_ok hok, htexts]
    rfl
  · show (taken >>= _).snapshots = _
    rw [Journal.snapshots_bind_of_ok hok, hcount]
    rfl
  · show (taken >>= _).result = _
    rw [Journal.result_bind, hok]
    rfl

/-- The help of a command is one text. -/
theorem helpOn_registered {topic : String} {command : Command Action}
    (h : app.registry.commands.get? topic = some command) :
    app.helpOn (some topic) = Journal.write .write (app.commandHelp command) := by
  simp only [helpOn, h]
  rfl

/-- On a topic that is no command, the run fails with the error that is found for it. -/
theorem helpOn_unregistered {topic : String} (h : app.registry.commands.get? topic = none) :
    app.helpOn (some topic) = (do Journal.fail (← app.notFound topic)) := by
  simp only [helpOn, h]

/-- The help command is served, where no command has taken its name. -/
theorem run_eq_of_selected {args : List OsText} {line : CommandLine}
    (hfree : app.registry.commands.contains helpCommand = false)
    (hparse : CommandLine.parse app.registry (args.drop 1) = .ok line)
    (hselected : line.selected = some (helpCommand, own)) :
    app.run args = app.serve (app.helpRequest own) := by
  have hhelp := Registry.hasHelpCommand_of_contains_eq_false hfree
  have hrequest : app.request line = app.helpRequest own := by
    rw [request, hselected]
    exact if_pos ⟨rfl, hhelp⟩
  rw [run_of_parse_eq_ok hparse, hrequest]

end App

/-- A request for help depends on its topic alone, as far as one is given. Without a topic, the help
of the application is shown, unless a global flag bears the name of the topic: then the value that
the flag was given before the help command, or its default, is taken for the topic, and a switch of
that name makes the run break off. -/
theorem App.help_depends_on_topic {app : App} (h : app.registry.Reachable)
    (hfree : app.registry.commands.contains helpCommand = false) {args : List OsText}
    {line : CommandLine} (hparse : CommandLine.parse app.registry (args.drop 1) = .ok line)
    {own : Matches} (hselected : line.selected = some (helpCommand, own)) :
    (∃ before topic, app.registry.AsksForHelp (args.drop 1) before topic)
      ∧ (∀ before topic, app.registry.AsksForHelp (args.drop 1) before topic →
        (∀ t, topic = some t → app.run args = app.helpOn (some t))
          ∧ (topic = none → (∀ f ∈ app.registry.flags.globals, f.name ≠ helpTopic) →
            app.run args = app.helpOn none)
          ∧ (topic = none → ∀ f ∈ app.registry.flags.globals, f.name = helpTopic →
            (f.kind = .value → app.run args = app.helpOn ((Phrase.textOf before f).or f.default))
              ∧ (f.kind = .switch → app.run args = Journal.fail (.topicIsNoText helpTopic))))
      ∧ ((app.helpOn none).texts = [app.help app.readings.snapshot]
        ∧ (app.helpOn none).snapshots = 1 ∧ (app.helpOn none).result = .ok ())
      ∧ (∀ t command, app.registry.commands.get? t = some command →
        app.helpOn (some t) = Journal.write .write (app.commandHelp command))
      ∧ ∀ t, app.registry.commands.get? t = none →
        app.helpOn (some t) = (do Journal.fail (← app.notFound t)) := by
  have hrun := run_eq_of_selected hfree hparse hselected
  refine ⟨Registry.exists_asksForHelp h hfree hparse hselected, ?_, helpOn_none,
    fun t command => helpOn_registered, fun t => helpOn_unregistered⟩
  intro before topic hasks
  have hown := Registry.own_helpTopic h hfree hparse hselected hasks
  obtain ⟨hbefore, honce⟩ := hasks.before_once h hparse
  refine ⟨?_, ?_, ?_⟩
  · rintro t rfl
    have htopic : (own helpTopic).map Entry.content = some (.text t) := by
      rw [hown]
      rfl
    rw [hrun]
    exact serve_helpRequest_of_text htopic
  · rintro rfl hname
    have hroot : ∀ f ∈ app.registry.rootLevel, f.name ≠ helpTopic := by
      intro f hf
      rcases List.mem_cons.mp hf with rfl | hglobal
      · decide
      · exact hname f hglobal
    rw [Registry.topicOnRoot_eq_none hbefore hroot] at hown
    rw [hrun]
    exact serve_helpRequest_of_none hown
  · rintro rfl f hf hname
    have hroot : f ∈ app.registry.rootLevel := List.mem_cons_of_mem _ hf
    rw [Registry.topicOnRoot_eq h hbefore honce hroot hname] at hown
    have hheld : own helpTopic = f.entryOf ((Phrase.occurrences before).lookup f) := hown
    have hsuits : ∀ c, (Phrase.occurrences before).lookup f = some c → c.Suits f := by
      intro c hc
      exact (Phrase.mem_level_of_mem_occurrences (fun p hp => (hbefore p hp).1)
        (AssocList.mem_of_lookup_eq_some hc)).2
    rw [hrun]
    constructor
    · intro hkind
      have hcontent := Flag.content_entryOf_of_value hkind hsuits
      rw [← hheld] at hcontent
      rw [Phrase.textOf]
      cases htext : (((Phrase.occurrences before).lookup f).bind FlagContent.text?).or f.default
      with
      | none =>
        rw [htext] at hcontent
        exact serve_helpRequest_of_none (Option.map_eq_none_iff.mp hcontent)
      | some t =>
        rw [htext] at hcontent
        exact serve_helpRequest_of_text hcontent
    · intro hkind
      have hcontent := Flag.content_entryOf_of_switch hkind hsuits
      rw [← hheld] at hcontent
      exact serve_helpRequest_of_toggle hcontent

namespace Sample

/-- A global flag that bears the name of the topic. -/
def topicFlag : Flag :=
  (Flag.value "command" "Command to look up.").withDefault "version"

/-- The registry of the command and this flag. -/
def topicRegistry : Registry Action where
  commands := (∅ : CommandRegistry Action).extend version
  flags := ⟨[topicFlag]⟩

theorem reachable_topicRegistry : topicRegistry.Reachable := by
  have hcommand : (∅ : Registry Action).registerCommand version
      = .ok { topicRegistry with flags := ∅ } := by rfl
  have hflag : Registry.registerFlag { topicRegistry with flags := ∅ } topicFlag
      = .ok topicRegistry := by rfl
  exact .registerFlag topicFlag (.registerCommand version .empty hcommand) hflag

/-- An application of the registry. -/
def topicApp : App :=
  App.ofRegistry "strata" "1.0.0" topicRegistry app.readings

/-- A request for help without a topic. -/
def helpArgs : List OsText :=
  ["strata", "help"].map OsText.ofString

theorem asksForHelp_helpArgs : topicRegistry.AsksForHelp (helpArgs.drop 1) [] none :=
  .parsed [] (.flags [] false) (by decide) (by decide) (by decide)

/-- The default of the flag is taken for the topic. -/
theorem help_on_default_of_flag :
    topicApp.run helpArgs = topicApp.helpOn (some "version") := by
  have hparse : ∃ line own, CommandLine.parse topicApp.registry (helpArgs.drop 1) = .ok line
      ∧ line.selected = some (helpCommand, own) := ⟨_, _, rfl, rfl⟩
  obtain ⟨line, own, hline, hselected⟩ := hparse
  have hfree : topicApp.registry.commands.contains helpCommand = false := by decide
  obtain ⟨-, hall, -⟩ :=
    App.help_depends_on_topic reachable_topicRegistry hfree hline hselected
  obtain ⟨-, -, hflag⟩ := hall [] none asksForHelp_helpArgs
  exact (hflag rfl topicFlag (by decide) rfl).1 rfl

/-- So it is not so that the topic that is given always decides. -/
theorem topic_not_always_decides :
    ¬∀ (app : App) (args : List OsText) (line : CommandLine) (own : Matches)
      (before : List Phrase) (topic : Option String), app.registry.Reachable →
        app.registry.commands.contains helpCommand = false →
        CommandLine.parse app.registry (args.drop 1) = .ok line →
        line.selected = some (helpCommand, own) →
        app.registry.AsksForHelp (args.drop 1) before topic → app.run args = app.helpOn topic := by
  intro h
  have hrun := h topicApp helpArgs _ _ [] none reachable_topicRegistry (by decide) rfl rfl
    asksForHelp_helpArgs
  have hnone : (topicApp.run helpArgs).snapshots = 0 := by rfl
  rw [hrun, App.helpOn_none.2.1] at hnone
  cases hnone

end Sample

end CommandFront
