import CommandFront.Application.Run
import CommandFront.Proofs.SentenceLevels

/-!
# What an action sees of its command line

An action looks up names, not spellings, and on two levels: first what was found on the level of its
command, then what was found on the root level. What it should see is said by the flags: each flag
of either level holds what the command line gives it, under whichever spelling, or its default. A
global flag may be given before the command or after it, which is why both levels have to be asked,
and a default on the nearer level must not hide a value that was given on the other.

- `App.Dispatches`: a command line runs the action of a command.
- `Invocation.Holds`: how an invocation shows what a flag is given.
- `App.dispatches_iff`: which sentences run their command.
- `App.invocation_shows_what_was_given`: an action sees what was given, on whichever level and under
  whichever spelling, else the defaults of its flags, and nothing else.
-/

namespace CommandFront

/-! ## Running an action -/

namespace App

/-- A command line runs the action of a command, which sees an invocation. -/
def Dispatches (app : App) (args : List OsText) (command : Command Action) (inv : Invocation) :
    Prop :=
  ∃ line root own, CommandLine.parse app.registry (args.drop 1) = .ok line
    ∧ app.request line = .invoke command root own ∧ inv = app.invocation command root own

variable {app : App} {args : List OsText} {command : Command Action} {inv : Invocation}

/-- Arguments that are accepted are served. -/
theorem run_of_parse_eq_ok {line : CommandLine}
    (h : CommandLine.parse app.registry (args.drop 1) = .ok line) :
    app.run args = app.serve (app.request line) := by
  unfold run
  rw [h]

/-- Arguments that are refused make the run fail with the cause. -/
theorem run_of_parse_eq_error {e : ArgumentError}
    (h : CommandLine.parse app.registry (args.drop 1) = .error e) :
    app.run args = Journal.fail (.arguments e) := by
  unfold run
  rw [h]

/-- A run that dispatches is the run of the action, after a record in the log. -/
theorem Dispatches.run_eq (h : app.Dispatches args command inv) :
    app.run args = (do
      Journal.log (dispatchRecord command)
      (command.action inv).mapError .action) := by
  obtain ⟨line, root, own, hparse, hrequest, rfl⟩ := h
  rw [run_of_parse_eq_ok hparse, hrequest]
  rfl

/-- A request for help runs no action. -/
theorem helpRequest_ne_invoke {holds root own : Matches} :
    app.helpRequest holds ≠ .invoke command root own := by
  intro h
  unfold helpRequest at h
  split at h
  · cases h
  split at h
  · cases h
  split at h <;> cases h

/-- A command is run exactly if it is selected, is not the built-in help, and help is not asked for.
-/
theorem request_eq_invoke_iff {line : CommandLine} {root own : Matches} :
    app.request line = .invoke command root own
      ↔ ∃ name, line = ⟨root, some (name, own)⟩
        ∧ ¬(name = helpCommand ∧ app.registry.hasHelpCommand = true)
        ∧ app.registry.commands.get? name = some command
        ∧ (own.switch Flag.help.name || root.switch Flag.help.name) = false := by
  obtain ⟨found, selected⟩ := line
  cases selected with
  | none =>
    constructor
    · intro h
      cases h
    · rintro ⟨name, hline, -⟩
      cases hline
  | some pair =>
    obtain ⟨name, below⟩ := pair
    unfold request
    dsimp only
    constructor
    · intro h
      split at h
      case isTrue => exact absurd h helpRequest_ne_invoke
      case isFalse hhelp =>
        split at h
        case h_1 => cases h
        case h_2 hget =>
          split at h
          case isTrue => cases h
          case isFalse hoff =>
            cases h
            exact ⟨name, rfl, hhelp, hget, Bool.eq_false_iff.mpr hoff⟩
    · rintro ⟨_, ⟨⟩, hhelp, hget, hoff⟩
      rw [if_neg hhelp, hget]
      show (if (_ || _) = true then _ else _) = _
      rw [hoff]
      rfl

end App

/-! ## What an invocation shows -/

namespace Invocation

/-- The level of the command holds what a flag was given or its default, and the root level holds
the same if it knows the flag. -/
def Holds (inv : Invocation) (f : Flag) (content : Option FlagContent) : Prop :=
  inv.own f.name = f.entryOf content
    ∧ (inv.root f.name = f.entryOf content ∨ inv.root f.name = none)

variable {inv : Invocation} {f : Flag} {content : Option FlagContent}

/-- The text that is shown for a flag is that of its entry. -/
theorem Holds.value?_eq_entry (h : inv.Holds f content) :
    inv.value? f.name = (f.entryOf content).bind Entry.text? := by
  obtain ⟨hown, hroot⟩ := h
  unfold value? Matches.value?
  rw [hown]
  rcases hroot with hroot | hroot
  · rw [hroot, Option.or_self]
  · rw [hroot]
    exact Option.or_none

theorem Holds.switch_eq_entry (h : inv.Holds f content) :
    inv.switch f.name = ((f.entryOf content).map Entry.isOn).getD false := by
  obtain ⟨hown, hroot⟩ := h
  unfold switch Matches.switch
  rw [hown]
  rcases hroot with hroot | hroot
  · rw [hroot, Bool.or_self]
  · rw [hroot]
    exact Bool.or_false _

/-- A default was not given. -/
theorem Holds.explicitValue?_eq (h : inv.Holds f content) :
    inv.explicitValue? f.name = content.bind FlagContent.text? := by
  have hentry : ((f.entryOf content).filter Entry.given).bind Entry.text?
      = content.bind FlagContent.text? := by
    cases content with
    | some c => cases c <;> rfl
    | none =>
      cases hdefault : f.entryOf none with
      | none => rfl
      | some e =>
        have hgiven : e.given = false := f.given_eq_false_of_defaultEntry hdefault
        rw [Option.filter_some_neg hgiven]
        rfl
  obtain ⟨hown, hroot⟩ := h
  unfold explicitValue? Matches.explicitValue?
  rw [hown, hentry]
  rcases hroot with hroot | hroot
  · rw [hroot, hentry, Option.or_self]
  · rw [hroot]
    exact Option.or_none

section Kinds

variable (h : inv.Holds f content) (hsuits : ∀ c, content = some c → c.Suits f)

include h hsuits

/-- A flag with a value shows what it is given, else its default. -/
theorem Holds.value?_eq_of_value (hkind : f.kind = .value) :
    inv.value? f.name = (content.bind FlagContent.text?).or f.default := by
  rw [h.value?_eq_entry]
  cases content with
  | some c =>
    have hc := hsuits c rfl
    rw [FlagContent.Suits, hkind] at hc
    obtain ⟨value, rfl⟩ := hc
    rfl
  | none =>
    show f.defaultEntry.bind Entry.text? = f.default
    rw [Flag.defaultEntry, hkind]
    cases f.default <;> rfl

/-- A flag with a value is never shown as a switch. -/
theorem Holds.switch_eq_of_value (hkind : f.kind = .value) : inv.switch f.name = false := by
  rw [h.switch_eq_entry]
  cases content with
  | some c =>
    have hc := hsuits c rfl
    rw [FlagContent.Suits, hkind] at hc
    obtain ⟨value, rfl⟩ := hc
    rfl
  | none =>
    show (f.defaultEntry.map Entry.isOn).getD false = false
    rw [Flag.defaultEntry, hkind]
    cases f.default <;> rfl

/-- A switch shows whether it is given, and no text. -/
theorem Holds.switch_eq_of_switch (hkind : f.kind = .switch) :
    inv.switch f.name = content.isSome ∧ inv.value? f.name = none
      ∧ inv.explicitValue? f.name = none := by
  rw [h.switch_eq_entry, h.value?_eq_entry, h.explicitValue?_eq]
  cases content with
  | some c =>
    have hc := hsuits c rfl
    rw [FlagContent.Suits, hkind] at hc
    rw [hc]
    exact ⟨rfl, rfl, rfl⟩
  | none =>
    rw [Flag.entryOf, Flag.defaultEntry, hkind]
    exact ⟨rfl, rfl, rfl⟩

end Kinds

/-- Nothing is shown that neither level holds. -/
theorem eq_none_of_holds_nothing {name : String} (hown : inv.own name = none)
    (hroot : inv.root name = none) :
    inv.value? name = none ∧ inv.explicitValue? name = none ∧ inv.switch name = false := by
  unfold value? explicitValue? switch Matches.value? Matches.explicitValue? Matches.switch
  rw [hown, hroot]
  exact ⟨rfl, rfl, rfl⟩

end Invocation

/-! ## The command line and what its action sees -/

namespace App

variable {app : App} {args : List OsText} {command : Command Action} {inv : Invocation}
  {w : Sentence}

/-- A command line that selects a registered command runs it, unless help is asked for. -/
theorem dispatches_iff_of_parse {P : Prop} {name : String} {root own : Matches}
    (hparse : ∀ line, CommandLine.parse app.registry (args.drop 1) = .ok line
      ↔ P ∧ line = ⟨root, some (name, own)⟩)
    (hregistered : app.registry.commands.contains name = true) :
    app.Dispatches args command inv
      ↔ P ∧ app.registry.commands.get? name = some command
        ∧ inv = app.invocation command root own ∧ inv.switch Flag.help.name = false := by
  constructor
  · rintro ⟨line, root', own', hline, hrequest, rfl⟩
    obtain ⟨hP, rfl⟩ := (hparse line).mp hline
    obtain ⟨found, ⟨⟩, -, hget, hoff⟩ := request_eq_invoke_iff.mp hrequest
    exact ⟨hP, hget, rfl, hoff⟩
  · rintro ⟨hP, hget, rfl, hoff⟩
    refine ⟨_, _, _, (hparse _).mpr ⟨hP, rfl⟩, ?_, rfl⟩
    refine request_eq_invoke_iff.mpr ⟨name, rfl, ?_, hget, hoff⟩
    rintro ⟨hhelp, hfree⟩
    -- the built-in help command gives way to a registered one of its name
    rw [Registry.hasHelpCommand, ← hhelp, hregistered] at hfree
    cases hfree

/-- A valid sentence runs its command exactly when no flag is given twice on a level and no help
is asked for. -/
theorem dispatches_iff (hw : w.Valid app.registry) (h : app.registry.Reachable)
    (htokens : w.tokens = args.drop 1) :
    app.Dispatches args command inv
      ↔ w.Once ∧ app.registry.commands.get? w.command = some command
        ∧ inv = app.invocation command (w.root app.registry) (w.own app.registry)
        ∧ inv.switch Flag.help.name = false := by
  refine dispatches_iff_of_parse (fun line => ?_) hw.registered
  rw [← htokens]
  exact hw.parse_eq_ok_iff_once h

/-- The command of an action that is run is registered under its name. -/
theorem Dispatches.get?_eq (h : app.registry.Reachable) (hrun : app.Dispatches args command inv) :
    app.registry.commands.get? command.name = some command := by
  obtain ⟨line, root, own, hparse, hrequest, -⟩ := hrun
  obtain ⟨name, rfl, -, hget, -⟩ := request_eq_invoke_iff.mp hrequest
  obtain ⟨-, rfl⟩ := h.consistent.get?_eq_some_iff.mp hget
  exact hget

/-- A command that is run is registered. -/
theorem Dispatches.mem_commands (h : app.registry.Reachable)
    (hrun : app.Dispatches args command inv) : command ∈ app.registry.commands.commands :=
  (h.consistent.get?_eq_some_iff.mp (hrun.get?_eq h)).1

theorem Dispatches.name_mem_names (h : app.registry.Reachable)
    (hrun : app.Dispatches args command inv) : command.name ∈ app.registry.commands.names :=
  List.mem_map_of_mem (hrun.mem_commands h)

/-- A run that dispatches has found the name of its command. -/
theorem Dispatches.parse_eq (h : app.registry.Reachable) (hrun : app.Dispatches args command inv) :
    ∃ root own, CommandLine.parse app.registry (args.drop 1)
        = .ok ⟨root, some (command.name, own)⟩
      ∧ app.registry.commands.contains command.name = true := by
  have hname := hrun.get?_eq h
  obtain ⟨line, root, own, hparse, hrequest, -⟩ := hrun
  obtain ⟨name, rfl, -, hget, -⟩ := request_eq_invoke_iff.mp hrequest
  obtain ⟨-, rfl⟩ := h.consistent.get?_eq_some_iff.mp hget
  refine ⟨root, own, hparse, ?_⟩
  rw [h.consistent.contains_iff, ← h.consistent.get?_isSome_iff, hname]
  rfl

/-- A command line that runs a command and has no separator is a valid sentence. -/
theorem Dispatches.exists_sentence (h : app.registry.Reachable)
    (hseparator : Token.separator.toText ∉ args.drop 1)
    (hrun : app.Dispatches args command inv) :
    ∃ w : Sentence, w.Valid app.registry ∧ w.tokens = args.drop 1 := by
  obtain ⟨root, own, hparse, hregistered⟩ := hrun.parse_eq h
  obtain ⟨w, hvalid, htokens, -⟩ :=
    CommandLine.exists_sentence h.distinct_rootLevel hseparator hparse rfl hregistered
  exact ⟨w, hvalid, htokens⟩

end App

namespace Sentence

variable {app : App} {w : Sentence}

/-- The invocation of a valid sentence holds what the sentence gives, for each flag that its command
accepts. -/
theorem Valid.invocation_holds (hw : w.Valid app.registry) (h : app.registry.Reachable)
    (honce : w.Once) (command : Command Action) {f : Flag}
    (hf : f ∈ app.registry.commandLevel w.command) :
    (app.invocation command (w.root app.registry) (w.own app.registry)).Holds f (w.given? f) := by
  by_cases hglobal : f.IsGlobal
  · have hroot := (Registry.mem_rootLevel_iff_isGlobal hf).mpr hglobal
    obtain ⟨hown, hroot⟩ := hw.holds_of_isGlobal h honce hroot hglobal
    exact ⟨hown, .inl hroot⟩
  -- a flag of the command alone is on one level only, where the other one holds nothing
  · have hother := mt (Registry.mem_rootLevel_iff_isGlobal hf).mp hglobal
    obtain ⟨hown, hroot⟩ := hw.holds_of_not_isGlobal h honce hf hother hglobal
    exact ⟨hown, .inr hroot⟩

/-- A flag is given what its kind takes. -/
theorem Valid.suits (hw : w.Valid app.registry) {f : Flag} {content : FlagContent}
    (hgiven : w.given? f = some content) : content.Suits f := by
  have hbefore := fun p hp => (hw.before p hp).1
  rcases Option.or_eq_some_iff.mp hgiven with hafter | ⟨-, houter⟩
  · exact (Phrase.mem_level_of_mem_occurrences hw.after
      (AssocList.mem_of_lookup_eq_some hafter)).2
  · split at houter
    · exact (Phrase.mem_level_of_mem_occurrences hbefore
        (AssocList.mem_of_lookup_eq_some houter)).2
    · cases houter

/-- What a flag with a value is given, as text. -/
theorem Valid.text_given? (hw : w.Valid app.registry) {f : Flag} (hkind : f.kind = .value) :
    (w.given? f).bind FlagContent.text?
      = (Phrase.textOf w.after f).or (if f.IsGlobal then Phrase.textOf w.before f else none) := by
  unfold given? Phrase.textOf
  cases hafter : (Phrase.occurrences w.after).lookup f with
  | some content =>
    have hsuits := (Phrase.mem_level_of_mem_occurrences hw.after
      (AssocList.mem_of_lookup_eq_some hafter)).2
    rw [FlagContent.Suits, hkind] at hsuits
    obtain ⟨value, rfl⟩ := hsuits
    rfl
  | none =>
    rw [Option.none_or]
    show _ = if f.IsGlobal then _ else none
    split <;> rfl

/-- A switch is given something exactly when a phrase on either level turns it on. -/
theorem Valid.isSome_given?_iff (hw : w.Valid app.registry) {f : Flag}
    (hf : f ∈ app.registry.commandLevel w.command) (hkind : f.kind = .switch) :
    (w.given? f).isSome = true ↔ Phrase.TurnsOn w.after f ∨ Phrase.TurnsOn w.before f := by
  have hbefore := fun p hp => (hw.before p hp).1
  rw [given?, Option.isSome_or, Bool.or_eq_true, Phrase.isSome_lookup_iff_turnsOn hw.after hkind]
  refine or_congr_right ?_
  split
  case isTrue => exact Phrase.isSome_lookup_iff_turnsOn hbefore hkind
  case isFalse hglobal =>
    constructor
    · exact fun hsome => absurd hsome Bool.false_ne_true
    · -- only a global flag can be turned on before the command
      intro hon
      exact absurd ((Registry.mem_rootLevel_iff_isGlobal hf).mp (hw.mem_rootLevel hon)) hglobal

end Sentence

/-- Whatever registrations lead to the registry of an application: an action that a command line
without the separator runs sees what was given, and nothing else. The command line is a sentence,
and however it is read as one, each flag is given once at most on each level. A flag with a value
shows what it was given after the command, else, if it is global, what it was given before the
command, else its default; a switch shows whether it was given on either level; and nothing is
shown under another name than that of a flag that the command accepts. -/
theorem App.invocation_shows_what_was_given {app : App} (h : app.registry.Reachable)
    {args : List OsText} (hseparator : Token.separator.toText ∉ args.drop 1)
    {command : Command Action} {inv : Invocation} (hrun : app.Dispatches args command inv) :
    app.run args = (do
        Journal.log (App.dispatchRecord command)
        (command.action inv).mapError .action)
      ∧ (∃ w : Sentence, w.Valid app.registry ∧ w.tokens = args.drop 1)
      ∧ ∀ w : Sentence, w.Valid app.registry → w.tokens = args.drop 1 →
        app.registry.commands.get? w.command = some command
          ∧ (namesOf (Phrase.occurrences w.before)).Nodup
          ∧ (namesOf (Phrase.occurrences w.after)).Nodup
          ∧ (∀ f ∈ app.registry.flags.flags, f.VisibleIn (.command w.command) → f.kind = .value →
            inv.explicitValue? f.name
                = (Phrase.textOf w.after f).or
                  (if f.IsGlobal then Phrase.textOf w.before f else none)
              ∧ inv.value? f.name = (inv.explicitValue? f.name).or f.default
              ∧ inv.switch f.name = false)
          ∧ (∀ f ∈ app.registry.flags.flags, f.VisibleIn (.command w.command) → f.kind = .switch →
            (inv.switch f.name = true ↔ Phrase.TurnsOn w.after f ∨ Phrase.TurnsOn w.before f)
              ∧ inv.value? f.name = none ∧ inv.explicitValue? f.name = none)
          ∧ ∀ name, (∀ f ∈ app.registry.flags.flags, f.VisibleIn (.command w.command) →
              f.name ≠ name) →
            inv.value? name = none ∧ inv.explicitValue? name = none ∧ inv.switch name = false := by
  refine ⟨hrun.run_eq, hrun.exists_sentence h hseparator, fun w hw htokens => ?_⟩
  obtain ⟨honce, hget, rfl, hhelp⟩ := (App.dispatches_iff hw h htokens).mp hrun
  have hsuits : ∀ (f : Flag) (content : FlagContent), w.given? f = some content →
      content.Suits f := fun f content => hw.suits
  refine ⟨hget, honce.1, honce.2, ?_, ?_, ?_⟩
  · intro f hmem hvisible hkind
    have hf := Registry.mem_commandLevel_iff.mpr (.inr ⟨hmem, hvisible⟩)
    have hholds := hw.invocation_holds h honce command hf
    have hexplicit := hholds.explicitValue?_eq
    refine ⟨hexplicit.trans (hw.text_given? hkind), ?_,
      hholds.switch_eq_of_value (hsuits f) hkind⟩
    rw [hexplicit]
    exact hholds.value?_eq_of_value (hsuits f) hkind
  · intro f hmem hvisible hkind
    have hf := Registry.mem_commandLevel_iff.mpr (.inr ⟨hmem, hvisible⟩)
    have hholds := hw.invocation_holds h honce command hf
    obtain ⟨hswitch, hnothing⟩ := hholds.switch_eq_of_switch (hsuits f) hkind
    rw [hswitch]
    exact ⟨hw.isSome_given?_iff hf hkind, hnothing⟩
  · intro name hname
    by_cases hname' : name = Flag.help.name
    · -- the help flag is a switch, and the action would not run if it were on
      subst hname'
      have hf := Registry.help_mem_commandLevel app.registry w.command
      have hholds := hw.invocation_holds h honce command hf
      obtain ⟨-, hvalue, hexplicit⟩ := hholds.switch_eq_of_switch (hsuits _) rfl
      exact ⟨hvalue, hexplicit, hhelp⟩
    · obtain ⟨hown, hroot⟩ := hw.holds_nothing fun f hf => by
        rcases Registry.mem_commandLevel_iff.mp hf with rfl | ⟨hmem, hvisible⟩
        · exact fun heq => hname' heq.symm
        · exact hname f hmem hvisible
      exact Invocation.eq_none_of_holds_nothing hown hroot

/-! ## A global flag with a default before the command -/

namespace Sample

/-- A command that does nothing. -/
def version : Command Action where
  name := "version"
  usage := "Print version."
  action _ := pure ()

/-- A global flag with a value, an alias and a default. -/
def config : Flag :=
  { (Flag.value "config" "Path to a file.").withDefault "a.toml" with aliases := ["cfg"] }

/-- A switch of the command. -/
def json : Flag :=
  { (Flag.switch "json" "Enable json.").forCommand "version" with short := some 'j' }

/-- The registry of the command and the two flags. -/
def registry : Registry Action where
  commands := (∅ : CommandRegistry Action).extend version
  flags := ⟨[config, json]⟩

theorem reachable_registry : registry.Reachable := by
  have hcommand : (∅ : Registry Action).registerCommand version
      = .ok { registry with flags := ∅ } := by rfl
  have hconfig : Registry.registerFlag { registry with flags := ∅ } config
      = .ok { registry with flags := ⟨[config]⟩ } := by rfl
  have hjson : Registry.registerFlag { registry with flags := ⟨[config]⟩ } json = .ok registry := by
    rfl
  exact .registerFlag json (.registerFlag config (.registerCommand version .empty hcommand) hconfig)
    hjson

/-- An application of the registry. -/
def app : App :=
  App.ofRegistry "strata" "1.0.0" registry ⟨.error "", "", "", "", "", "", "", "", ""⟩

/-- A command line with the global flag before the command. -/
def args : List OsText :=
  ["strata", "--cfg=b.toml", "version", "-j"].map OsText.ofString

/-- The command line as a sentence. -/
def sentence : Sentence where
  before := [.longValue config "cfg" .equals "b.toml"]
  command := "version"
  after := [.letters [('j', json)]]

/-- What is given before the command beats the default, which the level of the command holds too. -/
theorem shows_config_before_command :
    ∃ inv, app.Dispatches args version inv ∧ inv.explicitValue? "config" = some "b.toml"
      ∧ inv.value? "config" = some "b.toml" ∧ inv.switch "json" = true
      ∧ inv.value? "json" = none := by
  obtain ⟨inv, hrun⟩ : ∃ inv, app.Dispatches args version inv := ⟨_, _, _, _, rfl, rfl, rfl⟩
  have hshows := App.invocation_shows_what_was_given reachable_registry (by decide) hrun
  obtain ⟨-, -, -, hvalues, hswitches, -⟩ := hshows.2.2 sentence (by decide) (by decide)
  obtain ⟨hexplicit, hvalue, -⟩ := hvalues config (by decide) (by decide) rfl
  obtain ⟨hon, hnone, -⟩ := hswitches json (by decide) (by decide) rfl
  have hgiven : inv.explicitValue? "config" = some "b.toml" := hexplicit.trans (by decide)
  have hheld : inv.value? "config" = (inv.explicitValue? "config").or (some "a.toml") := hvalue
  refine ⟨inv, hrun, hgiven, ?_, hon.mpr (.inl (by decide)), hnone⟩
  rw [hheld, hgiven]
  rfl

end Sample

end CommandFront
