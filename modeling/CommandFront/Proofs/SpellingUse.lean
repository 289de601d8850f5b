import CommandFront.Proofs.Escape
import CommandFront.Proofs.PhraseTokens

/-!
# What the spellings in a help text are good for

A registration lets spellings through that the help shows, but that no command line can use.

What the help shows for a flag is its long spellings after two hyphens and its letter after one.
Whether these can be typed is a question about the parser alone: it splits a token at the first
equals sign, and it reads a second hyphen as the start of a long spelling. So a name with an equals
sign and the letter `-` are read as something else, which no flag of the level can answer to. All
other spellings are phrases of one token and give their flag.

- `Flag.spellings`, `Flag.synopsis_eq`: the spellings that the help shows.
- `App.Understands`: after a command, a spelling gives its flag and nothing else.
- `App.understands_of_phrase`: a spelling that is the first token of a phrase is understood.
- `Phrase.exists_rest_of_isClosed`: the separator, or a long spelling with its value, turns nothing
  on and waits for nothing.
- `App.understands_shown_spellings`: a long spelling is understood exactly if there is no equals
  sign in it, and a letter exactly if it is no hyphen.
-/

namespace CommandFront

/-! ## What the help shows -/

namespace Flag

/-- The spellings, as they are given on a command line. -/
def spellings (f : Flag) : List String :=
  f.longNames.map (fun name => "--" ++ name)
    ++ f.short.toList.map fun c => "-" ++ String.singleton c

/-- What the help shows after each spelling. -/
def valueHint (f : Flag) : String :=
  (f.placeholder?.map (" " ++ ·)).getD ""

/-- The help shows the spellings of a flag, each with a hint of its value. -/
theorem synopsis_eq (f : Flag) :
    f.synopsis = ", ".intercalate (f.spellings.map fun spelling => spelling ++ f.valueHint) := by
  rw [spellings, List.map_append, List.map_map, List.map_map]
  rfl

end Flag

/-! ## What an action sees of one flag -/

namespace Invocation

/-- The action sees that a flag is not given. -/
def LeavesUnset (inv : Invocation) (f : Flag) : Prop :=
  inv.switch f.name = false ∧ inv.explicitValue? f.name = none

variable {inv : Invocation} {f : Flag}

/-- A flag that no phrase gives is not given. -/
theorem Holds.leavesUnset (h : inv.Holds f none) : inv.LeavesUnset f := by
  have hsuits : ∀ c : FlagContent, none = some c → c.Suits f := fun _ hc => nomatch hc
  refine ⟨?_, h.explicitValue?_eq⟩
  cases hkind : f.kind with
  | switch => exact (h.switch_eq_of_switch hsuits hkind).1
  | value => exact h.switch_eq_of_value hsuits hkind

end Invocation

/-! ## A command and one phrase -/

namespace Sentence

/-- A command with one phrase after it. -/
def ofPhrase (command : String) (p : Phrase) : Sentence :=
  ⟨[], command, [p]⟩

variable {α : Type} {r : Registry α} {command : String} {p : Phrase} {f : Flag}
  {content : FlagContent}

theorem tokens_ofPhrase (command : String) (p : Phrase) :
    (ofPhrase command p).tokens = .ofString command :: p.tokens := by
  show OsText.ofString command :: (p.tokens ++ []) = _
  rw [List.append_nil]

/-- A command with one phrase after it is a sentence. -/
theorem valid_ofPhrase (hregistered : r.commands.contains command = true)
    (hp : p.Valid (r.commandLevel command)) : (ofPhrase command p).Valid r :=
  ⟨fun _ hq => absurd hq List.not_mem_nil, hregistered, fun _ hq => List.mem_singleton.mp hq ▸ hp⟩

section Given

variable (hgiven : p.given = [(f, content)])

include hgiven

theorem occurrences_ofPhrase : Phrase.occurrences [p] = [(f, content)] := by
  rw [Phrase.occurrences_cons, hgiven]
  rfl

/-- It gives its flag once. -/
theorem once_ofPhrase : (ofPhrase command p).Once := by
  refine ⟨List.nodup_nil, ?_⟩
  show (namesOf (Phrase.occurrences [p])).Nodup
  rw [occurrences_ofPhrase hgiven]
  exact List.pairwise_singleton _ _

/-- Only the flag of the phrase is given anything. -/
theorem given?_ofPhrase (g : Flag) :
    (ofPhrase command p).given? g = if g = f then some content else none := by
  have hbefore : (if g.IsGlobal then (Phrase.occurrences []).lookup g else none) = none :=
    ite_self none
  show ((Phrase.occurrences [p]).lookup g).or _ = _
  rw [occurrences_ofPhrase hgiven, AssocList.lookup_cons]
  exact (congrArg _ hbefore).trans Option.or_none

end Given

end Sentence

/-! ## Spellings that are understood -/

namespace App

variable {app : App} {command : Command Action} {f : Flag}

/-- A command line runs a command once, and its action sees what it should of one flag, and of each
other flag that it accepts that it is not given. -/
def RunsWith (app : App) (args : List OsText) (command : Command Action) (f : Flag)
    (shows : Invocation → Prop) : Prop :=
  ∃ inv, app.Dispatches args command inv
    ∧ app.run args = (do
      Journal.log (dispatchRecord command)
      (command.action inv).mapError .action)
    ∧ shows inv
    ∧ ∀ g ∈ app.registry.flags.flags, g.VisibleIn (.command command.name) → g ≠ f →
      inv.LeavesUnset g

/-- After the name of a command, a spelling turns its switch on, or gives its flag whatever value
comes after it, if the value does not start with a hyphen. -/
def Understands (app : App) (command : Command Action) (f : Flag) (spelling : String) : Prop :=
  match f.kind with
  | .switch => ∀ program,
    app.RunsWith [program, .ofString command.name, .ofString spelling] command f fun inv =>
      inv.switch f.name = true
  | .value => ∀ program (value : String), value.toList.head? ≠ some '-' →
    app.RunsWith [program, .ofString command.name, .ofString spelling, .ofString value] command f
      fun inv => inv.explicitValue? f.name = some value

/-! ## Spellings that begin a phrase -/

/-- A command and a phrase that gives one of its flags run the command, which sees that. -/
theorem runsWith_of_phrase (h : app.registry.Reachable)
    (hcommand : command ∈ app.registry.commands.commands) (hf : f ∈ app.registry.flags.flags)
    (hvisible : f.VisibleIn (.command command.name)) {p : Phrase}
    (hp : p.Valid (app.registry.commandLevel command.name)) {content : FlagContent}
    (hgiven : p.given = [(f, content)]) {shows : Invocation → Prop}
    (hshows : ∀ inv : Invocation, inv.Holds f (some content) → content.Suits f → shows inv)
    (program : OsText) :
    app.RunsWith (program :: .ofString command.name :: p.tokens) command f shows := by
  have hget := h.consistent.get?_eq_some_iff.mpr ⟨hcommand, rfl⟩
  have hregistered := h.consistent.contains_iff.mpr (List.mem_map_of_mem hcommand)
  let w := Sentence.ofPhrase command.name p
  let inv := app.invocation command (w.root app.registry) (w.own app.registry)
  have hw : w.Valid app.registry := Sentence.valid_ofPhrase hregistered hp
  have honce : w.Once := Sentence.once_ofPhrase hgiven
  have hgiven? : ∀ g, w.given? g = if g = f then some content else none :=
    Sentence.given?_ofPhrase hgiven
  have hholds : ∀ g ∈ app.registry.commandLevel command.name, inv.Holds g (w.given? g) :=
    fun g hg => hw.invocation_holds h honce command hg
  -- no other flag is given, the built-in help flag among them
  have hother : ∀ g ∈ app.registry.commandLevel command.name, g ≠ f → inv.LeavesUnset g := by
    intro g hg hne
    have hunset := hholds g hg
    rw [hgiven?, if_neg hne] at hunset
    exact hunset.leavesUnset
  have hhelp : Flag.help ≠ f := by
    rintro rfl
    exact h.separate.unreserved _ hf (.inl (List.mem_singleton_self _))
  obtain ⟨hoff, -⟩ := hother _ (Registry.help_mem_commandLevel app.registry command.name) hhelp
  have htokens : w.tokens = (program :: .ofString command.name :: p.tokens).drop 1 :=
    Sentence.tokens_ofPhrase command.name p
  have hrun := (dispatches_iff hw h htokens).mpr ⟨honce, hget, rfl, hoff⟩
  have hcontent : w.given? f = some content := by rw [hgiven?, if_pos rfl]
  have hself := hholds f (Registry.mem_commandLevel_of_visibleIn hf hvisible)
  rw [hcontent] at hself
  refine ⟨inv, hrun, hrun.run_eq, hshows inv hself (hw.suits hcontent), fun g hg hseen hne => ?_⟩
  exact hother g (Registry.mem_commandLevel_of_visibleIn hg hseen) hne

section Understood

variable (h : app.registry.Reachable) (hcommand : command ∈ app.registry.commands.commands)
  (hf : f ∈ app.registry.flags.flags) (hvisible : f.VisibleIn (.command command.name))

include h hcommand hf hvisible

/-- A spelling is understood if it makes a phrase, with each value that is a token of its own. -/
theorem understands_of_phrase {spelling : String}
    (hswitch : f.kind = .switch → ∃ p : Phrase, p.Valid (app.registry.commandLevel command.name)
      ∧ p.tokens = [.ofString spelling] ∧ p.given = [(f, .toggle true)])
    (hvalue : f.kind = .value → ∀ value : String, Joint.apart.Fits value →
      ∃ p : Phrase, p.Valid (app.registry.commandLevel command.name)
        ∧ p.tokens = [.ofString spelling, .ofString value] ∧ p.given = [(f, .text value)]) :
    app.Understands command f spelling := by
  unfold Understands
  cases hkind : f.kind with
  | switch =>
    intro program
    obtain ⟨p, hp, htokens, hgiven⟩ := hswitch hkind
    rw [← htokens]
    refine runsWith_of_phrase h hcommand hf hvisible hp hgiven (fun inv hholds hsuits => ?_) program
    exact (hholds.switch_eq_of_switch (fun c hc => Option.some.inj hc ▸ hsuits) hkind).1
  | value =>
    intro program value hhead
    obtain ⟨p, hp, htokens, hgiven⟩ := hvalue hkind value (.inr hhead)
    rw [← htokens]
    exact runsWith_of_phrase h hcommand hf hvisible hp hgiven
      (fun inv hholds _ => hholds.explicitValue?_eq) program

/-- A long spelling without an equals sign is understood. -/
theorem understands_long {name : String} (hname : name ∈ f.longNames)
    (hequals : '=' ∉ name.toList) : app.Understands command f ("--" ++ name) := by
  have hmem := Registry.mem_commandLevel_of_visibleIn hf hvisible
  have hlong : Phrase.LongOf (app.registry.commandLevel command.name) f name :=
    ⟨hmem, hname, hequals⟩
  have hword : OsText.ofString ("--" ++ name) = (Phrase.long f name).word :=
    OsText.ofString_append ..
  refine understands_of_phrase h hcommand hf hvisible (fun hkind => ?_) fun hkind value hfits => ?_
  · refine ⟨.long f name, ⟨hlong, hkind⟩, ?_, rfl⟩
    rw [hword]
    rfl
  · refine ⟨.longValue f name .apart value, ⟨hlong, hkind, Joint.noConfusion, hfits⟩, ?_, rfl⟩
    rw [hword]
    rfl

/-- A letter that is no hyphen is understood. -/
theorem understands_short {c : Char} (hshort : f.short = some c) (hhyphen : c ≠ '-') :
    app.Understands command f ("-" ++ String.singleton c) := by
  have hmem := Registry.mem_commandLevel_of_visibleIn hf hvisible
  have hhead : some (Glyph.scalar c) ≠ some Token.hyphen := by
    intro heq
    exact hhyphen (Glyph.scalar.inj (Option.some.inj heq))
  have hword : OsText.ofString ("-" ++ String.singleton c) = [Token.hyphen, .scalar c] := by
    rw [OsText.ofString_append, OsText.ofString, OsText.ofString, String.toList_singleton]
    rfl
  refine understands_of_phrase h hcommand hf hvisible (fun hkind => ?_) fun hkind value hfits => ?_
  · refine ⟨.letters [(c, f)], ⟨List.cons_ne_nil _ _, hhead, ?_⟩, ?_, rfl⟩
    · exact Phrase.switchesOf_cons.mpr ⟨⟨hmem, hkind, hshort⟩, Phrase.switchesOf_nil⟩
    · rw [hword]
      rfl
  · refine ⟨.lettersValue [] c f .apart value, ?_, ?_, rfl⟩
    · exact ⟨hhead, Phrase.switchesOf_nil, hmem, hkind, hshort, hfits⟩
    · rw [hword]
      rfl

end Understood

end App

/-! ## Spellings that begin none -/

/-- The separator, or a long spelling with a value: no flag is read from what comes after it, and no
switch is turned on by it. -/
def Token.IsClosed (token : Token) : Prop :=
  token = .separator ∨ ∃ name value, token = .long name (some value)

namespace Phrase

variable {level : Level} {after : List Phrase} {closed : Bool} {token : OsText} {rest : List OsText}

theorem eq_nil_of_written_ending (h : [] = written after ++ Token.ending closed) : after = [] := by
  cases after with
  | nil => rfl
  | cons p others => cases h

/-- After such a token, other phrases come, and only they turn switches on. -/
theorem exists_rest_of_isClosed (hlevel : level.Distinct) (hafter : ∀ p ∈ after, p.Valid level)
    (hwritten : token :: rest = written after ++ Token.ending closed)
    (htoken : (Token.ofText token).IsClosed) :
    ∃ (others : List Phrase) (ended : Bool), rest = written others ++ Token.ending ended
      ∧ (∀ p ∈ others, p.Valid level) ∧ ∀ f, TurnsOn after f → TurnsOn others f := by
  obtain ⟨rfl, -, rfl⟩ | ⟨p, others, rfl, rfl, rfl⟩ := cases_of_written_ending hwritten
  · exact ⟨[], false, rfl, hafter, fun f hon => hon⟩
  · obtain ⟨hp, hothers⟩ := List.forall_mem_cons.mp hafter
    rw [ofText_word hlevel hp] at htoken
    obtain hseparator | ⟨name, value, hlong⟩ := htoken
    · exact absurd hseparator (shape_ne_separator p)
    -- a phrase of this shape gives its flag the value that is in the token
    cases p with
    | long flag spelling => cases hlong
    | letters switches => cases hlong
    | lettersValue switches letter flag joint text => cases hlong
    | longValue flag spelling joint text =>
      cases joint with
      | apart => cases hlong
      | adjacent => cases hlong
      | equals =>
        refine ⟨others, closed, rfl, hothers, fun f hon => ?_⟩
        rw [TurnsOn, occurrences_cons] at hon
        rcases List.mem_append.mp hon with hgiven | hrest
        · cases List.mem_singleton.mp hgiven
        · exact hrest

/-- A token that could be a value is no phrase of its own. -/
theorem ne_written_of_fits (hlevel : level.Distinct) (hafter : ∀ p ∈ after, p.Valid level)
    {value : String} (hfits : Joint.apart.Fits value) :
    [OsText.ofString value] ≠ written after ++ Token.ending closed := by
  intro hwritten
  have hplain := Token.ofText_eq_plain_iff.mpr hfits
  obtain ⟨-, hseparator, -⟩ | ⟨p, others, rfl, hword, -⟩ := cases_of_written_ending hwritten
  · rw [hseparator] at hplain
    cases hplain
  · have hp : p.Valid level := hafter p List.mem_cons_self
    rw [← hword, ofText_word hlevel hp] at hplain
    exact shape_ne_plain p _ hplain

end Phrase

namespace App

variable {app : App} {command : Command Action} {f : Flag}

/-- A token that is closed gives no flag, so it is not understood as a spelling. -/
theorem not_understands_of_isClosed (h : app.registry.Reachable) (hf : f ∈ app.registry.flags.flags)
    (hvisible : f.VisibleIn (.command command.name)) {spelling : String}
    (hspelling : (Token.ofText (.ofString spelling)).IsClosed) :
    ¬app.Understands command f spelling := by
  have hlevel := h.distinct_commandLevel command.name
  have hmem := Registry.mem_commandLevel_of_visibleIn hf hvisible
  have hbefore : ∀ p ∈ ([] : List Phrase),
      p.Valid app.registry.rootLevel ∧ app.registry.Undeclared p.word :=
    fun p hp => absurd hp List.not_mem_nil
  intro hunderstands
  unfold Understands at hunderstands
  cases hkind : f.kind with
  | switch =>
    rw [hkind] at hunderstands
    obtain ⟨inv, hrun, -, hon, -⟩ := hunderstands []
    obtain ⟨after, closed, hwritten, hw, honce, rfl⟩ := hrun.exists_after h hbefore rfl
    obtain ⟨others, ended, hrest, -, hturns⟩ :=
      Phrase.exists_rest_of_isClosed hlevel hw.after hwritten hspelling
    obtain rfl := Phrase.eq_nil_of_written_ending hrest
    have hholds := hw.invocation_holds h honce command hmem
    obtain ⟨hswitch, -⟩ := hholds.switch_eq_of_switch (fun c hc => hw.suits hc) hkind
    rw [hswitch, hw.isSome_given?_iff hmem hkind] at hon
    rcases hon with hafter | hfront
    · exact absurd (hturns f hafter) List.not_mem_nil
    · exact absurd hfront List.not_mem_nil
  | value =>
    rw [hkind] at hunderstands
    obtain ⟨inv, hrun, -⟩ := hunderstands [] "value" (by decide)
    obtain ⟨after, closed, hwritten, hw, -⟩ := hrun.exists_after h hbefore rfl
    obtain ⟨others, ended, hrest, hothers, -⟩ :=
      Phrase.exists_rest_of_isClosed hlevel hw.after hwritten hspelling
    exact Phrase.ne_written_of_fits hlevel hothers (by decide) hrest

/-- With an equals sign in its name, a long spelling is split there, and so it is closed. -/
theorem isClosed_of_equals_mem {name : String} (h : '=' ∈ name.toList) :
    (Token.ofText (.ofString ("--" ++ name))).IsClosed := by
  obtain ⟨front, back, hsplit, hfirst⟩ := List.eq_append_cons_of_mem h
  have hname : OsText.ofString name
      = front.map .scalar ++ Token.equalsSign :: back.map .scalar := by
    rw [OsText.ofString, hsplit, List.map_append]
    rfl
  have hequals : Token.equalsSign ∉ front.map Glyph.scalar := by
    intro hmem
    obtain ⟨c, hc, heq⟩ := List.mem_map.mp hmem
    exact hfirst (Glyph.scalar.inj heq ▸ hc)
  rw [OsText.ofString_append, hname]
  exact .inr ⟨_, _, Token.ofText_long_equals hequals _⟩

section Shown

variable (h : app.registry.Reachable) (hcommand : command ∈ app.registry.commands.commands)
  (hf : f ∈ app.registry.flags.flags) (hvisible : f.VisibleIn (.command command.name))

include h hcommand hf hvisible

/-- A long spelling is understood exactly if there is no equals sign in it. -/
theorem understands_long_iff {name : String} (hname : name ∈ f.longNames) :
    app.Understands command f ("--" ++ name) ↔ '=' ∉ name.toList := by
  constructor
  · intro hunderstands hequals
    exact not_understands_of_isClosed h hf hvisible (isClosed_of_equals_mem hequals) hunderstands
  · exact understands_long h hcommand hf hvisible hname

/-- A letter is understood exactly if it is no hyphen. -/
theorem understands_short_iff {c : Char} (hshort : f.short = some c) :
    app.Understands command f ("-" ++ String.singleton c) ↔ c ≠ '-' := by
  constructor
  · rintro hunderstands rfl
    exact not_understands_of_isClosed h hf hvisible (.inl rfl) hunderstands
  · exact understands_short h hcommand hf hvisible hshort

/-- Whatever registrations lead to the registry: of the spellings that the help shows of a flag, its
commands understand the long ones without an equals sign and the letters that are no hyphen, and
they understand no other. -/
theorem understands_shown_spellings :
    f.synopsis = ", ".intercalate (f.spellings.map fun spelling => spelling ++ f.valueHint)
      ∧ (∀ name ∈ f.longNames,
        (app.Understands command f ("--" ++ name) ↔ '=' ∉ name.toList))
      ∧ ∀ c, f.short = some c →
        (app.Understands command f ("-" ++ String.singleton c) ↔ c ≠ '-') :=
  ⟨f.synopsis_eq, fun _ hname => understands_long_iff h hcommand hf hvisible hname,
    fun _ hshort => understands_short_iff h hcommand hf hvisible hshort⟩

end Shown

end App

namespace Sample

/-- An alias is understood with a value. -/
theorem version_understands_cfg : app.Understands version config "--cfg" := by
  have hcommand : version ∈ app.registry.commands.commands := List.mem_singleton_self _
  have hflag : config ∈ app.registry.flags.flags := by decide
  have hvisible : config.VisibleIn (.command version.name) := by decide
  obtain ⟨-, hlong, -⟩ :=
    App.understands_shown_spellings reachable_registry hcommand hflag hvisible
  exact (hlong "cfg" (by decide)).mpr (by decide)

/-- A switch with an equals sign in its name. -/
def assignment : Flag :=
  Flag.switch "a=b" "Enable assignment."

/-- The registry of a command and the switch. -/
def assignmentRegistry : Registry Action where
  commands := (∅ : CommandRegistry Action).extend version
  flags := ⟨[assignment]⟩

theorem reachable_assignmentRegistry : assignmentRegistry.Reachable := by
  have hcommand : (∅ : Registry Action).registerCommand version
      = .ok { assignmentRegistry with flags := ∅ } := by rfl
  have hflag : Registry.registerFlag { assignmentRegistry with flags := ∅ } assignment
      = .ok assignmentRegistry := by rfl
  exact .registerFlag assignment (.registerCommand version .empty hcommand) hflag

/-- So it is not so that each spelling that the help shows is understood. -/
theorem shown_spelling_not_always_understood :
    ¬∀ (app : App) (command : Command Action) (f : Flag), app.registry.Reachable →
      command ∈ app.registry.commands.commands → f ∈ app.registry.flags.flags →
        f.VisibleIn (.command command.name) →
          ∀ spelling ∈ f.spellings, app.Understands command f spelling := by
  intro hall
  have hcommand : version ∈ assignmentRegistry.commands.commands := List.mem_singleton_self _
  have hflag : assignment ∈ assignmentRegistry.flags.flags := List.mem_singleton_self _
  have hvisible : assignment.VisibleIn (.command version.name) := by decide
  have hunderstands := hall { app with registry := assignmentRegistry } version assignment
    reachable_assignmentRegistry hcommand hflag hvisible "--a=b" (by decide)
  have hequals : '=' ∈ "a=b".toList := by decide
  exact App.not_understands_of_isClosed reachable_assignmentRegistry hflag hvisible
    (App.isClosed_of_equals_mem hequals) hunderstands

end Sample

end CommandFront
