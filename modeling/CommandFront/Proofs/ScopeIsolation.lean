import CommandFront.Proofs.DeclaredLevels
import CommandFront.Proofs.InvocationView
import CommandFront.Proofs.RejectedToken

/-!
# Flags stay on the level of their command

A flag of one command is unexpected on every other level, whatever else the command line holds, and
it is not unexpected on the level of its command.

Which level a token belongs to depends on the tokens before it. Phrases of the root level lead to
the root level again, and the name of a command after them leads to the level of the command,
whatever follows. On each level a spelling is looked up among the flags of this level alone. The
flags of a command are on its own level only, so their spellings are unknown elsewhere, unless
another flag there has the same spelling.

A known spelling may still be refused, for a value that is missing or for a flag that comes twice.
These refusals are told in other words than that of an unexpected argument.

- `CommandLine.LeadsTo`: the next token is one of a level.
- `CommandLine.rejects_on_root`, `CommandLine.rejects_on_level`: a spelling that a level does not
  know is unexpected there.
- `CommandLine.not_rejects_of_known`: one that it knows is not.
- `App.Refused`: the arguments are refused, and nothing is done.
- `App.scoped_flag_is_isolated`: where a flag of a command is accepted.
-/

namespace CommandFront

/-! ## The token of a long spelling -/

theorem Token.ofText_toText_long {name : String} (hname : name ≠ "") (hequals : '=' ∉ name.toList)
    (value : Option OsText) :
    ofText (toText (.long (.ofString name) value)) = .long (.ofString name) value := by
  have hglyph : equalsSign ∉ OsText.ofString name := by
    intro hmem
    obtain ⟨c, hc, heq⟩ := List.mem_map.mp hmem
    exact hequals (Glyph.scalar.inj heq ▸ hc)
  cases value with
  | none =>
    have hne : OsText.ofString name ≠ [] := by
      rw [Ne, ← String.toList_inj] at hname
      exact fun hnil => hname (List.map_eq_nil_iff.mp hnil)
    exact ofText_long hne hglyph
  | some value => exact ofText_long_equals hglyph value

/-- A spelling that no flag of a level has is not found there. -/
theorem Level.long?_eq_none {level : Level} {name : String}
    (h : ∀ g ∈ level, name ∉ g.longNames) : level.long? name = none :=
  List.find?_eq_none.mpr fun g hg => by
    rw [decide_eq_true_eq]
    exact h g hg

namespace Scan

variable {level : Level} {s t : Scan} {token : OsText} {name : String} {value : Option OsText}

/-- And so it is unexpected. -/
theorem long_of_unknown (h : level.long? name = none) :
    s.long level (.ofString name) value = .error (.unexpected ("--" ++ name)) := by
  rw [long, OsText.toString?_ofString, Option.bind_some, h, OsText.lossy_ofString]

theorem read_eq_long (hs : s.trailing = false)
    (htoken : Token.ofText token = .long (.ofString name) value) :
    s.read level token = s.long level (.ofString name) value := by
  rw [read, step_of_long hs htoken]
  cases s.long level (.ofString name) value <;> rfl

/-- Without the separator, what belongs to a command stays open to flags. -/
theorem not_trailing_of_foldlM_read {tokens : List OsText}
    (hseparator : Token.separator.toText ∉ tokens)
    (h : tokens.foldlM (read level) { positional := none } = .ok t) : t.trailing = false := by
  obtain ⟨front, closed, u, rfl, -, -, rfl⟩ := walk_of_foldlM_read rfl rfl h
  cases closed with
  | false => rfl
  | true => exact absurd (List.mem_append_right front List.mem_cons_self) hseparator

end Scan

/-! ## The level of a token -/

/-- The scope of the level on which a search has ended. A foreign sub-command has none. -/
def Turn.scope? : Turn → Option FlagScope
  | .finished => some .everywhere
  | .declared name _ => some (.command name)
  | .foreign _ _ => none

namespace CommandLine

variable {α : Type} {r : Registry α} {front : List OsText} {command : String}

/-- After these tokens the next one is a token of the level of a scope, unless one of them is
refused. Phrases of the root level lead to that level, and the name of a command after them leads,
with any tokens that follow, to the level of the command. -/
def LeadsTo (r : Registry α) (front : List OsText) (scope : FlagScope) : Prop :=
  ∀ s turn, cut r ∅ front = .ok (s, turn) → turn.scope? = some scope

section Phrases

variable (hlevel : r.rootLevel.Distinct) {phrases : List Phrase}
  (hvalid : ∀ p ∈ phrases, p.Valid r.rootLevel ∧ r.Undeclared p.word)

include hlevel hvalid

/-- Flags that are given on the root level lead to no other level. -/
theorem leadsTo_written : LeadsTo r (Phrase.written phrases) .everywhere := by
  intro t turn h
  rw [← List.append_nil (Phrase.written phrases),
    (loops_cut r).phrases hlevel Scan.ready_empty hvalid] at h
  obtain ⟨s, -, hend⟩ := bind_eq_ok_iff.mp h
  cases hend
  rfl

/-- The name of a command after them leads to its level, and no token after it leads elsewhere. -/
theorem leadsTo_declared (hname : r.declares command = true) (own : List OsText) :
    LeadsTo r (Phrase.written phrases ++ .ofString command :: own) (.command command) := by
  intro t turn h
  rw [(loops_cut r).phrases hlevel Scan.ready_empty hvalid] at h
  obtain ⟨s, hscanned, hend⟩ := bind_eq_ok_iff.mp h
  have hready := Phrase.ready_of_foldlM_scanned Scan.ready_empty hscanned
  rw [cut, (declared?_eq_some_iff hready).mpr ⟨rfl, hname⟩] at hend
  cases hend
  rfl

end Phrases

/-- A token is refused among those of the root level, or the search has ended with the tokens. -/
theorem LeadsTo.cases_root (h : LeadsTo r front .everywhere) :
    (∃ e, cut r ∅ front = .error e) ∨ ∃ s, cut r ∅ front = .ok (s, .finished) := by
  cases hcut : cut r ∅ front with
  | error e => exact .inl ⟨e, rfl⟩
  | ok found =>
    obtain ⟨s, turn⟩ := found
    have hscope := h s turn hcut
    cases turn with
    | finished => exact .inr ⟨s, rfl⟩
    | declared name own => cases hscope
    | foreign token rest => cases hscope

/-- The tokens after the sub-command are some of all. -/
theorem mem_of_cut_declared {s t : Scan} {own : List OsText}
    (h : cut r s front = .ok (t, .declared command own)) {token : OsText} (hmem : token ∈ own) :
    token ∈ front := by
  induction front generalizing s with
  | nil => cases h
  | cons first others ih =>
    rw [cut] at h
    split at h
    case h_1 =>
      cases h
      exact List.mem_cons_of_mem first hmem
    case h_2 =>
      obtain ⟨result, hstep, hresult⟩ := bind_eq_ok_iff.mp h
      cases result with
      | none => cases hresult
      | some next => exact List.mem_cons_of_mem first (ih hresult)

/-- A token is refused among those of the root level, or the search has ended at the command. -/
theorem LeadsTo.cases_command (h : LeadsTo r front (.command command)) :
    (∃ e, cut r ∅ front = .error e)
      ∨ ∃ s own, cut r ∅ front = .ok (s, .declared command own) ∧ ∀ token ∈ own, token ∈ front := by
  cases hcut : cut r ∅ front with
  | error e => exact .inl ⟨e, rfl⟩
  | ok found =>
    obtain ⟨s, turn⟩ := found
    have hscope := h s turn hcut
    cases turn with
    | finished => cases hscope
    | declared name own =>
      cases hscope
      exact .inr ⟨s, own, rfl, fun token => mem_of_cut_declared hcut⟩
    | foreign token rest => cases hscope

/-- Without the separator, the root level stays open to flags. -/
theorem not_trailing_of_cut {s t : Scan} {turn : Turn} (hs : s.trailing = false)
    (hseparator : Token.separator.toText ∉ front) (h : cut r s front = .ok (t, turn)) :
    t.trailing = false := by
  induction front generalizing s with
  | nil =>
    cases h
    exact hs
  | cons token others ih =>
    obtain ⟨hne, hothers⟩ := List.ne_and_not_mem_of_not_mem_cons hseparator
    rw [cut] at h
    split at h
    case h_1 =>
      cases h
      exact hs
    case h_2 =>
      obtain ⟨result, hstep, hresult⟩ := bind_eq_ok_iff.mp h
      cases result with
      | none =>
        cases hresult
        exact hs
      | some next =>
        have hmode := Scan.sameMode_of_step hs hne.symm hstep
        exact ih (hmode.1.trans hs) hothers hresult

/-- A token that names no sub-command is none, whether a flag awaits its value or not. -/
theorem declared?_eq_none {s : Scan} {token : OsText} (hs : s.trailing = false)
    (h : r.Undeclared token) : declared? r s token = none := by
  cases hawaiting : s.isAwaiting with
  | true => exact declared?_of_awaiting hawaiting
  | false => exact declared?_of_undeclared ⟨hs, hawaiting⟩ h

theorem scanBelow_eq_error {tokens : List OsText} {e : ArgumentError}
    (hcommand : r.commands.contains command = true)
    (h : tokens.foldlM (Scan.read (r.commandLevel command)) { positional := none } = .error e) :
    r.scanBelow command tokens = .error e := by
  rw [Registry.scanBelow, if_pos hcommand, Level.scan, h]
  rfl

/-- What is unexpected below a registered command is so before its last value is checked. -/
theorem foldlM_of_scanBelow_unexpected {tokens : List OsText} {shown : String}
    (hcommand : r.commands.contains command = true)
    (h : r.scanBelow command tokens = .error (.unexpected shown)) :
    tokens.foldlM (Scan.read (r.commandLevel command)) { positional := none }
      = .error (.unexpected shown) := by
  rw [Registry.scanBelow, if_pos hcommand] at h
  rcases bind_eq_error_iff.mp h with hscan | ⟨t, -, ⟨⟩⟩
  rcases bind_eq_error_iff.mp hscan with hfold | ⟨t, -, hsettle⟩
  · exact hfold
  · exact absurd hsettle (Scan.settle_expected t shown)

/-! ## A spelling on a level -/

/-- The tokens are refused, for the same reason whatever comes after them. -/
def Refuses (r : Registry α) (front : List OsText) : Prop :=
  ∃ cause, ∀ after, parse r (front ++ after) = .error cause

section Spelling

variable {token : OsText} {name : String} {value : Option OsText}
  (hseparator : Token.separator.toText ∉ front)
  (htoken : Token.ofText token = .long (.ofString name) value)

include hseparator htoken

/-- A spelling that the root level does not know is unexpected there. -/
theorem rejects_on_root (hfront : LeadsTo r front .everywhere) (hundeclared : r.Undeclared token)
    (hunknown : r.rootLevel.long? name = none) :
    Refuses r front ∨ Rejects r front token ("--" ++ name) := by
  rcases hfront.cases_root with ⟨e, hcut⟩ | ⟨s, hcut⟩
  · exact .inl ⟨e, parse_append_of_cut_eq_error hcut⟩
  right
  have hs : s.trailing = false := not_trailing_of_cut rfl hseparator hcut
  refine ⟨fun shown h => ?_, fun after => ?_⟩
  · rcases cases_of_parse_unexpected h with hcut' | ⟨_, _, _, hcut', -⟩
    · cases hcut.symm.trans hcut'
    · cases hcut.symm.trans hcut'
  · rw [parse, cut_resume, hcut]
    show (cut r s (token :: after) >>= _) = _
    rw [cut, declared?_eq_none hs hundeclared]
    show ((s.step r.rootLevel token >>= _) >>= _) = _
    rw [Scan.step_of_long hs htoken, Scan.long_of_unknown hunknown]
    rfl

section Command

variable (hfront : LeadsTo r front (.command command))
  (hcommand : r.commands.contains command = true)

include hfront hcommand

/-- A spelling that the level of a command does not know is unexpected there. -/
theorem rejects_on_level (hunknown : (r.commandLevel command).long? name = none) :
    Refuses r front ∨ Rejects r front token ("--" ++ name) := by
  rcases hfront.cases_command with ⟨e, hcut⟩ | ⟨s, own, hcut, hown⟩
  · exact .inl ⟨e, parse_append_of_cut_eq_error hcut⟩
  have hresumed := cut_append_of_declared hcut
  cases hfold : own.foldlM (Scan.read (r.commandLevel command)) { positional := none } with
  | error e =>
    refine .inl ⟨e, fun after => parse_of_scanBelow_eq_error (hresumed after) ?_⟩
    refine scanBelow_eq_error hcommand ?_
    rw [List.foldlM_append, hfold]
    rfl
  | ok t =>
    right
    have ht := Scan.not_trailing_of_foldlM_read (fun hmem => hseparator (hown _ hmem)) hfold
    refine ⟨fun shown h => ?_, fun after => ?_⟩
    · rcases cases_of_parse_unexpected h with hcut' | ⟨_, _, _, hcut', hbelow⟩
      · cases hcut.symm.trans hcut'
      · cases hcut.symm.trans hcut'
        cases hfold.symm.trans (foldlM_of_scanBelow_unexpected hcommand hbelow)
    · refine parse_of_scanBelow_eq_error (hresumed _) (scanBelow_eq_error hcommand ?_)
      rw [List.foldlM_append, hfold]
      show (t.read (r.commandLevel command) token >>= _) = _
      rw [Scan.read_eq_long ht htoken, Scan.long_of_unknown hunknown]
      rfl

/-- A spelling that the level of a command knows is not unexpected there. -/
theorem not_rejects_of_known {f : Flag} (hknown : (r.commandLevel command).long? name = some f)
    (shown : String) : ¬Rejects r front token shown := by
  rintro ⟨hbefore, hafter⟩
  rcases hfront.cases_command with ⟨e, hcut⟩ | ⟨s, own, hcut, hown⟩
  · -- what is refused before the token is refused without it
    have hrefused := parse_append_of_cut_eq_error hcut
    have hcause := Except.error.inj ((hrefused [token]).symm.trans (hafter []))
    refine hbefore shown ?_
    rw [← hcause, ← List.append_nil front]
    exact hrefused []
  have hresumed := cut_append_of_declared hcut [token]
  rcases cases_of_parse_unexpected (hafter []) with hcut' | ⟨_, _, _, hcut', hbelow⟩
  · cases hresumed.symm.trans hcut'
  · cases hresumed.symm.trans hcut'
    have hfold := foldlM_of_scanBelow_unexpected hcommand hbelow
    rw [List.foldlM_append] at hfold
    rcases bind_eq_error_iff.mp hfold with hfold | ⟨t, hfold, hread⟩
    · have hsame := parse_of_scanBelow_eq_error hcut (scanBelow_eq_error hcommand hfold)
      exact hbefore shown hsame
    · have ht := Scan.not_trailing_of_foldlM_read (fun hmem => hseparator (hown _ hmem)) hfold
      have hfound : (OsText.ofString name).toString?.bind (r.commandLevel command).long?
          = some f := by
        rw [OsText.toString?_ofString]
        exact hknown
      rcases bind_eq_error_iff.mp hread with hread | ⟨u, -, ⟨⟩⟩
      rw [Scan.read_eq_long ht htoken] at hread
      exact Scan.long_expected hfound t value shown hread

end Command

end Spelling

/-- Where a command line leads to the level of a command, it selects that command. -/
theorem LeadsTo.exists_selected (h : LeadsTo r front (.command command)) {more : List OsText}
    {line : CommandLine} (hline : parse r (front ++ more) = .ok line) :
    ∃ own, line.selected = some (command, own) := by
  rcases h.cases_command with ⟨e, hcut⟩ | ⟨s, own, hcut, -⟩
  · cases hline.symm.trans (parse_append_of_cut_eq_error hcut more)
  have hresumed := cut_append_of_declared hcut more
  obtain ⟨found, hfound, hrest⟩ := bind_eq_ok_iff.mp hline
  cases hresumed.symm.trans hfound
  obtain ⟨selected, hselect, hlast⟩ := bind_eq_ok_iff.mp hrest
  obtain ⟨below, -, hselected⟩ := bind_eq_ok_iff.mp hselect
  obtain ⟨settled, -, hlevels⟩ := bind_eq_ok_iff.mp hlast
  cases hselected
  cases hlevels
  exact ⟨_, rfl⟩

end CommandLine

/-! ## Flags of a command -/

namespace Registry.Reachable

variable {α : Type} {r : Registry α} (h : r.Reachable) {f : Flag} (hf : f ∈ r.flags.flags)
  {name : String} (hname : name ∈ f.longNames)

include h hf hname

/-- No registered flag is spelled like the help flag. -/
theorem name_not_mem_help : name ∉ Flag.help.longNames := by
  intro hhelp
  obtain rfl : name = "help" := List.mem_singleton.mp hhelp
  exact h.separate.unreserved f hf (.inl hname)

/-- The root level does not know the spellings of a flag of one command. -/
theorem long?_rootLevel_eq_none {owner : String} (hscope : f.scope = .command owner) :
    r.rootLevel.long? name = none := by
  refine Level.long?_eq_none fun g hg hmem => ?_
  rcases mem_rootLevel_iff.mp hg with rfl | ⟨hgmem, hglobal⟩
  · exact h.name_not_mem_help hf hname hmem
  · have hne : f ≠ g := by
      rintro rfl
      exact FlagScope.noConfusion (hscope.symm.trans hglobal)
    have hapart := h.separate.not_shares hf hgmem hne (.inr (.inl hglobal))
    exact hapart (.inr ⟨name, hname, hmem⟩)

/-- Nor does the level of a command none of whose flags has the spelling. -/
theorem long?_commandLevel_eq_none {command : String}
    (hnone : ∀ g ∈ r.flags.flags, g.VisibleIn (.command command) → name ∉ g.longNames) :
    (r.commandLevel command).long? name = none := by
  refine Level.long?_eq_none fun g hg => ?_
  rcases mem_commandLevel_iff.mp hg with rfl | ⟨hgmem, hvisible⟩
  · exact h.name_not_mem_help hf hname
  · exact hnone g hgmem hvisible

end Registry.Reachable

/-- A long spelling that is no name of a registered command names no sub-command. -/
theorem Registry.Reachable.undeclared_long {α : Type} {r : Registry α} (h : r.Reachable)
    {name : OsText} {value : Option OsText}
    (hforeign : ∀ command ∈ r.commands.names, Token.toText (.long name value) ≠ .ofString command) :
    r.Undeclared (Token.toText (.long name value)) := by
  intro found hfound
  have hnone : found ∉ r.commands.names := fun hmem => hforeign found hmem hfound
  have hhelp : found ≠ helpCommand := by
    rintro rfl
    cases value <;> exact absurd (List.cons.inj hfound).1 (by decide)
  exact h.declares_eq_false hnone hhelp

/-! ## The run -/

namespace App

variable {app : App} {args : List OsText}

/-- The arguments are refused, and nothing is done: no action runs, nothing is written, and no
snapshot is taken. -/
structure Refused (app : App) (args : List OsText) : Prop where
  fails : ∃ cause, app.run args = Journal.fail (.arguments cause)
  status : ∀ sink, (exitStatus ((app.run args).deliver sink).result).1 = 2
  silent : ∀ sink, ((app.run args).deliver sink).written = []
    ∧ ((app.run args).deliver sink).snapshots = 0
  idle : ∀ command inv, ¬app.Dispatches args command inv

theorem refused_of_parse_eq_error {e : ArgumentError}
    (h : CommandLine.parse app.registry (args.drop 1) = .error e) : app.Refused args := by
  have hrun := run_of_parse_eq_error h
  refine ⟨⟨e, hrun⟩, fun sink => ?_, fun sink => ?_, ?_⟩
  · rw [hrun]
    rfl
  · rw [hrun]
    exact ⟨rfl, rfl⟩
  · rintro command inv ⟨line, _, _, hline, -⟩
    cases h.symm.trans hline

/-- A command line that selects a registered command asks for its help or runs it. -/
theorem request_of_selected {line : CommandLine} {own : Matches} {command : Command Action}
    (hselected : line.selected = some (command.name, own))
    (hcommand : app.registry.commands.contains command.name = true)
    (hget : app.registry.commands.get? command.name = some command) :
    app.request line = .describe command ∨ app.request line = .invoke command line.root own := by
  have hbuiltin : ¬(command.name = helpCommand ∧ app.registry.hasHelpCommand = true) := by
    rintro ⟨hhelp, hfree⟩
    rw [Registry.hasHelpCommand, ← hhelp, hcommand] at hfree
    cases hfree
  simp only [request, hselected, if_neg hbuiltin, hget]
  split
  · exact .inl rfl
  · exact .inr rfl

/-- On the level of a registered command, a run that is refused for its arguments is refused when
they are read. -/
theorem parse_of_run_eq_arguments {front more : List OsText} {command : Command Action}
    (hfront : CommandLine.LeadsTo app.registry front (.command command.name))
    (hcommand : app.registry.commands.contains command.name = true)
    (hget : app.registry.commands.get? command.name = some command) {program : OsText}
    {e : ArgumentError} (h : app.run (program :: (front ++ more)) = Journal.fail (.arguments e)) :
    CommandLine.parse app.registry (front ++ more) = .error e := by
  cases hparse : CommandLine.parse app.registry (front ++ more) with
  | error cause =>
    have hrun : app.run (program :: (front ++ more)) = _ := run_of_parse_eq_error hparse
    have hresult := congrArg Journal.result (hrun.symm.trans h)
    cases hresult
    rfl
  | ok line =>
    have hrun : app.run (program :: (front ++ more)) = _ := run_of_parse_eq_ok hparse
    have hresult := congrArg Journal.result (hrun.symm.trans h)
    obtain ⟨own, hselected⟩ := hfront.exists_selected hparse
    -- neither help nor an action fails for the arguments
    rcases request_of_selected hselected hcommand hget with hrequest | hrequest
    · rw [hrequest] at hresult
      cases hresult
    · have hended : (app.serve (.invoke command line.root own)).result
          = (command.action (app.invocation command line.root own)).result.mapError .action :=
        Journal.result_mapError RunError.action _
      rw [hrequest, hended] at hresult
      cases haction : (command.action (app.invocation command line.root own)).result with
      | ok _ =>
        rw [haction] at hresult
        cases hresult
      | error chain =>
        rw [haction] at hresult
        cases hresult

/-- A long spelling of a flag of one command, with a value or without one, comes at some place
before any separator, and is no name of a command. On the root level, and on the level of a command
that knows no such spelling, the run is refused and does nothing, whatever comes after it; unless
what stands before is refused, it is this token that is unexpected. On the level of its own command
it is never the token that is unexpected: if a run is refused for an unexpected argument, that is
another token. -/
theorem scoped_flag_is_isolated (h : app.registry.Reachable) {f : Flag}
    (hf : f ∈ app.registry.flags.flags) {owner : String} (hscope : f.scope = .command owner)
    {name : String} (hname : name ∈ f.longNames) (hequals : '=' ∉ name.toList)
    (value : Option OsText)
    (hforeign : ∀ command ∈ app.registry.commands.names,
      Token.toText (.long (.ofString name) value) ≠ .ofString command)
    (program : OsText) {front : List OsText} (hseparator : Token.separator.toText ∉ front)
    (rest : List OsText) :
    let token := Token.toText (.long (.ofString name) value)
    let args := program :: (front ++ token :: rest)
    (CommandLine.LeadsTo app.registry front .everywhere →
        app.Refused args
          ∧ (CommandLine.Refuses app.registry front
            ∨ CommandLine.Rejects app.registry front token ("--" ++ name)))
      ∧ (∀ command ∈ app.registry.commands.names,
        CommandLine.LeadsTo app.registry front (.command command) →
        (∀ g ∈ app.registry.flags.flags, g.VisibleIn (.command command) → name ∉ g.longNames) →
          app.Refused args
            ∧ (CommandLine.Refuses app.registry front
              ∨ CommandLine.Rejects app.registry front token ("--" ++ name)))
      ∧ (CommandLine.LeadsTo app.registry front (.command owner) →
        (∀ shown, ¬CommandLine.Rejects app.registry front token shown)
          ∧ ∀ shown, app.run args = Journal.fail (.arguments (.unexpected shown)) →
            ∃ before other after, front ++ token :: rest = before ++ other :: after
              ∧ before.length ≠ front.length
              ∧ CommandLine.Rejects app.registry before other shown) := by
  intro token args
  have htoken : Token.ofText token = .long (.ofString name) value :=
    Token.ofText_toText_long (h.named (.inr hf) hname) hequals value
  have hrefused : CommandLine.Refuses app.registry front
        ∨ CommandLine.Rejects app.registry front token ("--" ++ name) → app.Refused args := by
    rintro (⟨cause, hcause⟩ | ⟨-, hrejected⟩)
    · exact refused_of_parse_eq_error (hcause (token :: rest))
    · exact refused_of_parse_eq_error (hrejected rest)
  refine ⟨fun hfront => ?_, fun command hcommand hfront hnone => ?_, fun hfront => ?_⟩
  · have hundeclared := h.undeclared_long hforeign
    have hunknown := h.long?_rootLevel_eq_none hf hname hscope
    have hcause := CommandLine.rejects_on_root hseparator htoken hfront hundeclared hunknown
    exact ⟨hrefused hcause, hcause⟩
  · have hregistered := h.consistent.contains_iff.mpr hcommand
    have hunknown := h.long?_commandLevel_eq_none hf hname hnone
    have hcause := CommandLine.rejects_on_level hseparator htoken hfront hregistered hunknown
    exact ⟨hrefused hcause, hcause⟩
  · have howner := h.hasCommand f hf owner hscope
    have hregistered := h.consistent.contains_iff.mpr howner
    have hknown := (h.distinct_commandLevel owner).long?_eq_some_iff.mpr
      ⟨Registry.mem_commandLevel_of_visibleIn hf (.inr hscope), hname⟩
    have hnever := CommandLine.not_rejects_of_known hseparator htoken hfront hregistered hknown
    refine ⟨hnever, fun shown hrun => ?_⟩
    obtain ⟨command, hcommand, rfl⟩ := List.mem_map.mp howner
    have hget := h.consistent.get?_eq_some_iff.mpr ⟨hcommand, rfl⟩
    have hparse := parse_of_run_eq_arguments hfront hregistered hget hrun
    obtain ⟨before, other, after, htokens, hrejected⟩ := CommandLine.exists_rejects hparse
    refine ⟨before, other, after, htokens, fun hlength => ?_, hrejected⟩
    -- at its own place there is the token itself
    obtain ⟨rfl, hother⟩ := List.append_inj htokens hlength.symm
    rw [← (List.cons.inj hother).1] at hrejected
    exact hnever shown hrejected

end App

namespace Sample

/-- A command without flags of its own. -/
def report : Command Action :=
  { version with name := "report" }

/-- The registry with one command more. -/
def widerRegistry : Registry Action :=
  { registry with commands := registry.commands.extend report }

theorem reachable_widerRegistry : widerRegistry.Reachable := by
  have hreport : registry.registerCommand report = .ok widerRegistry := by rfl
  exact .registerCommand report reachable_registry hreport

/-- The application with one command more. -/
def widerApp : App :=
  { app with registry := widerRegistry }

/-- The switch of one command is refused on the root level and after the other command, and after
its own command a run is refused for what comes after it. -/
theorem json_stays_with_version :
    widerApp.Refused (["strata", "--cfg=b.toml", "--json", "version"].map .ofString)
      ∧ widerApp.Refused (["strata", "report", "--json=x", "--"].map .ofString)
      ∧ widerApp.run (["strata", "version", "--json", "--none"].map .ofString)
        = Journal.fail (.arguments (.unexpected "--none"))
      ∧ ∃ before other after, ["version", "--json", "--none"].map OsText.ofString
          = before ++ other :: after ∧ before.length ≠ 1
        ∧ CommandLine.Rejects widerRegistry before other "--none" := by
  have hlevel := reachable_widerRegistry.distinct_rootLevel
  have hmem : json ∈ widerApp.registry.flags.flags := by decide
  have hname : "json" ∈ json.longNames := by decide
  have hequals : '=' ∉ "json".toList := by decide
  have hswitch : ∀ command ∈ widerApp.registry.commands.names,
      Token.toText (.long (.ofString "json") none) ≠ .ofString command := by decide
  have hvalue : ∀ command ∈ widerApp.registry.commands.names,
      Token.toText (.long (.ofString "json") (some (.ofString "x"))) ≠ .ofString command := by
    decide
  have hclosed : ∀ text ∈ ["--cfg=b.toml", "report", "version"],
      Token.separator.toText ∉ [OsText.ofString text] := by decide
  have hphrase : ∀ p ∈ [Phrase.longValue config "cfg" .equals "b.toml"],
      p.Valid widerRegistry.rootLevel ∧ widerRegistry.Undeclared p.word := by decide
  have hroot : CommandLine.LeadsTo widerRegistry [.ofString "--cfg=b.toml"] .everywhere :=
    CommandLine.leadsTo_written hlevel hphrase
  have hcommand : ∀ name, widerRegistry.declares name = true →
      CommandLine.LeadsTo widerRegistry [.ofString name] (.command name) :=
    fun name hdeclares => CommandLine.leadsTo_declared hlevel (List.forall_mem_nil _) hdeclares []
  obtain ⟨honRoot, -⟩ := App.scoped_flag_is_isolated reachable_widerRegistry hmem rfl hname hequals
    none hswitch (.ofString "strata") (hclosed "--cfg=b.toml" (by decide)) [.ofString "version"]
  obtain ⟨-, honReport, -⟩ := App.scoped_flag_is_isolated reachable_widerRegistry hmem rfl hname
    hequals (some (.ofString "x")) hvalue (.ofString "strata") (hclosed "report" (by decide))
    [.ofString "--"]
  obtain ⟨-, -, honVersion⟩ := App.scoped_flag_is_isolated reachable_widerRegistry hmem rfl hname
    hequals none hswitch (.ofString "strata") (hclosed "version" (by decide)) [.ofString "--none"]
  have hrun : widerApp.run (["strata", "version", "--json", "--none"].map .ofString)
      = Journal.fail (.arguments (.unexpected "--none")) := by rfl
  refine ⟨(honRoot hroot).1, (honReport "report" (by decide) (hcommand "report" (by decide))
    (by decide)).1, hrun, ?_⟩
  exact (honVersion (hcommand "version" (by decide))).2 "--none" hrun

end Sample

end CommandFront
