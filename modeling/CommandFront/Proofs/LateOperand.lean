import CommandFront.Proofs.Escape

/-!
# Operands at the end of a command line

Commands take no operands. One that is added to a command line that runs a command is refused where
the command was parsed. Where the command was named after the separator, nothing is parsed below
it, and the operand is ignored.

The two routes to a command differ here. A declared sub-command is parsed with the flags of its
level, which has no positional, so a token that is neither a flag nor a value ends the parsing. A
name after the separator is taken for a foreign sub-command, and such a one takes whatever follows;
its name is looked up later, and a command that is found is run without them.

- `Level.scan_concat_operand`: a level without a positional refuses an operand.
- `CommandLine.parse_declared_eq_error`: and with it the whole command line.
- `App.Dispatches.refuses_operand`, `App.Dispatches.ignores_operand`: the two cases.
- `App.operand_after_command`: what becomes of an operand, in either case.
-/

namespace CommandFront

/-- A token that does not begin like a flag is a plain one. -/
theorem Token.ofText_of_head? {text : String} (h : text.toList.head? ≠ some '-') :
    ofText (.ofString text) = .plain (.ofString text) :=
  ofText_eq_plain_iff.mpr (.inr h)

/-- After tokens that a level without a positional accepts, it refuses an operand. -/
theorem Level.scan_concat_operand {level : Level} {tokens : List OsText} {s : Scan}
    (h : level.scan none tokens = .ok s) {text : String} (htext : text.toList.head? ≠ some '-') :
    level.scan none (tokens ++ [OsText.ofString text]) = .error (.unexpected text) := by
  obtain ⟨t, hfold, hsettle⟩ := bind_eq_ok_iff.mp h
  obtain ⟨front, closed, u, -, hfront, hwalk, rfl⟩ := Scan.walk_of_foldlM_read rfl rfl hfold
  have hmode := hwalk.sameMode rfl hfront
  have hpositional : u.positional = none := hmode.2
  -- the operand is left to the level, after the separator as well as before it
  have hstep : Scan.step level { u with trailing := closed } (.ofString text) = .ok none := by
    cases closed with
    | true => exact Scan.step_of_trailing rfl
    | false =>
      have hfree := Scan.not_awaiting_of_settle hsettle
      exact Scan.step_of_plain ⟨rfl, hfree⟩ (Token.ofText_of_head? htext)
  have hread : Scan.read level { u with trailing := closed } (.ofString text)
      = .error (.unexpected text) := by
    rw [Scan.read_of_step_eq_none hstep]
    simp only [Scan.take, hpositional, OsText.lossy_ofString]
  have hmore : (tokens ++ [OsText.ofString text]).foldlM (Scan.read level) { positional := none }
      = .error (.unexpected text) := by
    rw [List.foldlM_append]
    refine (congrArg (· >>= _) hfold).trans ?_
    show (Scan.read level _ (.ofString text) >>= _) = _
    rw [hread]
    rfl
  show ((tokens ++ [OsText.ofString text]).foldlM (Scan.read level) { positional := none } >>= _)
    = _
  rw [hmore]
  rfl

namespace CommandLine

variable {α : Type} {r : Registry α}

/-- A fault after the sub-command is the fault of the command line. -/
theorem parse_declared_eq_error (hlevel : r.rootLevel.Distinct) {before : List Phrase}
    (hbefore : ∀ p ∈ before, p.Valid r.rootLevel ∧ r.Undeclared p.word) {root : Scan}
    (hnote : (∅ : Scan).noteAll (Phrase.occurrences before) = .ok root) {name : String}
    (hname : r.declares name = true) {rest : List OsText} {e : ArgumentError}
    (hbelow : r.scanBelow name rest = .error e) :
    parse r (Phrase.written before ++ .ofString name :: rest) = .error e := by
  have hsettled := Phrase.foldlM_scanned_settle ∅ before
  obtain ⟨t, hfold, -⟩ := bind_eq_ok_iff.mp (hsettled.trans hnote)
  have hready := Phrase.ready_of_foldlM_scanned Scan.ready_empty hfold
  have hcut : cut r ∅ (Phrase.written before ++ .ofString name :: rest)
      = .ok (t, .declared name rest) := by
    rw [(loops_cut r).phrases hlevel Scan.ready_empty hbefore, hfold]
    show cut r t (.ofString name :: rest) = _
    rw [cut, (declared?_eq_some_iff hready).mpr ⟨rfl, hname⟩]
  rw [parse, hcut]
  show (select r (.declared name rest) >>= _) = _
  rw [select, hbelow]
  rfl

end CommandLine

namespace Escape

variable {α : Type} {r : Registry α} {e : Escape}

/-- One operand more. -/
def concat (e : Escape) (text : String) : Escape :=
  { e with operands := e.operands ++ [text] }

theorem Valid.concat (h : e.Valid r) (text : String) : (e.concat text).Valid r :=
  ⟨h.before, h.separator⟩

theorem tokens_concat (e : Escape) (text : String) :
    (e.concat text).tokens = e.tokens ++ [OsText.ofString text] := by
  simp [Escape.concat, tokens]

/-- Under the names that a flag may have, an operand changes nothing. -/
theorem concat_of_ne (e : Escape) (text : String) {name : String} (h : name ≠ "") :
    (e.concat text).root r name = e.root r name ∧ (e.concat text).own r name = e.own r name := by
  rw [root_of_ne h, root_of_ne h, own_of_ne h, own_of_ne h]
  exact ⟨rfl, rfl⟩

end Escape

/-! ## An operand after a command -/

namespace App

variable {app : App} {args : List OsText} {command : Command Action} {inv : Invocation} {x : String}

/-- A command line that runs a command is not empty, so a token at its end is an argument. -/
theorem Dispatches.drop_concat (hrun : app.Dispatches args command inv)
    (h : app.registry.Reachable) (token : OsText) :
    (args ++ [token]).drop 1 = args.drop 1 ++ [token] := by
  obtain ⟨root, own, hparse, -⟩ := hrun.parse_eq h
  cases args with
  | nil => cases hparse
  | cons first rest => rfl

theorem Dispatches.refuses_operand (hrun : app.Dispatches args command inv)
    (h : app.registry.Reachable) (hx : x.toList.head? ≠ some '-')
    (hnot : ¬app.registry.Escapes (args.drop 1)) :
    app.run (args ++ [OsText.ofString x]) = Journal.fail (.arguments (.unexpected x)) := by
  obtain ⟨root, own, hparse, hregistered⟩ := hrun.parse_eq h
  have hdeclares := Registry.declares_of_contains hregistered
  obtain ⟨before, hbefore, ⟨rest, htokens⟩ | ⟨hseparator, operands, htokens⟩⟩ :=
    CommandLine.exists_before hparse rfl hdeclares
  · have hargs := hrun.drop_concat h (OsText.ofString x)
    rw [htokens] at hparse hargs
    obtain ⟨_, below, hnote, hbelow, -⟩ :=
      (CommandLine.parse_declared_eq_ok_iff h.distinct_rootLevel hbefore hdeclares).mp hparse
    rw [Registry.scanBelow, if_pos hregistered] at hbelow
    obtain ⟨last, hscan, -⟩ := bind_eq_ok_iff.mp hbelow
    have hmore : app.registry.scanBelow command.name (rest ++ [OsText.ofString x])
        = .error (.unexpected x) := by
      rw [Registry.scanBelow, if_pos hregistered, Level.scan_concat_operand hscan hx]
      rfl
    have hrefused := CommandLine.parse_declared_eq_error h.distinct_rootLevel hbefore hnote
      hdeclares hmore
    rw [List.append_assoc, List.cons_append] at hargs
    exact run_of_parse_eq_error (hargs ▸ hrefused)
  · exact absurd ⟨⟨before, command.name, operands⟩, ⟨hbefore, hseparator⟩, htokens.symm⟩ hnot

theorem Dispatches.ignores_operand (hrun : app.Dispatches args command inv)
    (h : app.registry.Reachable) (x : String) (hescapes : app.registry.Escapes (args.drop 1)) :
    ∃ root own : Matches,
      (∀ name, name ≠ "" → root name = inv.root name ∧ own name = inv.own name)
        ∧ app.Dispatches (args ++ [OsText.ofString x]) command
          { inv with root := root, own := own } := by
  obtain ⟨_, _, hparse, hregistered⟩ := hrun.parse_eq h
  obtain ⟨e, he, htokens⟩ := hescapes
  have hname : e.command = command.name := by
    rw [← htokens] at hparse
    obtain ⟨-, hline⟩ := (he.parse_eq_ok_iff h.distinct_rootLevel).mp hparse
    have hselected := congrArg CommandLine.selected hline
    exact (congrArg Prod.fst (Option.some.inj hselected)).symm
  rw [← hname] at hregistered
  obtain ⟨honce, hget, rfl, hoff⟩ := (dispatches_escape_iff he h hregistered htokens).mp hrun
  have htokens' : (e.concat x).tokens = (args ++ [OsText.ofString x]).drop 1 := by
    rw [hrun.drop_concat h, ← htokens, Escape.tokens_concat]
  have hsame : ∀ name, name ≠ "" → (e.concat x).root app.registry name = e.root app.registry name
      ∧ (e.concat x).own app.registry name = e.own app.registry name :=
    fun name hne => e.concat_of_ne x hne
  have hoff' : (app.invocation command ((e.concat x).root app.registry)
      ((e.concat x).own app.registry)).switch Flag.help.name = false := by
    obtain ⟨hroot, hown⟩ := hsame Flag.help.name (by decide)
    rw [← hoff]
    simp only [Invocation.switch, Matches.switch, invocation, hroot, hown]
  exact ⟨_, _, hsame, (dispatches_escape_iff (he.concat x) h hregistered htokens').mpr
    ⟨honce, hget, rfl, hoff'⟩⟩

end App

/-- Commands take no operands, and an operand `x` that comes last shows what becomes of one. Where
the command line names its command before any separator, it is refused with `x`, and nothing is run.
Where it names its command after the separator, the action is run again, and it sees under every
name that a flag may have what it saw without `x`. -/
theorem App.operand_after_command {app : App} (h : app.registry.Reachable) {args : List OsText}
    {command : Command Action} {inv : Invocation} (hrun : app.Dispatches args command inv)
    {x : String} (hx : x.toList.head? ≠ some '-') :
    (¬app.registry.Escapes (args.drop 1) →
        app.run (args ++ [OsText.ofString x]) = Journal.fail (.arguments (.unexpected x)))
      ∧ (app.registry.Escapes (args.drop 1) →
        ∃ root own : Matches,
          (∀ name, name ≠ "" → root name = inv.root name ∧ own name = inv.own name)
            ∧ app.run (args ++ [OsText.ofString x]) = (do
              Journal.log (App.dispatchRecord command)
              (command.action { inv with root := root, own := own }).mapError .action)) := by
  constructor
  · exact hrun.refuses_operand h hx
  · intro hescapes
    obtain ⟨root, own, hsame, hagain⟩ := hrun.ignores_operand h x hescapes
    exact ⟨root, own, hsame, hagain.run_eq⟩

namespace Sample

/-- A command line that names its command after the separator. -/
def escapedArgs : List OsText :=
  ["strata", "--", "version"].map OsText.ofString

theorem escapes_escapedArgs : registry.Escapes (escapedArgs.drop 1) :=
  ⟨⟨[], "version", []⟩, by decide, by decide⟩

/-- One operand more is refused after a command, and ignored after one behind the separator. -/
theorem operand_after_version :
    app.run (args ++ [OsText.ofString "extra"])
        = Journal.fail (.arguments (.unexpected "extra"))
      ∧ (app.run (escapedArgs ++ [OsText.ofString "extra"])).result = .ok () := by
  have hparsed : ∃ inv, app.Dispatches args version inv := ⟨_, _, _, _, rfl, rfl, rfl⟩
  have hescaped : ∃ inv, app.Dispatches escapedArgs version inv := ⟨_, _, _, _, rfl, rfl, rfl⟩
  obtain ⟨inv, hrun⟩ := hparsed
  obtain ⟨inv', hrun'⟩ := hescaped
  have hnot : ¬app.registry.Escapes (args.drop 1) :=
    fun hescapes => absurd hescapes.separator_mem (by decide)
  have hplain : "extra".toList.head? ≠ some '-' := by decide
  have hrefused := (App.operand_after_command reachable_registry hrun hplain).1 hnot
  obtain ⟨root, own, -, hagain⟩ :=
    (App.operand_after_command reachable_registry hrun' hplain).2 escapes_escapedArgs
  refine ⟨hrefused, ?_⟩
  rw [hagain]
  rfl

/-- So it is not so that each operand after a command is refused. -/
theorem operand_not_always_refused :
    ¬∀ (app : App) (args : List OsText) (command : Command Action) (inv : Invocation) (x : String),
      app.registry.Reachable → app.Dispatches args command inv → x.toList.head? ≠ some '-' →
        ∃ cause, app.run (args ++ [OsText.ofString x]) = Journal.fail (.arguments cause) := by
  intro h
  obtain ⟨cause, hrefused⟩ := h app escapedArgs version _ "extra" reachable_registry
    ⟨_, _, _, rfl, rfl, rfl⟩ (by decide)
  have hresult : (app.run (escapedArgs ++ [OsText.ofString "extra"])).result = .ok () := by rfl
  rw [hrefused] at hresult
  cases hresult

end Sample

end CommandFront
