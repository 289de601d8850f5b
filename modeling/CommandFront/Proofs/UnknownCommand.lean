import CommandFront.Proofs.Escape

/-!
# Unknown commands

The first positional of the root level that names no sub-command, and what is made of it.

A positional of the root level that names no sub-command does not end the parsing: it is accepted as
a foreign sub-command, with all that follows it, and found to be unknown only when it is looked up.
This is why the tokens after it do not matter, and why an unknown name is told with suggestions and
its own status and not as a refused argument. The suggestions are those that the registry has for
the name.

- `CommandLine.cut_append`: a search that ends with its tokens goes on with those after them.
- `CommandLine.parse_foreign_eq`: a positional that names nothing takes all that follows with it.
- `RunError.lines_report_unknownCommand`: the report of an unknown command, line by line.
- `App.run_unknown_suggests_names`: such a run fails with the commands that begin with the token,
  and does nothing else.
-/

namespace CommandFront

/-! ## The lines of a text -/

namespace Text

/-- The lines of a text; the last one is empty when the text ends with a line break. -/
def lines (text : String) : List String :=
  (text.toList.splitOn '\n').map String.ofList

/-- Each text on a line of its own. -/
def unlines (texts : List String) : String :=
  String.join (texts.map (· ++ "\n"))

/-- A text without a line break is one line. -/
theorem lines_eq_singleton {text : String} (h : '\n' ∉ text.toList) : lines text = [text] := by
  rw [lines, List.splitOn_eq_singleton h, List.map_singleton, String.ofList_toList]

/-- A line break is between lines of which it is no part. -/
theorem lines_append_break (front back : String) :
    lines (front ++ "\n" ++ back) = lines front ++ lines back := by
  have hsplit : (front ++ "\n" ++ back).toList = front.toList ++ '\n' :: back.toList := by
    rw [String.toList_append, String.toList_append, List.append_assoc]
    rfl
  rw [lines, hsplit, List.splitOn_append_cons_self, List.map_append]
  rfl

theorem lines_unlines {texts : List String} (h : ∀ text ∈ texts, '\n' ∉ text.toList) :
    lines (unlines texts) = texts ++ [""] := by
  induction texts with
  | nil => rfl
  | cons text rest ih =>
    obtain ⟨htext, hrest⟩ := List.forall_mem_cons.mp h
    have hcons : unlines (text :: rest) = text ++ "\n" ++ unlines rest := String.join_cons
    rw [hcons, lines_append_break, lines_eq_singleton htext, ih hrest]
    rfl

/-- A name has no line break in it. -/
theorem IsName.break_not_mem {name : String} (h : IsName name) : '\n' ∉ name.toList := by
  intro hmem
  have hvisible : isBlank '\n' = false := h.2 '\n' hmem
  revert hvisible
  decide

end Text

/-! ## The report of an unknown command -/

namespace RunError

/-- What the report of an unknown command says first. -/
def unknownHeading (app token : String) : String :=
  "‘" ++ token ++ "’ is not a " ++ app ++ " sub-command. See ‘" ++ app ++ " help’."

/-- A suggestion on its line. -/
def suggestionLine (name : String) : String :=
  "        ‘" ++ name ++ "’"

/-- The lines after the heading: none without suggestions, else one for each between two empty ones,
below a question. -/
def suggestionLines (suggestions : List String) : List String :=
  if suggestions = [] then []
  else "" :: "Did you mean one of these?" :: suggestions.map suggestionLine ++ [""]

theorem break_not_mem_suggestionLines {suggestions : List String}
    (h : ∀ name ∈ suggestions, Text.IsName name) :
    ∀ line ∈ suggestionLines suggestions, '\n' ∉ line.toList := by
  have hline : ∀ name, Text.IsName name → '\n' ∉ (suggestionLine name).toList := by
    intro name hname hmem
    simp only [suggestionLine, String.toList_append, List.mem_append] at hmem
    rcases hmem with (hopening | hin) | hclosing
    · exact absurd hopening (by decide)
    · exact hname.break_not_mem hin
    · exact absurd hclosing (by decide)
  intro line hmem
  unfold suggestionLines at hmem
  split at hmem
  · cases hmem
  rcases List.mem_append.mp hmem with hfront | hlast
  · rcases List.mem_cons.mp hfront with rfl | hfront
    · decide
    rcases List.mem_cons.mp hfront with rfl | hsuggestion
    · decide
    obtain ⟨name, hname, rfl⟩ := List.mem_map.mp hsuggestion
    exact hline name (h name hname)
  · obtain rfl : line = "" := List.mem_singleton.mp hlast
    decide

/-- The report quotes the token, and each suggestion on a line. -/
theorem report_unknownCommand (app token : String) (suggestions : List String) :
    (unknownCommand app token suggestions).report
      = unknownHeading app token
        ++ (if suggestions = [] then ""
          else "\n\nDid you mean one of these?\n"
            ++ String.join (suggestions.map fun name => suggestionLine name ++ "\n"))
        ++ "\n" := by
  have hmessage : (unknownCommand app token suggestions).message
      = curved token ++ " is not a " ++ app ++ " sub-command. See " ++ curved (app ++ " help")
        ++ "." ++ suggestionBlock suggestions := rfl
  -- the quotes are put around the names on their own
  have hindent : "        ‘" = "        " ++ "‘" := rfl
  have hnot : "’ is not a " = "’" ++ " is not a " := rfl
  have hsee : " sub-command. See ‘" = " sub-command. See " ++ "‘" := rfl
  have hhelp : " help’." = " help" ++ "’" ++ "." := rfl
  rw [report, hmessage]
  simp only [suggestionBlock, unknownHeading, suggestionLine, curved, hindent, hnot, hsee, hhelp,
    String.append_assoc, -String.reduceAppend]

/-- The report is its heading and the lines after it. -/
theorem report_eq_unlines (app token : String) (suggestions : List String) :
    (unknownCommand app token suggestions).report
      = unknownHeading app token ++ "\n" ++ Text.unlines (suggestionLines suggestions) := by
  rw [report_unknownCommand, suggestionLines]
  split
  · rw [String.append_empty]
    exact (String.append_empty).symm
  · have hlines : (suggestions.map suggestionLine).map (· ++ "\n")
        = suggestions.map fun name => suggestionLine name ++ "\n" := by
      rw [List.map_map]
      rfl
    simp only [Text.unlines, List.map_cons, List.map_append, List.map_nil, String.join_cons,
      String.join_append, String.join_nil, List.cons_append, hlines]
    simp only [← String.toList_inj, String.toList_append, List.append_assoc]
    rfl

theorem lines_report_unknownCommand {app token : String} {suggestions : List String}
    (h : ∀ name ∈ suggestions, Text.IsName name) :
    Text.lines (unknownCommand app token suggestions).report
      = Text.lines (unknownHeading app token) ++ suggestionLines suggestions ++ [""] := by
  rw [report_eq_unlines, Text.lines_append_break,
    Text.lines_unlines (break_not_mem_suggestionLines h), List.append_assoc]

end RunError

/-! ## The search for the sub-command -/

namespace CommandLine

variable {α : Type} {r : Registry α} {s t : Scan}

/-- What a search that ends with its tokens has gone through at the first of them. -/
theorem exists_step_of_cut_finished {token : OsText} {rest : List OsText}
    (h : cut r s (token :: rest) = .ok (t, .finished)) :
    declared? r s token = none
      ∧ ∃ next, s.step r.rootLevel token = .ok (some next)
        ∧ cut r next rest = .ok (t, .finished) := by
  rw [cut] at h
  split at h
  case h_1 => cases h
  case h_2 hname =>
    obtain ⟨result, hstep, hresult⟩ := bind_eq_ok_iff.mp h
    cases result with
    | none => cases hresult
    | some next => exact ⟨hname, next, hstep, hresult⟩

/-- A search that ends with its tokens goes on with those that come after them. -/
theorem cut_append {front : List OsText} (h : cut r s front = .ok (t, .finished))
    (rest : List OsText) : cut r s (front ++ rest) = cut r t rest := by
  induction front generalizing s with
  | nil =>
    cases h
    rfl
  | cons token others ih =>
    obtain ⟨hname, next, hstep, hnext⟩ := exists_step_of_cut_finished h
    rw [List.cons_append, cut, hname]
    show (s.step r.rootLevel token >>= _) = _
    rw [hstep]
    exact ih hnext

/-- The separator among the tokens of such a search closes the flags of the root level. -/
theorem trailing_of_separator_mem {front : List OsText} (h : cut r s front = .ok (t, .finished))
    (hmem : Token.separator.toText ∈ front) : t.trailing = true := by
  induction front generalizing s with
  | nil => exact absurd hmem List.not_mem_nil
  | cons token others ih =>
    obtain ⟨-, next, hstep, hnext⟩ := exists_step_of_cut_finished h
    by_cases htoken : token = Token.separator.toText
    · subst htoken
      have hs : s.trailing = false := by
        refine Bool.eq_false_iff.mpr fun htrailing => ?_
        rw [Scan.step_of_trailing htrailing] at hstep
        cases hstep
      obtain rfl := Scan.eq_of_step_separator hs hstep
      -- nothing can come after it, as that would be taken for a sub-command
      cases others with
      | nil =>
        cases hnext
        rfl
      | cons first more =>
        have hforeign := hnext.symm.trans (cut_of_trailing rfl more)
        cases hforeign
    · have hlater : Token.separator.toText ∈ others :=
        List.mem_of_ne_of_mem (Ne.symm htoken) hmem
      exact ih hnext hlater

/-- Where the search has ended in a command line without a sub-command. -/
theorem exists_cut_finished {tokens : List OsText} {root : Matches}
    (h : parse r tokens = .ok ⟨root, none⟩) :
    ∃ t settled, cut r ∅ tokens = .ok (t, .finished) ∧ t.settle = .ok settled
      ∧ root = settled.entries r.rootLevel := by
  obtain ⟨⟨t, turn⟩, hcut, hrest⟩ := bind_eq_ok_iff.mp h
  obtain ⟨selected, hselect, hlast⟩ := bind_eq_ok_iff.mp hrest
  obtain ⟨settled, hsettle, hline⟩ := bind_eq_ok_iff.mp hlast
  have hlevels : ofLevels r (settled.entries r.rootLevel) selected = ⟨root, none⟩ :=
    Except.ok.inj hline
  have hnone : selected = none := by
    cases selected with
    | none => rfl
    | some found => cases congrArg CommandLine.selected hlevels
  subst hnone
  cases turn with
  | finished => exact ⟨t, settled, hcut, hsettle, (congrArg CommandLine.root hlevels).symm⟩
  | declared name rest =>
    obtain ⟨below, -, hfound⟩ := bind_eq_ok_iff.mp hselect
    cases hfound
  | foreign token rest =>
    rw [select] at hselect
    split at hselect <;> cases hselect

/-- After tokens that give flags of the root level alone, a positional that names no sub-command is
taken for a foreign one, and all that follows for its operands. -/
theorem parse_foreign_eq {front : List OsText} {root : Matches}
    (hfront : parse r front = .ok ⟨root, none⟩) {token : String}
    (hpositional : Joint.apart.Fits token ∨ Token.separator.toText ∈ front)
    (hnone : r.declares token = false) (operands : List String) :
    parse r (front ++ .ofString token :: operands.map .ofString)
      = .ok (ofLevels r root (some (token, .ofOperands operands))) := by
  obtain ⟨t, settled, hcut, hsettle, rfl⟩ := exists_cut_finished hfront
  have hforeign : cut r t (.ofString token :: operands.map .ofString)
      = .ok (t, .foreign (.ofString token) (operands.map .ofString)) := by
    by_cases htrailing : t.trailing = true
    · exact cut_of_trailing htrailing _
    · have hready : t.Ready :=
        ⟨Bool.eq_false_iff.mpr htrailing, Scan.not_awaiting_of_settle hsettle⟩
      have hfits : Joint.apart.Fits token :=
        hpositional.resolve_right fun hmem => htrailing (trailing_of_separator_mem hcut hmem)
      have hplain := Token.ofText_eq_plain_iff.mpr hfits
      have hundeclared : r.Undeclared (.ofString token) := by
        refine Registry.undeclared_iff.mpr fun name hname => ?_
        rw [OsText.toString?_ofString] at hname
        rw [← Option.some.inj hname]
        exact hnone
      rw [cut, declared?_of_undeclared hready hundeclared]
      show (t.step r.rootLevel (.ofString token) >>= _) = _
      rw [Scan.step_of_plain hready hplain]
      rfl
  have hselect : select r (.foreign (.ofString token) (operands.map .ofString))
      = .ok (some (token, .ofOperands operands)) := by
    rw [select, OsText.toString?_ofString, Escape.mapM_toString?_map_ofString]
  rw [parse]
  refine bind_eq_ok_iff.mpr ⟨_, (cut_append hcut _).trans hforeign, ?_⟩
  refine bind_eq_ok_iff.mpr ⟨_, hselect, ?_⟩
  exact bind_eq_ok_iff.mpr ⟨settled, hsettle, rfl⟩

end CommandLine

/-! ## The run -/

namespace App

variable {app : App}

/-- A sub-command that is not there is told to the hook, whatever comes with it. -/
theorem request_foreign {root own : Matches} {token : String} (hhelp : token ≠ helpCommand)
    (hnone : app.registry.commands.get? token = none) :
    app.request (CommandLine.ofLevels app.registry root (some (token, own))) = .unknown token := by
  unfold request CommandLine.ofLevels
  dsimp only
  rw [if_neg fun hbuiltin => hhelp hbuiltin.1, hnone]

theorem serve_unknown_eq (hhook : app.notFound = suggestClosest app.name app.registry.commands)
    (token : String) :
    app.serve (.unknown token) = (do
      Journal.log (unknownRecord token (app.registry.commands.closest token))
      Journal.fail
        (.unknownCommand app.name token (app.registry.commands.closest token))) := by
  show (app.notFound token >>= Journal.fail) = _
  rw [hhook]
  rfl

/-- Whatever registrations lead to the registry: after flags of the root level, a positional that is
neither a registered command nor the built-in help ends the run, whatever comes after it. It fails
with exactly the names that begin with the token, in order. The report quotes the token, and below a
question each of these names on a line of its own; without any, it is one sentence. Nothing is
written, no snapshot is taken and no action runs; one record goes to the log. -/
theorem run_unknown_suggests_names (h : app.registry.Reachable)
    (hhook : app.notFound = suggestClosest app.name app.registry.commands)
    {front : List OsText} {root : Matches}
    (hfront : CommandLine.parse app.registry front = .ok ⟨root, none⟩) {token : String}
    (hpositional : Joint.apart.Fits token ∨ Token.separator.toText ∈ front)
    (hnone : token ∉ app.registry.commands.names) (hhelp : token ≠ helpCommand)
    (program : OsText) (rest : List String) :
    let args := program :: (front ++ .ofString token :: rest.map .ofString)
    ∃ suggestions : List String, suggestions.Pairwise (· < ·)
      ∧ (∀ name, name ∈ suggestions
        ↔ name ∈ app.registry.commands.names ∧ token.toList <+: name.toList)
      ∧ app.run args = (do
        Journal.log (unknownRecord token suggestions)
        Journal.fail (.unknownCommand app.name token suggestions))
      ∧ (∀ sink, ((app.run args).deliver sink).written = []
        ∧ ((app.run args).deliver sink).snapshots = 0
        ∧ ((app.run args).deliver sink).result
          = .error (.unknownCommand app.name token suggestions))
      ∧ (∀ command inv, ¬app.Dispatches args command inv)
      ∧ (exitStatus (app.run args).result).1 = 1
      ∧ (exitStatus (app.run args).result).2
        = "‘" ++ token ++ "’ is not a " ++ app.name ++ " sub-command. See ‘" ++ app.name
          ++ " help’."
          ++ (if suggestions = [] then ""
            else "\n\nDid you mean one of these?\n"
              ++ String.join (suggestions.map fun name => "        ‘" ++ name ++ "’" ++ "\n"))
          ++ "\n"
      ∧ Text.lines (exitStatus (app.run args).result).2
        = Text.lines
            ("‘" ++ token ++ "’ is not a " ++ app.name ++ " sub-command. See ‘" ++ app.name
              ++ " help’.")
          ++ (if suggestions = [] then []
            else "" :: "Did you mean one of these?"
              :: suggestions.map (fun name => "        ‘" ++ name ++ "’") ++ [""])
          ++ [""] := by
  intro args
  have hcommands := h.consistent
  have hget : app.registry.commands.get? token = none := hcommands.get?_eq_none_iff.mpr hnone
  have hdeclares : app.registry.declares token = false := h.declares_eq_false hnone hhelp
  have hparse : CommandLine.parse app.registry (args.drop 1) = _ :=
    CommandLine.parse_foreign_eq hfront hpositional hdeclares rest
  have hrequest : app.request (CommandLine.ofLevels app.registry root
      (some (token, .ofOperands rest))) = .unknown token := request_foreign hhelp hget
  have hrun : app.run args = (do
      Journal.log (unknownRecord token (app.registry.commands.closest token))
      Journal.fail
        (.unknownCommand app.name token (app.registry.commands.closest token))) := by
    rw [run, hparse]
    show app.serve (app.request _) = _
    rw [hrequest]
    exact serve_unknown_eq hhook token
  refine ⟨app.registry.commands.closest token, hcommands.sorted_closest token,
    fun name => hcommands.mem_closest_iff, hrun, fun sink => ?_, ?_, ?_, ?_, ?_⟩
  · rw [hrun]
    exact ⟨rfl, rfl, rfl⟩
  · rintro command inv ⟨line, _, _, hline, hinvoke, -⟩
    cases hparse.symm.trans hline
    cases hrequest.symm.trans hinvoke
  · rw [hrun]
    rfl
  · rw [hrun]
    exact RunError.report_unknownCommand app.name token (app.registry.commands.closest token)
  · rw [hrun]
    refine RunError.lines_report_unknownCommand fun name hname => ?_
    exact hcommands.isName name (hcommands.mem_closest_iff.mp hname).1

end App

namespace Sample

/-- Neither the flag before the token nor what comes after it keeps the run from failing. -/
theorem run_ver_suggests_version :
    app.run (["strata", "--cfg=b.toml", "ver", "--help", "--none", "--", "version"].map .ofString)
      = (do
        Journal.log (App.unknownRecord "ver" ["version"])
        Journal.fail (.unknownCommand "strata" "ver" ["version"])) := by
  obtain ⟨root, hfront⟩ : ∃ root, CommandLine.parse app.registry [.ofString "--cfg=b.toml"]
      = .ok ⟨root, none⟩ := ⟨_, rfl⟩
  have hfits : Joint.apart.Fits "ver" := by decide
  obtain ⟨suggestions, hsorted, hmem, hrun, -⟩ :=
    App.run_unknown_suggests_names reachable_registry rfl hfront (.inl hfits) (by decide)
      (by decide) (.ofString "strata") ["--help", "--none", "--", "version"]
  have hversion : suggestions = ["version"] := by
    refine eq_of_sorted_of_mem_iff hsorted (by simp) fun name => ?_
    have hnames : app.registry.commands.names = ["version"] := rfl
    rw [hmem, hnames]
    refine and_iff_left_of_imp fun hname => ?_
    rw [List.mem_singleton.mp hname]
    decide
  rw [hversion] at hrun
  exact hrun

end Sample

end CommandFront
