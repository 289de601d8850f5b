import CommandFront.Proofs.PhraseLoops
import CommandFront.Proofs.PhraseReading
import CommandFront.Proofs.RegisteredLevels

/-!
# Sentences

A command line without the separator that selects a registered command is made of phrases of the
root level, the name of the command, and phrases of its level.

Before the sub-command the parser is in two minds at each token: it may continue a flag of the root
level, name a declared sub-command, or be taken for a foreign one. A token that a flag awaits as its
value is never looked up as a name. So what precedes the sub-command is described by the same
phrases as a level is, with the one condition more that no first token of a phrase names a command.

- `Sentence`: such phrases and the command between them.
- `CommandLine.found_of_cut`: how the search for the sub-command has ended.
- `CommandLine.exists_before`: what an accepted command line gives before its sub-command.
- `CommandLine.parse_written_eq_ok_iff`: when a command line that begins so is accepted.
- `CommandLine.exists_sentence`: without the separator, it is a valid sentence.
- `Sentence.parse_eq_ok_iff`: and it holds what is noted phrase by phrase.
-/

namespace CommandFront

/-- The token names no sub-command. -/
def Registry.Undeclared {α : Type} (r : Registry α) (token : OsText) : Prop :=
  ∀ name, token = .ofString name → r.declares name = false

/-- A token names no sub-command exactly if it is none of their names. -/
theorem Registry.undeclared_iff {α : Type} {r : Registry α} {token : OsText} :
    r.Undeclared token ↔ ∀ name ∈ token.toString?, r.declares name = false := by
  refine forall_congr' fun name => ?_
  rw [Option.mem_def, OsText.toString?_eq_some_iff]

instance {α : Type} (r : Registry α) (token : OsText) : Decidable (r.Undeclared token) :=
  decidable_of_iff _ Registry.undeclared_iff.symm

theorem Registry.declares_of_contains {α : Type} {r : Registry α} {name : String}
    (h : r.commands.contains name = true) : r.declares name = true := by
  rw [declares, h, Bool.true_or]

/-- A command line with a registered sub-command. -/
structure Sentence where
  /-- What is given before the sub-command. -/
  before : List Phrase
  /-- The sub-command. -/
  command : String
  /-- What is given after it. -/
  after : List Phrase
deriving DecidableEq, Repr

namespace Sentence

/-- The tokens of a sentence. -/
def tokens (w : Sentence) : List OsText :=
  Phrase.written w.before ++ .ofString w.command :: Phrase.written w.after

/-- The phrases are those of the levels, and the first token that names a sub-command stands
between them. -/
structure Valid {α : Type} (r : Registry α) (w : Sentence) : Prop where
  before : ∀ p ∈ w.before, p.Valid r.rootLevel ∧ r.Undeclared p.word
  registered : r.commands.contains w.command = true
  after : ∀ p ∈ w.after, p.Valid (r.commandLevel w.command)

instance {α : Type} (r : Registry α) (w : Sentence) : Decidable (w.Valid r) :=
  decidable_of_iff
    ((∀ p ∈ w.before, p.Valid r.rootLevel ∧ r.Undeclared p.word)
      ∧ r.commands.contains w.command = true ∧ ∀ p ∈ w.after, p.Valid (r.commandLevel w.command))
    ⟨fun h => ⟨h.1, h.2.1, h.2.2⟩, fun h => ⟨h.before, h.registered, h.after⟩⟩

end Sentence

namespace CommandLine

variable {α : Type} {r : Registry α} {s t : Scan} {token : OsText}

/-! ## The search for the sub-command -/

/-- Where no value is awaited, a token is taken for a sub-command exactly if it is its name. -/
theorem declared?_eq_some_iff (hs : s.Ready) {name : String} :
    declared? r s token = some name ↔ token = .ofString name ∧ r.declares name = true := by
  rw [declared?, hs.not_trailing, hs.not_awaiting]
  show token.toString?.filter r.declares = some name ↔ _
  rw [Option.filter_eq_some_iff, OsText.toString?_eq_some_iff]

/-- Where a value is awaited, no token is taken for a sub-command. -/
theorem declared?_of_awaiting (hs : s.isAwaiting = true) : declared? r s token = none := by
  rw [declared?, hs, Bool.or_true]
  rfl

theorem undeclared_of_declared? (hs : s.Ready) (h : declared? r s token = none) :
    r.Undeclared token := by
  intro name htoken
  refine Bool.eq_false_iff.mpr fun hdeclares => ?_
  rw [(declared?_eq_some_iff hs).mpr ⟨htoken, hdeclares⟩] at h
  cases h

theorem declared?_of_undeclared (hs : s.Ready) (h : r.Undeclared token) :
    declared? r s token = none := by
  cases hname : declared? r s token with
  | none => rfl
  | some name =>
    obtain ⟨htoken, hdeclares⟩ := (declared?_eq_some_iff hs).mp hname
    rw [h name htoken] at hdeclares
    cases hdeclares

/-- The search goes on where a phrase begins with no sub-command. -/
theorem loops_cut (r : Registry α) : Loops r.rootLevel r.Undeclared (cut r) := by
  intro s token rest next hopen hstep
  have hnone : declared? r s token = none := by
    cases htrailing : s.trailing with
    | true => rw [declared?, htrailing]; rfl
    | false =>
      cases hawaiting : s.isAwaiting with
      | true => exact declared?_of_awaiting hawaiting
      | false => exact declared?_of_undeclared ⟨htrailing, hawaiting⟩ (hopen hawaiting)
  rw [cut, hnone]
  show (s.step r.rootLevel token >>= _) = _
  rw [hstep]
  cases next <;> rfl

/-- How the search for the sub-command ends: with the tokens, at a token that names one, or at one
that names none, which may come after the separator. -/
inductive Found (r : Registry α) (s : Scan) (tokens : List OsText) (t : Scan) : Turn → Prop where
  | finished : Found r s tokens t .finished
  | declared (front : List OsText) (name : String) (rest : List OsText) :
      tokens = front ++ .ofString name :: rest → Token.separator.toText ∉ front →
      Walk r.rootLevel r.Undeclared s front t → Found r s tokens t (.declared name rest)
  | foreign (front : List OsText) (token : OsText) (rest : List OsText) :
      tokens = front ++ token :: rest → Token.separator.toText ∉ front →
      Walk r.rootLevel r.Undeclared s front t → r.Undeclared token →
      Found r s tokens t (.foreign token rest)
  | escaped (front : List OsText) (u : Scan) (token : OsText) (rest : List OsText) :
      tokens = front ++ Token.separator.toText :: token :: rest →
      Token.separator.toText ∉ front → Walk r.rootLevel r.Undeclared s front u →
      (u.isAwaiting = false → r.Undeclared Token.separator.toText) →
      t = { u with trailing := true } → Found r s tokens t (.foreign token rest)

/-- The tokens that the search has got past before are in front of those that it has found. -/
theorem Found.cons {next : Scan} {turn : Turn} {tokens : List OsText}
    (h : Found r next tokens t turn) (hne : Token.separator.toText ≠ token)
    (hopen : s.isAwaiting = false → r.Undeclared token)
    (hstep : s.step r.rootLevel token = .ok (some next)) : Found r s (token :: tokens) t turn := by
  cases h with
  | finished => exact .finished
  | declared front name rest htokens hfront hwalk =>
    refine .declared (token :: front) name rest ?_ ?_ (.cons hopen hstep hwalk)
    · rw [htokens, List.cons_append]
    · exact List.not_mem_cons_of_ne_of_not_mem hne hfront
  | foreign front token rest htokens hfront hwalk hundeclared =>
    refine .foreign (_ :: front) token rest ?_ ?_ (.cons hopen hstep hwalk) hundeclared
    · rw [htokens, List.cons_append]
    · exact List.not_mem_cons_of_ne_of_not_mem hne hfront
  | escaped front u token rest htokens hfront hwalk hseparator ht =>
    refine .escaped (_ :: front) u token rest ?_ ?_ (.cons hopen hstep hwalk) hseparator ht
    · rw [htokens, List.cons_append]
    · exact List.not_mem_cons_of_ne_of_not_mem hne hfront

/-- After the separator, any token is taken for a sub-command, and nothing is a name of one. -/
theorem cut_of_trailing (hs : s.trailing = true) (rest : List OsText) :
    cut r s (token :: rest) = .ok (s, .foreign token rest) := by
  have hnone : declared? r s token = none := by
    rw [declared?, hs]
    rfl
  rw [cut, hnone]
  show (s.step r.rootLevel token >>= _) = _
  rw [Scan.step_of_trailing hs]
  rfl

/-- How the search for a sub-command ends, and what it has passed until then. -/
theorem found_of_cut {tokens : List OsText} {turn : Turn} (hs : s.trailing = false)
    (h : cut r s tokens = .ok (t, turn)) : Found r s tokens t turn := by
  induction tokens generalizing s with
  | nil =>
    cases h
    exact .finished
  | cons token rest ih =>
    rw [cut] at h
    split at h
    case h_1 name hname =>
      cases h
      have hready : t.Ready := by
        refine ⟨hs, Bool.eq_false_iff.mpr fun hawaiting => ?_⟩
        rw [declared?_of_awaiting hawaiting] at hname
        cases hname
      obtain ⟨rfl, -⟩ := (declared?_eq_some_iff hready).mp hname
      exact .declared [] name rest rfl List.not_mem_nil (.nil t)
    case h_2 hname =>
      have hopen : s.isAwaiting = false → r.Undeclared token :=
        fun hawaiting => undeclared_of_declared? ⟨hs, hawaiting⟩ hname
      obtain ⟨result, hstep, hresult⟩ := bind_eq_ok_iff.mp h
      cases result with
      | none =>
        cases hresult
        have hundeclared := hopen (Scan.plain_of_step_eq_none hs hstep).1.not_awaiting
        exact .foreign [] token rest rfl List.not_mem_nil (.nil _) hundeclared
      | some next =>
        by_cases hne : token = Token.separator.toText
        · -- the token after the separator ends the search
          subst hne
          obtain rfl := Scan.eq_of_step_separator hs hstep
          cases rest with
          | nil =>
            cases hresult
            exact .finished
          | cons first others =>
            have hforeign := hresult.symm.trans (cut_of_trailing rfl others)
            cases hforeign
            exact .escaped [] s first others rfl List.not_mem_nil (.nil s) hopen rfl
        · -- a token that the scan took leaves the search as it was, so it ends as before
          have hnext := (Scan.sameMode_of_step hs hne hstep).1.trans hs
          exact (ih hnext hresult).cons (Ne.symm hne) hopen hstep

/-! ## What is given before the sub-command -/

theorem selected_ofLevels {root : Matches} {selected : Option (String × Matches)} :
    (ofLevels r root selected).selected.map Prod.fst = selected.map Prod.fst := by
  cases selected <;> rfl

/-- Operands that are valid Unicode come from strings. -/
theorem texts_of_mapM_toString? {l : List OsText} {texts : List String}
    (h : l.mapM OsText.toString? = some texts) : l = texts.map OsText.ofString := by
  induction l generalizing texts with
  | nil =>
    cases h
    rfl
  | cons token rest ih =>
    rw [List.mapM_cons] at h
    obtain ⟨text, htext, h⟩ := Option.bind_eq_some_iff.mp h
    obtain ⟨others, hothers, h⟩ := Option.bind_eq_some_iff.mp h
    cases h
    rw [OsText.toString?_eq_some_iff.mp htext, ih hothers, List.map_cons]

/-- A command line that selects a declared sub-command begins with phrases of the root level. The
name comes after them, or after the separator. -/
theorem exists_before {tokens : List OsText} {line : CommandLine} (h : parse r tokens = .ok line)
    {name : String} {own : Matches} (hselected : line.selected = some (name, own))
    (hdeclares : r.declares name = true) :
    ∃ before : List Phrase, (∀ p ∈ before, p.Valid r.rootLevel ∧ r.Undeclared p.word)
      ∧ ((∃ rest, tokens = Phrase.written before ++ .ofString name :: rest)
        ∨ r.Undeclared Token.separator.toText ∧ ∃ operands : List String,
          tokens = Phrase.written before
            ++ Token.separator.toText :: .ofString name :: operands.map .ofString) := by
  obtain ⟨⟨scan, turn⟩, hcut, h⟩ := bind_eq_ok_iff.mp h
  obtain ⟨selected, hselect, h⟩ := bind_eq_ok_iff.mp h
  obtain ⟨settled, hsettle, hline⟩ := bind_eq_ok_iff.mp h
  cases hline
  have hname : selected.map Prod.fst = some name := by
    rw [← selected_ofLevels, hselected]
    rfl
  have hforeign : ∀ {token : OsText} {rest : List OsText},
      select r (.foreign token rest) = .ok selected →
        token = .ofString name ∧ ∃ operands : List String, rest = operands.map .ofString := by
    intro token rest hselect
    rw [select] at hselect
    split at hselect
    case h_2 => cases hselect
    case h_1 text operands htext hoperands =>
      cases hselect
      obtain rfl : text = name := Option.some.inj hname
      exact ⟨OsText.toString?_eq_some_iff.mp htext, operands, texts_of_mapM_toString? hoperands⟩
  cases found_of_cut rfl hcut with
  | finished =>
    cases hselect
    cases hname
  | declared front found rest htokens hfront hwalk =>
    obtain ⟨below, -, hfound⟩ := bind_eq_ok_iff.mp hselect
    cases hfound
    obtain rfl : found = name := Option.some.inj hname
    obtain ⟨before, rfl, hvalid⟩ := (hwalk.exists_phrases rfl hfront hsettle).1 rfl
    exact ⟨before, hvalid, .inl ⟨rest, htokens⟩⟩
  | foreign front token rest htokens hfront hwalk hundeclared =>
    -- a positional before the separator names no sub-command
    obtain ⟨htoken, -⟩ := hforeign hselect
    have hnot := hundeclared name htoken
    rw [hdeclares] at hnot
    cases hnot
  | escaped front u token rest htokens hfront hwalk hundeclared ht =>
    subst ht
    rw [Scan.settle_with_trailing] at hsettle
    obtain ⟨v, hu, -⟩ := map_eq_ok_iff.mp hsettle
    -- a flag that awaits its value when the separator comes is refused
    have hready : u.isAwaiting = false := Scan.not_awaiting_of_settle hu
    obtain ⟨before, rfl, hvalid⟩ := (hwalk.exists_phrases rfl hfront hu).1 rfl
    obtain ⟨rfl, operands, rfl⟩ := hforeign hselect
    exact ⟨before, hvalid, .inr ⟨hundeclared hready, operands, htokens⟩⟩

/-- After phrases of the root level, the command line is accepted exactly when what they give can be
noted and the sub-command that the search finds can be selected. -/
theorem parse_written_eq_ok_iff (hlevel : r.rootLevel.Distinct) {before : List Phrase}
    (hbefore : ∀ p ∈ before, p.Valid r.rootLevel ∧ r.Undeclared p.word) {rest : List OsText}
    {closed : Bool} {turn : Turn}
    (hcut : ∀ t : Scan, t.Ready → cut r t rest = .ok ({ t with trailing := closed }, turn))
    {line : CommandLine} :
    parse r (Phrase.written before ++ rest) = .ok line
      ↔ ∃ root selected, (∅ : Scan).noteAll (Phrase.occurrences before) = .ok root
        ∧ select r turn = .ok selected
        ∧ ofLevels r (root.entries r.rootLevel) selected = line := by
  have hphrases := (loops_cut r).phrases hlevel Scan.ready_empty hbefore rest
  have hsettled := Phrase.foldlM_scanned_settle ∅ before
  rw [parse, hphrases]
  constructor
  · intro hparse
    obtain ⟨_, hcut', hrest⟩ := bind_eq_ok_iff.mp hparse
    obtain ⟨t, hfold, hfound⟩ := bind_eq_ok_iff.mp hcut'
    have hready := Phrase.ready_of_foldlM_scanned Scan.ready_empty hfold
    cases (hcut t hready).symm.trans hfound
    obtain ⟨selected, hselect, hlast⟩ := bind_eq_ok_iff.mp hrest
    obtain ⟨last, hsettle, hline⟩ := bind_eq_ok_iff.mp hlast
    rw [Scan.settle_with_trailing] at hsettle
    obtain ⟨root, hroot, rfl⟩ := map_eq_ok_iff.mp hsettle
    have hnote := hsettled.symm.trans (bind_eq_ok_iff.mpr ⟨t, hfold, hroot⟩)
    exact ⟨root, selected, hnote, hselect, Except.ok.inj hline⟩
  · rintro ⟨root, selected, hnote, hselect, hline⟩
    obtain ⟨t, hfold, hroot⟩ := bind_eq_ok_iff.mp (hsettled.trans hnote)
    have hready := Phrase.ready_of_foldlM_scanned Scan.ready_empty hfold
    have hsettle : Scan.settle { t with trailing := closed }
        = .ok { root with trailing := closed } := by
      rw [Scan.settle_with_trailing, hroot]
      rfl
    refine bind_eq_ok_iff.mpr ⟨_, bind_eq_ok_iff.mpr ⟨t, hfold, hcut t hready⟩, ?_⟩
    refine bind_eq_ok_iff.mpr ⟨selected, hselect, ?_⟩
    exact bind_eq_ok_iff.mpr ⟨_, hsettle, congrArg Except.ok hline⟩

/-- A declared name selects its sub-command with all that follows. -/
theorem parse_declared_eq_ok_iff (hlevel : r.rootLevel.Distinct) {before : List Phrase}
    (hbefore : ∀ p ∈ before, p.Valid r.rootLevel ∧ r.Undeclared p.word) {name : String}
    (hname : r.declares name = true) {rest : List OsText} {line : CommandLine} :
    parse r (Phrase.written before ++ .ofString name :: rest) = .ok line
      ↔ ∃ root own, (∅ : Scan).noteAll (Phrase.occurrences before) = .ok root
        ∧ r.scanBelow name rest = .ok own
        ∧ ofLevels r (root.entries r.rootLevel) (some (name, own)) = line := by
  have hcut : ∀ t : Scan, t.Ready → cut r t (.ofString name :: rest)
      = .ok ({ t with trailing := false }, .declared name rest) := by
    intro t ht
    have htrailing : t.trailing = false := ht.not_trailing
    rw [cut, (declared?_eq_some_iff ht).mpr ⟨rfl, hname⟩]
    show Except.ok (t, _) = _
    rw [← htrailing]
  rw [parse_written_eq_ok_iff hlevel hbefore hcut]
  constructor
  · rintro ⟨root, selected, hnote, hselect, hline⟩
    obtain ⟨own, hbelow, hfound⟩ := bind_eq_ok_iff.mp hselect
    cases hfound
    exact ⟨root, own, hnote, hbelow, hline⟩
  · rintro ⟨root, own, hnote, hbelow, hline⟩
    exact ⟨root, _, hnote, bind_eq_ok_iff.mpr ⟨own, hbelow, rfl⟩, hline⟩

/-! ## Accepted command lines are sentences -/

/-- What follows a registered command is made of phrases of its level, perhaps with the separator
at their end. -/
theorem exists_after (hlevel : r.rootLevel.Distinct) {before : List Phrase}
    (hbefore : ∀ p ∈ before, p.Valid r.rootLevel ∧ r.Undeclared p.word) {name : String}
    (hregistered : r.commands.contains name = true) {rest : List OsText} {line : CommandLine}
    (h : parse r (Phrase.written before ++ .ofString name :: rest) = .ok line) :
    ∃ (after : List Phrase) (closed : Bool), rest = Phrase.written after ++ Token.ending closed
      ∧ ∀ p ∈ after, p.Valid (r.commandLevel name) := by
  have hdeclares := Registry.declares_of_contains hregistered
  obtain ⟨root, below, -, hbelow, -⟩ := (parse_declared_eq_ok_iff hlevel hbefore hdeclares).mp h
  rw [Registry.scanBelow, if_pos hregistered] at hbelow
  obtain ⟨last, hscan, -⟩ := bind_eq_ok_iff.mp hbelow
  exact Level.exists_phrases_of_scan hscan

/-- Without the separator, an accepted command line that selects a command is a sentence. -/
theorem exists_sentence (hlevel : r.rootLevel.Distinct) {tokens : List OsText} {line : CommandLine}
    (hseparator : Token.separator.toText ∉ tokens) (h : parse r tokens = .ok line)
    {name : String} {own : Matches} (hselected : line.selected = some (name, own))
    (hregistered : r.commands.contains name = true) :
    ∃ w : Sentence, w.Valid r ∧ w.tokens = tokens ∧ w.command = name := by
  have hdeclares := Registry.declares_of_contains hregistered
  obtain ⟨before, hbefore, ⟨rest, rfl⟩ | ⟨-, operands, rfl⟩⟩ := exists_before h hselected hdeclares
  · obtain ⟨after, closed, rfl, hafter⟩ := exists_after hlevel hbefore hregistered h
    cases closed with
    | true => exact absurd (by simp [Token.ending]) hseparator
    | false =>
      refine ⟨⟨before, name, after⟩, ⟨hbefore, hregistered, hafter⟩, ?_, rfl⟩
      rw [Token.ending, if_neg Bool.false_ne_true, List.append_nil]
      rfl
  · exact absurd (List.mem_append_right _ List.mem_cons_self) hseparator

end CommandLine

/-! ## What a sentence holds -/

namespace Sentence

variable {α : Type} {r : Registry α} {w : Sentence}

theorem Valid.declares (h : w.Valid r) : r.declares w.command = true :=
  Registry.declares_of_contains h.registered

/-- A valid sentence is accepted exactly when what its phrases give can be noted on both levels. -/
theorem Valid.parse_eq_ok_iff (h : w.Valid r) (hroot : r.rootLevel.Distinct)
    (hown : (r.commandLevel w.command).Distinct) {line : CommandLine} :
    CommandLine.parse r w.tokens = .ok line
      ↔ ∃ root own, (∅ : Scan).noteAll (Phrase.occurrences w.before) = .ok root
        ∧ (∅ : Scan).noteAll (Phrase.occurrences w.after) = .ok own
        ∧ CommandLine.ofLevels r (root.entries r.rootLevel)
          (some (w.command, own.entries (r.commandLevel w.command))) = line := by
  have hbelow : r.scanBelow w.command (Phrase.written w.after)
      = Scan.entries (r.commandLevel w.command)
        <$> (∅ : Scan).noteAll (Phrase.occurrences w.after) := by
    rw [Registry.scanBelow, if_pos h.registered, Level.scan_written hown h.after]
    cases (∅ : Scan).noteAll (Phrase.occurrences w.after) <;> rfl
  rw [tokens, CommandLine.parse_declared_eq_ok_iff hroot h.before h.declares, hbelow]
  constructor
  · rintro ⟨root, _, hnote, hscan, hline⟩
    obtain ⟨own, hown, rfl⟩ := map_eq_ok_iff.mp hscan
    exact ⟨root, own, hnote, hown, hline⟩
  · rintro ⟨root, own, hnote, hown, hline⟩
    exact ⟨root, _, hnote, map_eq_ok_iff.mpr ⟨own, hown, rfl⟩, hline⟩

end Sentence

end CommandFront
