import CommandFront.Proofs.Sentence

/-!
# The token that is unexpected

Arguments that are refused for an unexpected one are so because of one of their tokens: what stands
before it is not refused so, and what comes after it makes no difference.

The parser reads from left to right and stops at the first token that it refuses, so a refusal on
the root level comes before whatever follows. The tokens of a sub-command are parsed after the
search for it, and what was on its way on the root level is checked last; a value that is missing
there is thus told only if the sub-command is in order. But such a value is never unexpected, and so
the two orders agree on which token is.

- `NothingUnexpected`: a computation that does not fail for an unexpected argument.
- `CommandLine.cut_resume`: a search goes on from where it has ended.
- `CommandLine.parse_append_of_unexpected`: what is unexpected stays so, whatever comes after it.
- `CommandLine.Rejects`: a token is the one that is unexpected.
- `CommandLine.exists_rejects`: wherever something is unexpected, it is one of the tokens.
-/

namespace CommandFront

/-! ## Computations that find nothing unexpected -/

/-- A computation that does not fail for an unexpected argument. -/
def NothingUnexpected {β : Type} (x : Except ArgumentError β) : Prop :=
  ∀ shown, x ≠ .error (.unexpected shown)

namespace NothingUnexpected

variable {β γ : Type} {x : Except ArgumentError β}

theorem ok (b : β) : NothingUnexpected (.ok b) :=
  fun _ => nofun

/-- One computation after another finds nothing unexpected if neither does. -/
theorem bind {f : β → Except ArgumentError γ} (hx : NothingUnexpected x)
    (hf : ∀ b, NothingUnexpected (f b)) : NothingUnexpected (x >>= f) := by
  intro shown h
  rcases bind_eq_error_iff.mp h with hfirst | ⟨b, -, hsecond⟩
  · exact hx shown hfirst
  · exact hf b shown hsecond

end NothingUnexpected

namespace Scan

/-- A value may be ill-formed, but it is not unexpected. -/
theorem noteText_expected (s : Scan) (name : String) (value : OsText) :
    NothingUnexpected (s.noteText name value) := by
  intro shown h
  unfold noteText at h
  split at h <;> cases h

/-- A switch may come again, but it is not unexpected. -/
theorem turnOn_expected (s : Scan) (flag : Flag) : NothingUnexpected (s.turnOn flag) := by
  intro shown h
  unfold turnOn at h
  split at h <;> cases h

theorem assign_expected (s : Scan) (flag : Flag) (value : OsText) :
    NothingUnexpected (s.assign flag value) := by
  unfold assign
  split
  · exact fun shown => nofun
  · exact noteText_expected s flag.name value

/-- A value on its way may be missing, come again or be ill-formed, but it is not unexpected. -/
theorem settle_expected (s : Scan) : NothingUnexpected s.settle := by
  unfold settle
  split
  · exact .ok s
  · exact fun shown => nofun
  · exact assign_expected _ _ _
  · exact noteText_expected _ _ _

/-- A long spelling that the level knows is not unexpected, whatever value it comes with. -/
theorem long_expected {level : Level} {name : OsText} {flag : Flag}
    (h : name.toString?.bind level.long? = some flag) (s : Scan) (value : Option OsText) :
    NothingUnexpected (s.long level name value) := by
  have hsettle := settle_expected s
  unfold long
  rw [h]
  dsimp only
  split
  · exact hsettle.bind fun t => turnOn_expected t flag
  · exact fun shown => nofun
  · exact hsettle.bind fun t => .ok (t.await flag)
  · exact hsettle.bind fun t => assign_expected t flag _

end Scan

/-! ## What comes after an unexpected token -/

/-- What is unexpected on a level stays so, whatever comes after it. -/
theorem Level.scan_append_of_unexpected {level : Level} {positional : Option String}
    {tokens : List OsText} {shown : String}
    (h : level.scan positional tokens = .error (.unexpected shown)) (more : List OsText) :
    level.scan positional (tokens ++ more) = .error (.unexpected shown) := by
  rcases bind_eq_error_iff.mp h with hfold | ⟨t, -, hsettle⟩
  · rw [scan, List.foldlM_append, hfold]
    rfl
  · exact absurd hsettle (Scan.settle_expected t shown)

/-- So does what is unexpected below a sub-command. -/
theorem Registry.scanBelow_append_of_unexpected {α : Type} {r : Registry α} {name : String}
    {tokens : List OsText} {shown : String}
    (h : r.scanBelow name tokens = .error (.unexpected shown)) (more : List OsText) :
    r.scanBelow name (tokens ++ more) = .error (.unexpected shown) := by
  unfold scanBelow at h ⊢
  split at h
  case isTrue hregistered =>
    rcases bind_eq_error_iff.mp h with hscan | ⟨t, -, ⟨⟩⟩
    rw [if_pos hregistered, Level.scan_append_of_unexpected hscan]
    rfl
  case isFalse hbuiltin =>
    rcases bind_eq_error_iff.mp h with hscan | ⟨t, -, ⟨⟩⟩
    rw [if_neg hbuiltin, Level.scan_append_of_unexpected hscan]
    rfl

namespace CommandLine

variable {α : Type} {r : Registry α}

/-- Where a search that has ended goes on with more tokens. -/
def resume (r : Registry α) (more : List OsText) :
    Scan × Turn → Except ArgumentError (Scan × Turn)
  | (s, .finished) => cut r s more
  | (s, .declared name rest) => .ok (s, .declared name (rest ++ more))
  | (s, .foreign token rest) => .ok (s, .foreign token (rest ++ more))

/-- A search goes on from where it has ended, unless a token was refused. -/
theorem cut_resume (s : Scan) (front more : List OsText) :
    cut r s (front ++ more) = cut r s front >>= resume r more := by
  induction front generalizing s with
  | nil => rfl
  | cons token others ih =>
    rw [List.cons_append, cut, cut]
    cases hname : declared? r s token with
    | some name => rfl
    | none =>
      cases hstep : s.step r.rootLevel token with
      | error e => rfl
      | ok result =>
        cases result with
        | none => rfl
        | some next => exact ih next

/-- A search that has ended at a sub-command leaves what comes later to it. -/
theorem cut_append_of_declared {s t : Scan} {front own : List OsText} {name : String}
    (h : cut r s front = .ok (t, .declared name own)) (more : List OsText) :
    cut r s (front ++ more) = .ok (t, .declared name (own ++ more)) := by
  rw [cut_resume, h]
  rfl

/-- What is refused on the root level is refused whatever comes after it. -/
theorem parse_append_of_cut_eq_error {front : List OsText} {e : ArgumentError}
    (h : cut r ∅ front = .error e) (more : List OsText) :
    parse r (front ++ more) = .error e := by
  rw [parse, cut_resume, h]
  rfl

/-- What is refused below a sub-command is refused before what the root level has on its way. -/
theorem parse_of_scanBelow_eq_error {tokens rest : List OsText} {s : Scan} {name : String}
    {e : ArgumentError} (hcut : cut r ∅ tokens = .ok (s, .declared name rest))
    (h : r.scanBelow name rest = .error e) : parse r tokens = .error e := by
  rw [parse, hcut]
  show (select r (.declared name rest) >>= _) = _
  rw [select, h]
  rfl

/-- Where something is unexpected, a token is refused on the root level or below a sub-command. -/
theorem cases_of_parse_unexpected {tokens : List OsText} {shown : String}
    (h : parse r tokens = .error (.unexpected shown)) :
    cut r ∅ tokens = .error (.unexpected shown)
      ∨ ∃ s name rest, cut r ∅ tokens = .ok (s, .declared name rest)
        ∧ r.scanBelow name rest = .error (.unexpected shown) := by
  rcases bind_eq_error_iff.mp h with hcut | ⟨⟨s, turn⟩, hcut, hrest⟩
  · exact .inl hcut
  right
  rcases bind_eq_error_iff.mp hrest with hselect | ⟨selected, -, hlast⟩
  · cases turn with
    | finished => cases hselect
    | declared name rest =>
      rcases bind_eq_error_iff.mp hselect with hbelow | ⟨own, -, ⟨⟩⟩
      exact ⟨s, name, rest, hcut, hbelow⟩
    | foreign token rest =>
      rw [select] at hselect
      split at hselect <;> cases hselect
  · rcases bind_eq_error_iff.mp hlast with hsettle | ⟨settled, -, ⟨⟩⟩
    exact absurd hsettle (Scan.settle_expected s shown)

/-- What is unexpected stays so, whatever comes after it. -/
theorem parse_append_of_unexpected {tokens : List OsText} {shown : String}
    (h : parse r tokens = .error (.unexpected shown)) (more : List OsText) :
    parse r (tokens ++ more) = .error (.unexpected shown) := by
  rcases cases_of_parse_unexpected h with hcut | ⟨s, name, rest, hcut, hbelow⟩
  · exact parse_append_of_cut_eq_error hcut more
  · have hlater := Registry.scanBelow_append_of_unexpected hbelow more
    exact parse_of_scanBelow_eq_error (cut_append_of_declared hcut more) hlater

/-! ## The token that is unexpected -/

/-- The token after some others is the one that is unexpected: none of them is, and with the token
the arguments are refused as it is shown, whatever comes after it. -/
def Rejects (r : Registry α) (before : List OsText) (token : OsText) (shown : String) : Prop :=
  NothingUnexpected (parse r before)
    ∧ ∀ after, parse r (before ++ token :: after) = .error (.unexpected shown)

/-- Wherever something is unexpected, it is one of the tokens. -/
theorem exists_rejects {tokens : List OsText} {shown : String}
    (h : parse r tokens = .error (.unexpected shown)) :
    ∃ before token after, tokens = before ++ token :: after ∧ Rejects r before token shown := by
  have hnil : ¬∃ other, parse r [] = .error (.unexpected other) := by
    rintro ⟨other, ⟨⟩⟩
  obtain ⟨before, token, after, rfl, hbefore, other, htoken⟩ :=
    exists_first (P := fun l => ∃ other, parse r l = .error (.unexpected other)) hnil ⟨shown, h⟩
  have hlater : ∀ after, parse r (before ++ token :: after) = .error (.unexpected other) := by
    intro after
    have hmore := parse_append_of_unexpected htoken after
    rw [List.append_assoc] at hmore
    exact hmore
  -- the arguments are refused as this token is shown
  have hshown : ArgumentError.unexpected other = .unexpected shown :=
    Except.error.inj ((hlater after).symm.trans h)
  refine ⟨before, token, after, rfl, fun found hfound => hbefore ⟨found, hfound⟩, ?_⟩
  rw [← hshown]
  exact hlater

end CommandLine

end CommandFront
