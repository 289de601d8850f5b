import CommandFront.Proofs.PhraseScan

/-!
# Scanning phrases

A loop over the tokens of valid phrases goes from one phrase to the next.

There are two such loops. One scans the level of a command, and no token ends it; the other one
looks for the sub-command on the root level and ends at its name. Both go on in one way at a token
of a phrase, so this is shown for any loop that goes on as the scan does. A value at the end of a
phrase is checked only when the next token comes, and the induction over phrases takes that check in
at the beginning of each phrase.

- `Loops`: a loop that takes a token at a time, as long as the token is open to it.
- `Loops.phrase`, `Loops.phrases`: such a loop gets past the tokens of phrases with what they give.
- `Phrase.foldlM_scanned_settle`: and what they give is noted in their order.
- `Level.scan_written`: so the scan of a level is the noting of what its phrases give.
-/

namespace CommandFront

/-- A loop goes on with the next token wherever the scan gets past one. It may stop at a token
that is not open, unless a flag awaits its value there. -/
def Loops {β : Type} (level : Level) (opens : OsText → Prop)
    (loop : Scan → List OsText → Except ArgumentError β) : Prop :=
  ∀ (s : Scan) (token : OsText) (rest : List OsText) (next : Except ArgumentError Scan),
    (s.isAwaiting = false → opens token) → s.step level token = some <$> next →
      loop s (token :: rest) = next >>= fun t => loop t rest

namespace Loops

variable {β : Type} {level : Level} {opens : OsText → Prop}
  {loop : Scan → List OsText → Except ArgumentError β} {s : Scan}

/-- The loop over a level below the root stops nowhere. -/
theorem foldlM_read (level : Level) :
    Loops level (fun _ => True) fun s tokens => tokens.foldlM (Scan.read level) s := by
  intro s token rest next _ hstep
  have hread : s.read level token = next := by
    rw [Scan.read, hstep]
    cases next <;> rfl
  show (s.read level token >>= fun t => rest.foldlM (Scan.read level) t) = _
  rw [hread]

/-- The loop takes what is left of a value after the token that spells its flag. -/
theorem tail (h : Loops level opens loop) (hs : s.Ready) (flag : Flag) {joint : Joint}
    {value : String} (hfits : joint.Fits value) (rest : List OsText) :
    (s.begin flag joint value >>= fun t => loop t (joint.tail value ++ rest))
      = s.accept flag joint value >>= fun t => loop t rest := by
  cases joint with
  | equals => rfl
  | adjacent => rfl
  | apart =>
    have htoken := Token.ofText_eq_plain_iff.mpr hfits
    have htrailing : (s.await flag).trailing = false := hs.not_trailing
    refine h (s.await flag) (.ofString value) rest (s.accept flag .apart value) nofun ?_
    exact Scan.step_of_awaiting htrailing htoken rfl

/-- The loop gets past the tokens of a valid phrase, as its scan does. -/
theorem phrase (h : Loops level opens loop) (hlevel : level.Distinct) (hs : s.Ready) {p : Phrase}
    (hp : p.Valid level) (hopen : opens p.word) (rest : List OsText) :
    loop s (p.tokens ++ rest)
      = s.settle >>= fun t => p.scanned t >>= fun u => loop u rest := by
  have hword := h s p.word (p.tail ++ rest) _ (fun _ => hopen) (Phrase.step_word hlevel hp hs)
  refine hword.trans ?_
  cases hsettle : s.settle with
  | error e => rfl
  | ok t =>
    have ht := hs.settle hsettle
    show (p.begun t >>= fun u => loop u (p.tail ++ rest)) = p.scanned t >>= fun u => loop u rest
    cases p with
    | long flag name => rfl
    | longValue flag name joint value => exact h.tail ht flag hp.2.2.2 rest
    | letters switches => rfl
    | lettersValue switches letter flag joint value =>
      rw [Phrase.begun, Phrase.scanned]
      cases hnote : t.noteAll (Phrase.toggles switches) with
      | error e => rfl
      | ok u => exact h.tail (ht.noteAll hnote) flag hp.2.2.2.2.2 rest

/-- The loop gets past the tokens of valid phrases, one phrase after the other. -/
theorem phrases (h : Loops level opens loop) (hlevel : level.Distinct) (hs : s.Ready)
    {phrases : List Phrase} (hvalid : ∀ p ∈ phrases, p.Valid level ∧ opens p.word)
    (rest : List OsText) :
    loop s (Phrase.written phrases ++ rest)
      = phrases.foldlM (fun t p => t.settle >>= p.scanned) s >>= fun t => loop t rest := by
  induction phrases generalizing s with
  | nil => rfl
  | cons p others ih =>
    obtain ⟨hp, hopen⟩ := hvalid p List.mem_cons_self
    have hothers := fun q hq => hvalid q (List.mem_cons_of_mem p hq)
    -- what is on its way after the phrase is settled when the next one begins
    rw [Phrase.written_cons, List.append_assoc, h.phrase hlevel hs hp hopen, List.foldlM_cons]
    cases hsettle : s.settle with
    | error e => rfl
    | ok t =>
      show (p.scanned t >>= _) = (p.scanned t >>= _) >>= _
      cases hscanned : p.scanned t with
      | error e => rfl
      | ok u => exact ih (Phrase.ready_of_scanned (hs.settle hsettle) hscanned) hothers

end Loops

/-- Once its last value is checked, the scan of phrases has noted all that they give. -/
theorem Phrase.foldlM_scanned_settle (s : Scan) (phrases : List Phrase) :
    (phrases.foldlM (fun t p => t.settle >>= p.scanned) s >>= Scan.settle)
      = s.settle >>= fun t => t.noteAll (occurrences phrases) := by
  induction phrases generalizing s with
  | nil => exact (bind_pure s.settle).symm
  | cons p others ih =>
    rw [List.foldlM_cons, occurrences_cons]
    cases hsettle : s.settle with
    | error e => rfl
    | ok t =>
      show ((p.scanned t >>= _) >>= _) = t.noteAll (p.given ++ occurrences others)
      -- the next phrase settles the last value of this one, which completes what this one gives
      rw [Scan.noteAll_append, ← scanned_settle (Scan.settle_frame hsettle).1]
      cases p.scanned t with
      | error e => rfl
      | ok u => exact ih u

/-- After phrases, the next token of the level may open another one. -/
theorem Phrase.ready_of_foldlM_scanned {s t : Scan} (hs : s.Ready) {phrases : List Phrase}
    (h : phrases.foldlM (fun t p => t.settle >>= p.scanned) s = .ok t) : t.Ready := by
  induction phrases generalizing s with
  | nil =>
    cases h
    exact hs
  | cons p others ih =>
    rw [List.foldlM_cons] at h
    obtain ⟨v, hword, hrest⟩ := bind_eq_ok_iff.mp h
    obtain ⟨u, hsettle, hscanned⟩ := bind_eq_ok_iff.mp hword
    exact ih (ready_of_scanned (hs.settle hsettle) hscanned) hrest

theorem Scan.ready_empty : (∅ : Scan).Ready :=
  ⟨rfl, rfl⟩

/-- The scan of a level is the noting of what its phrases give. -/
theorem Level.scan_written {level : Level} (hlevel : level.Distinct) {phrases : List Phrase}
    (hvalid : ∀ p ∈ phrases, p.Valid level) :
    level.scan none (Phrase.written phrases) = (∅ : Scan).noteAll (Phrase.occurrences phrases) := by
  have hphrases := (Loops.foldlM_read level).phrases hlevel Scan.ready_empty
    (fun p hp => ⟨hvalid p hp, trivial⟩) []
  simp only [List.append_nil] at hphrases
  have hfold := Phrase.foldlM_scanned_settle ∅ phrases
  show ((Phrase.written phrases).foldlM (Scan.read level) ∅ >>= Scan.settle) = _
  rw [hphrases]
  show ((phrases.foldlM (fun t p => t.settle >>= p.scanned) ∅ >>= pure) >>= Scan.settle) = _
  rw [bind_pure, hfold]
  rfl

end CommandFront
