import CommandFront.Proofs.LevelEntries
import CommandFront.Proofs.PhraseLoops
import CommandFront.Proofs.PhraseReading

/-!
# What follows a sub-command

The tokens after the name of a sub-command are phrases of its level and, where the level takes one,
an operand. The separator may come last, or right before an operand that comes last.

Two levels below the root are of interest. The level of a command takes no operand, and that of the
help command takes one, which is its topic. The operand may be followed by more flags, and it may
stand after the separator, where everything is an operand. These are the three forms that the tokens
of a level can have, and the form tells where its phrases end and what is held under the name of the
operand.

- `Remainder`: such tokens as data.
- `Scan.Reads`: how a scan of a level below the root gets past its tokens.
- `Level.exists_remainder`: the tokens that a level accepts are of this form.
- `Level.foldlM_read_written`: the separator at the end changes nothing that is held.
- `Remainder.Valid.lookup_operand`: the operand is held under the name that the level has for it.
-/

namespace CommandFront

/-- What follows a sub-command. -/
inductive Remainder where
  /-- Phrases, perhaps with the separator after them. -/
  | flags (phrases : List Phrase) (closed : Bool)
  /-- An operand among phrases, perhaps with the separator after them. -/
  | operand (front : List Phrase) (text : String) (back : List Phrase) (closed : Bool)
  /-- Phrases, the separator and an operand. -/
  | escaped (front : List Phrase) (text : String)
deriving DecidableEq, Repr

namespace Remainder

/-- The tokens. -/
def tokens : Remainder → List OsText
  | flags phrases closed => Phrase.written phrases ++ Token.ending closed
  | operand front text back closed =>
    Phrase.written front ++ .ofString text :: (Phrase.written back ++ Token.ending closed)
  | escaped front text => Phrase.written front ++ [Token.separator.toText, .ofString text]

/-- The operand, if there is one. -/
def operand? : Remainder → Option String
  | flags _ _ => none
  | operand _ text _ _ => some text
  | escaped _ text => some text

/-- The phrases are those of the level, which takes the operand; among phrases, it does not look
like a flag. -/
def Valid (level : Level) (positional : Option String) : Remainder → Prop
  | flags phrases _ => ∀ p ∈ phrases, p.Valid level
  | operand front text back _ =>
    positional.isSome ∧ Joint.apart.Fits text ∧ (∀ p ∈ front, p.Valid level)
      ∧ ∀ p ∈ back, p.Valid level
  | escaped front _ => positional.isSome ∧ ∀ p ∈ front, p.Valid level

instance (level : Level) (positional : Option String) (w : Remainder) :
    Decidable (w.Valid level positional) := by
  unfold Valid
  split <;> infer_instance

end Remainder

/-! ## Reading the tokens off a scan -/

/-- A walk leaves the separator and the positional as they are. -/
theorem Walk.sameMode {level : Level} {opens : OsText → Prop} {s t : Scan} {tokens : List OsText}
    (h : Walk level opens s tokens t) (hs : s.trailing = false)
    (hseparator : Token.separator.toText ∉ tokens) : Scan.SameMode s t := by
  induction h with
  | nil s => exact ⟨rfl, rfl⟩
  | cons hopen hstep hwalk ih =>
    obtain ⟨hne, hrest⟩ := List.ne_and_not_mem_of_not_mem_cons hseparator
    have hmode := Scan.sameMode_of_step hs hne.symm hstep
    exact hmode.trans (ih (hmode.1.trans hs) hrest)

namespace Scan

variable {level : Level} {s t u v : Scan} {token : OsText}

/-- How a scan of a level below the root gets past its tokens. -/
inductive Reads (level : Level) (s : Scan) (tokens : List OsText) (t : Scan) : Prop where
  | flags (front : List OsText) (closed : Bool) (u : Scan) :
      tokens = front ++ Token.ending closed → Token.separator.toText ∉ front →
      Walk level (fun _ => True) s front u → t = { u with trailing := closed } →
      Reads level s tokens t
  | operand (front : List OsText) (token : OsText) (back : List OsText) (closed : Bool)
      (u v w : Scan) :
      tokens = front ++ token :: (back ++ Token.ending closed) →
      Token.separator.toText ∉ front → Token.separator.toText ∉ back →
      Walk level (fun _ => True) s front u → u.step level token = .ok none →
      u.take token = .ok v → Walk level (fun _ => True) v back w →
      t = { w with trailing := closed } → Reads level s tokens t
  | escaped (front : List OsText) (token : OsText) (u : Scan) :
      tokens = front ++ [Token.separator.toText, token] → Token.separator.toText ∉ front →
      Walk level (fun _ => True) s front u → Scan.take { u with trailing := true } token = .ok t →
      Reads level s tokens t

theorem Reads.cons {next : Scan} {tokens : List OsText} (h : Reads level next tokens t)
    (hne : token ≠ Token.separator.toText) (hstep : s.step level token = .ok (some next)) :
    Reads level s (token :: tokens) t := by
  have hopen : s.isAwaiting = false → True := fun _ => trivial
  have hmore : ∀ {front : List OsText}, Token.separator.toText ∉ front →
      Token.separator.toText ∉ token :: front :=
    fun hfront => List.not_mem_cons_of_ne_of_not_mem hne.symm hfront
  cases h with
  | flags front closed u htokens hfront hwalk ht =>
    rw [htokens]
    exact .flags (token :: front) closed u rfl (hmore hfront) (.cons hopen hstep hwalk) ht
  | operand front other back closed u v w htokens hfront hback hwalk hother htake hwalk' ht =>
    rw [htokens]
    exact .operand (token :: front) other back closed u v w rfl (hmore hfront) hback
      (.cons hopen hstep hwalk) hother htake hwalk' ht
  | escaped front other u htokens hfront hwalk htake =>
    rw [htokens]
    exact .escaped (token :: front) other u rfl (hmore hfront) (.cons hopen hstep hwalk) htake

theorem reads_of_foldlM_read {tokens : List OsText} (hs : s.trailing = false)
    (h : tokens.foldlM (read level) s = .ok t) : Reads level s tokens t := by
  induction tokens generalizing s with
  | nil =>
    cases h
    exact .flags [] false _ rfl List.not_mem_nil (.nil _) (by rw [← hs])
  | cons token rest ih =>
    rw [List.foldlM_cons] at h
    obtain ⟨next, hread, htail⟩ := bind_eq_ok_iff.mp h
    obtain ⟨result, hstep, hresult⟩ := bind_eq_ok_iff.mp hread
    cases result with
    | none =>
      -- the token is the operand, and no other one may follow
      obtain ⟨htrailing, hpositional⟩ := take_frame hresult
      obtain ⟨back, closed, w, rfl, hback, hwalk, ht⟩ :=
        walk_of_foldlM_read (htrailing.trans hs) hpositional htail
      exact .operand [] token back closed s _ w rfl List.not_mem_nil hback (.nil s) hstep hresult
        hwalk ht
    | some scanned =>
      cases hresult
      by_cases hne : token = Token.separator.toText
      · subst hne
        obtain rfl := eq_of_step_separator hs hstep
        cases rest with
        | nil =>
          cases htail
          exact .flags [] true s rfl List.not_mem_nil (.nil s) rfl
        | cons operand others =>
          -- after the separator each token is an operand, so there is one at most
          obtain ⟨taken, htake, hothers⟩ := bind_eq_ok_iff.mp htail
          rw [read_of_step_eq_none (step_of_trailing rfl)] at htake
          cases others with
          | nil =>
            cases hothers
            exact .escaped [] operand s rfl List.not_mem_nil (.nil s) htake
          | cons second others =>
            obtain ⟨_, hsecond, -⟩ := bind_eq_ok_iff.mp hothers
            obtain ⟨htrailing, hpositional⟩ := take_frame htake
            rw [read_of_step_eq_none (step_of_trailing htrailing)] at hsecond
            exact absurd hsecond (take_ne_ok hpositional)
      · exact (ih ((sameMode_of_step hs hne hstep).1.trans hs) htail).cons hne hstep

/-- An operand on its way is text if it can be settled. -/
theorem text_of_settle_positional {name : String} {value : OsText}
    (h : Scan.settle { s with pending := some (.positional name value), positional := none }
      = .ok t) :
    ∃ text, value = .ofString text := by
  cases htext : value.toString? with
  | none =>
    simp only [settle, noteText, htext] at h
    cases h
  | some text => exact ⟨text, OsText.toString?_eq_some_iff.mp htext⟩

end Scan

/-- Tokens that a level accepts are phrases of the level, perhaps with an operand. -/
theorem Level.exists_remainder {level : Level} {positional : Option String} {tokens : List OsText}
    {s : Scan} (h : level.scan positional tokens = .ok s) :
    ∃ w : Remainder, w.Valid level positional ∧ w.tokens = tokens := by
  obtain ⟨t, hfold, hsettle⟩ := bind_eq_ok_iff.mp h
  have hphrases : ∀ {front : List OsText} {u v : Scan}, Token.separator.toText ∉ front →
      Walk level (fun _ => True) { positional } front u → u.settle = .ok v →
        ∃ phrases : List Phrase, front = Phrase.written phrases ∧ ∀ p ∈ phrases, p.Valid level := by
    intro front u v hfront hwalk hu
    obtain ⟨phrases, hwritten, hvalid⟩ := (hwalk.exists_phrases rfl hfront hu).1 rfl
    exact ⟨phrases, hwritten, fun p hp => (hvalid p hp).1⟩
  cases Scan.reads_of_foldlM_read rfl hfold with
  | flags front closed u htokens hfront hwalk ht =>
    subst ht
    rw [Scan.settle_with_trailing] at hsettle
    obtain ⟨v, hu, -⟩ := map_eq_ok_iff.mp hsettle
    obtain ⟨phrases, rfl, hvalid⟩ := hphrases hfront hwalk hu
    exact ⟨.flags phrases closed, hvalid, htokens.symm⟩
  | operand front token back closed u v w htokens hfront hback hwalk hstep htake hwalk' ht =>
    subst ht
    rw [Scan.settle_with_trailing] at hsettle
    obtain ⟨_, hw, -⟩ := map_eq_ok_iff.mp hsettle
    obtain ⟨htrailing, hpositional : u.positional = positional⟩ := hwalk.sameMode rfl hfront
    obtain ⟨name, settled, hname, hu, rfl⟩ := Scan.take_eq_ok_iff.mp htake
    obtain ⟨-, hplain⟩ := Scan.plain_of_step_eq_none htrailing hstep
    obtain ⟨before, rfl, hbefore⟩ := hphrases hfront hwalk hu
    -- nothing awaits its value when the operand is on its way, so phrases follow
    have hfree : settled.trailing = false := (Scan.settle_frame hu).2.1.trans htrailing
    obtain ⟨after, rfl, hafter⟩ := (hwalk'.exists_phrases hfree hback hw).1 rfl
    obtain ⟨_, hsettled⟩ := hwalk'.settle_eq_ok ⟨hfree, rfl⟩ hback hw
    obtain ⟨text, rfl⟩ := Scan.text_of_settle_positional hsettled
    refine ⟨.operand before text after closed, ⟨?_, ?_, hbefore, fun p hp => (hafter p hp).1⟩,
      htokens.symm⟩
    · rw [← hpositional, hname]
      rfl
    · exact Token.ofText_eq_plain_iff.mp hplain
  | escaped front token u htokens hfront hwalk htake =>
    obtain ⟨-, hpositional : u.positional = positional⟩ := hwalk.sameMode rfl hfront
    obtain ⟨name, settled, hname, hclosed, rfl⟩ := Scan.take_eq_ok_iff.mp htake
    rw [Scan.settle_with_trailing] at hclosed
    obtain ⟨v, hu, -⟩ := map_eq_ok_iff.mp hclosed
    obtain ⟨before, rfl, hbefore⟩ := hphrases hfront hwalk hu
    obtain ⟨text, rfl⟩ := Scan.text_of_settle_positional hsettle
    refine ⟨.escaped before text, ⟨?_, hbefore⟩, htokens.symm⟩
    rw [← hpositional, show u.positional = some name from hname]
    rfl

/-! ## Scanning the tokens -/

section Scanning

variable {level : Level} {s t : Scan}

theorem Scan.foldlM_read_ending (hs : s.Ready) (closed : Bool) :
    (Token.ending closed).foldlM (Scan.read level) s = .ok { s with trailing := closed } := by
  have htrailing : s.trailing = false := hs.not_trailing
  cases closed with
  | false =>
    show Except.ok s = _
    rw [← htrailing]
  | true =>
    have hread : s.read level Token.separator.toText = .ok { s with trailing := true } :=
      Scan.read_of_step_eq_some (Scan.step_of_separator htrailing)
    show (s.read level Token.separator.toText >>= _) = _
    rw [hread]
    rfl

/-- Phrases are noted one after the other, whether the separator comes after them or not. -/
theorem Level.foldlM_read_written (hlevel : level.Distinct) (hs : s.Ready) {phrases : List Phrase}
    (hvalid : ∀ p ∈ phrases, p.Valid level) (closed : Bool) :
    ((Phrase.written phrases ++ Token.ending closed).foldlM (Scan.read level) s >>= Scan.settle)
      = (fun t => { t with trailing := closed })
        <$> (s.settle >>= fun t => t.noteAll (Phrase.occurrences phrases)) := by
  have hphrases := (Loops.foldlM_read level).phrases hlevel hs
    (fun p hp => ⟨hvalid p hp, trivial⟩) (Token.ending closed)
  rw [← Phrase.foldlM_scanned_settle]
  refine (congrArg (· >>= Scan.settle) hphrases).trans ?_
  cases hfold : phrases.foldlM (fun t p => t.settle >>= p.scanned) s with
  | error e => rfl
  | ok t =>
    have ht := Phrase.ready_of_foldlM_scanned hs hfold
    show ((Token.ending closed).foldlM (Scan.read level) t >>= Scan.settle) = _ <$> t.settle
    rw [Scan.foldlM_read_ending ht]
    exact Scan.settle_with_trailing t closed

theorem Level.scan_flags (hlevel : level.Distinct) {phrases : List Phrase}
    (hvalid : ∀ p ∈ phrases, p.Valid level) (positional : Option String) (closed : Bool) :
    level.scan positional (Remainder.flags phrases closed).tokens
      = (fun t => { t with trailing := closed })
        <$> Scan.noteAll { positional } (Phrase.occurrences phrases) := by
  exact Level.foldlM_read_written hlevel (s := { positional }) ⟨rfl, rfl⟩ hvalid closed

/-- Noting flags leaves what is held under other names as it is. -/
theorem Scan.lookup_noteAll {l : List (Flag × FlagContent)} {name : String}
    (h : s.noteAll l = .ok t) (hname : ∀ g ∈ l, g.1.name ≠ name) :
    t.given.lookup name = s.given.lookup name := by
  induction l generalizing s with
  | nil =>
    cases h
    rfl
  | cons g rest ih =>
    obtain ⟨flag, content⟩ := g
    obtain ⟨hflag, hrest⟩ := List.forall_mem_cons.mp hname
    rw [noteAll] at h
    split at h
    case isTrue => cases h
    case isFalse =>
      have hlookup := ih h hrest
      rw [hlookup, note, AssocList.lookup_cons, if_neg (Ne.symm hflag)]

/-- The scan gets past the phrases in front, which take no positional. -/
theorem Level.foldlM_read_front (hlevel : level.Distinct) {front : List Phrase}
    (hvalid : ∀ p ∈ front, p.Valid level) {positional : Option String} {rest : List OsText}
    (h : (Phrase.written front ++ rest).foldlM (Scan.read level) { positional } = .ok t) :
    ∃ u, u.Ready ∧ rest.foldlM (Scan.read level) u = .ok t
      ∧ ∀ v, u.settle = .ok v → u.positional = positional := by
  have hready : Scan.Ready { positional } := ⟨rfl, rfl⟩
  have hphrases := (Loops.foldlM_read level).phrases hlevel hready
    (fun p hp => ⟨hvalid p hp, trivial⟩) rest
  obtain ⟨u, hfold, hrest⟩ := bind_eq_ok_iff.mp (hphrases.symm.trans h)
  refine ⟨u, Phrase.ready_of_foldlM_scanned hready hfold, hrest, fun v hsettle => ?_⟩
  have hnoted := Phrase.foldlM_scanned_settle { positional } front
  rw [hfold] at hnoted
  have hnote : Scan.noteAll { positional } (Phrase.occurrences front) = .ok v :=
    hnoted.symm.trans hsettle
  have hframe := (Scan.noteAll_frame hnote).2.2
  rw [(Scan.settle_frame hsettle).2.2] at hframe
  exact hframe

/-- What is taken is held once it is settled. -/
theorem Scan.lookup_of_take {name text : String}
    (hs : ∀ v, s.settle = .ok v → s.positional = some name) (h : s.take (.ofString text) = .ok t) :
    t.isAwaiting = false
      ∧ ∃ u, t.settle = .ok u ∧ u.given.lookup name = some (.text text) := by
  obtain ⟨found, v, hfound, hsettle, rfl⟩ := take_eq_ok_iff.mp h
  obtain rfl : name = found := Option.some.inj ((hs v hsettle).symm.trans hfound)
  refine ⟨rfl, Scan.note { v with pending := none, positional := none } name (.text text), ?_, ?_⟩
  · show Scan.noteText _ name (.ofString text) = _
    rw [noteText, OsText.toString?_ofString]
  · rw [note, AssocList.lookup_cons, if_pos rfl]

end Scanning

namespace Remainder

variable {level : Level} {w : Remainder} {s : Scan} {name : String}

/-- The operand is held under the name that the level has for it, and without one nothing is. -/
theorem Valid.lookup_operand (hw : w.Valid level (some name)) (hlevel : level.Distinct)
    (hname : ∀ f ∈ level, f.name ≠ name) (h : level.scan (some name) w.tokens = .ok s) :
    s.given.lookup name = w.operand?.map .text := by
  have hothers : ∀ {phrases : List Phrase}, (∀ p ∈ phrases, p.Valid level) →
      ∀ g ∈ Phrase.occurrences phrases, g.1.name ≠ name := by
    intro phrases hphrases g hg
    exact hname g.1 (Phrase.mem_level_of_mem_occurrences hphrases hg).1
  have hready : Scan.Ready { positional := some name } := ⟨rfl, rfl⟩
  cases w with
  | flags phrases closed =>
    rw [Level.scan_flags hlevel hw] at h
    obtain ⟨t, hnote, rfl⟩ := map_eq_ok_iff.mp h
    exact Scan.lookup_noteAll hnote (hothers hw)
  | operand front text back closed =>
    obtain ⟨-, hfits, hfront, hback⟩ := hw
    obtain ⟨_, hfold, hsettle⟩ := bind_eq_ok_iff.mp h
    obtain ⟨t, ht, hrest, hpositional⟩ := Level.foldlM_read_front hlevel hfront hfold
    obtain ⟨u, hread, hrest'⟩ := bind_eq_ok_iff.mp hrest
    have hplain := Token.ofText_eq_plain_iff.mpr hfits
    rw [Scan.read_of_step_eq_none (Scan.step_of_plain ht hplain)] at hread
    obtain ⟨hfree, noted, hnoted, hlookup⟩ := Scan.lookup_of_take hpositional hread
    have hu : u.Ready := ⟨(Scan.take_frame hread).1.trans ht.not_trailing, hfree⟩
    -- the phrases behind the operand leave it as it is
    have hlast := (Level.foldlM_read_written hlevel hu hback closed).symm.trans
      (bind_eq_ok_iff.mpr ⟨_, hrest', hsettle⟩)
    rw [hnoted] at hlast
    obtain ⟨last, hnote, rfl⟩ := map_eq_ok_iff.mp hlast
    exact (Scan.lookup_noteAll hnote (hothers hback)).trans hlookup
  | escaped front text =>
    obtain ⟨-, hfront⟩ := hw
    obtain ⟨_, hfold, hsettle⟩ := bind_eq_ok_iff.mp h
    obtain ⟨t, ht, hrest, hpositional⟩ := Level.foldlM_read_front hlevel hfront hfold
    have hseparator : t.read level Token.separator.toText = .ok { t with trailing := true } :=
      Scan.read_of_step_eq_some (Scan.step_of_separator ht.not_trailing)
    obtain ⟨closed, hread, hrest'⟩ := bind_eq_ok_iff.mp hrest
    obtain rfl := Except.ok.inj (hseparator.symm.trans hread)
    obtain ⟨last, htake, hnil⟩ := bind_eq_ok_iff.mp hrest'
    rw [Scan.read_of_step_eq_none (Scan.step_of_trailing rfl)] at htake
    have hpositional' : ∀ v, Scan.settle { t with trailing := true } = .ok v →
        t.positional = some name := by
      intro v hv
      rw [Scan.settle_with_trailing] at hv
      obtain ⟨u, hu, -⟩ := map_eq_ok_iff.mp hv
      exact hpositional u hu
    obtain ⟨-, noted, hnoted, hlookup⟩ := Scan.lookup_of_take hpositional' htake
    cases hnil
    rw [hnoted] at hsettle
    cases hsettle
    exact hlookup

end Remainder

end CommandFront
