import CommandFront.Proofs.Phrase

/-!
# Scanning a phrase

What a scan makes of the tokens of one valid phrase: it checks the value that was on its way, notes
what the phrase gives, and fails only where a flag is given twice.

The scan reads a command line token by token, and a phrase may take one token or two, with several
flags in one cluster. So the proof has two halves: what the first token looks like from outside,
which the shape of the phrase tells, and what the scan does at a token of this shape. A value on its
way is checked only at the next token, so what a scan has noted is said of the scan after that
check.

- `Scan.noteAll`: notes what several flags are given.
- `Phrase.scanned`: where the scan of a phrase ends; its last value may still be on its way.
- `Phrase.scanned_settle`: once that value is checked, all that the phrase gives is noted.
- `Phrase.shape`: the shape of the first token of a phrase.
- `Phrase.step_word`: the step at that token.
-/

namespace CommandFront

/-! ## The shape of tokens -/

namespace Token

/-- A name without the equals sign is in front of the first one. -/
theorem takeWhile_name {name : OsText} (h : equalsSign ∉ name) (rest : OsText) :
    (name ++ rest).takeWhile (· != equalsSign) = name ++ rest.takeWhile (· != equalsSign) :=
  List.takeWhile_append_of_pos fun _ hg => bne_iff_ne.mpr fun he => h (he ▸ hg)

/-- What comes from the first equals sign on does not depend on the name before it. -/
theorem dropWhile_name {name : OsText} (h : equalsSign ∉ name) (rest : OsText) :
    (name ++ rest).dropWhile (· != equalsSign) = rest.dropWhile (· != equalsSign) :=
  List.dropWhile_append_of_pos fun _ hg => bne_iff_ne.mpr fun he => h (he ▸ hg)

/-- Two hyphens and a name are a long spelling without a value. -/
theorem ofText_long {name : OsText} (hname : name ≠ []) (h : equalsSign ∉ name) :
    ofText (hyphen :: hyphen :: name) = .long name none := by
  have htake := takeWhile_name h []
  have hdrop := dropWhile_name h []
  rw [List.append_nil] at htake hdrop
  simp [ofText, hname, ofLong, htake, hdrop]

/-- Two hyphens, a name and a value after the equals sign are a long spelling with that value. -/
theorem ofText_long_equals {name : OsText} (h : equalsSign ∉ name) (value : OsText) :
    ofText (hyphen :: hyphen :: (name ++ equalsSign :: value)) = .long name (some value) := by
  have htake := takeWhile_name h (equalsSign :: value)
  have hdrop := dropWhile_name h (equalsSign :: value)
  simp [ofText, ofLong, htake, hdrop]

/-- One hyphen and letters are a cluster. -/
theorem ofText_cluster {letters : OsText} (hletters : letters ≠ [])
    (hhead : letters.head? ≠ some hyphen) : ofText (hyphen :: letters) = .cluster letters := by
  cases letters with
  | nil => exact absurd rfl hletters
  | cons first rest =>
    have hne : first ≠ hyphen := fun he => hhead (he ▸ rfl)
    simp [ofText, hne]

/-- A text is taken for an operand exactly if it is a lone hyphen or starts with none. -/
theorem ofText_eq_plain_iff {value : String} :
    ofText (OsText.ofString value) = .plain (OsText.ofString value)
      ↔ value = "-" ∨ value.toList.head? ≠ some '-' := by
  rw [← String.toList_inj]
  unfold OsText.ofString
  match value.toList with
  | [] => simp [ofText]
  | [c] => simp [ofText, Decidable.em]
  | c :: d :: rest =>
    by_cases hc : c = '-'
    · subst hc
      by_cases hd : d = '-'
      · by_cases hrest : rest = []
        · simp [ofText, hyphen, hd, hrest]
        · simp [ofText, hyphen, hd, hrest, ofLong]
      · simp [ofText, hyphen, hd]
    · simp [ofText, hyphen, hc]

end Token

/-! ## States of a scan -/

namespace Scan

/-- The next token of the level may open a phrase. -/
structure Ready (s : Scan) : Prop where
  not_trailing : s.trailing = false
  not_awaiting : s.isAwaiting = false

/-- Notes what several flags are given. Each may come once. -/
def noteAll (s : Scan) : List (Flag × FlagContent) → Except ArgumentError Scan
  | [] => .ok s
  | (flag, content) :: rest =>
    if s.has flag then .error (.repeated flag) else (s.note flag.name content).noteAll rest

/-- Two lists of flags are noted one after the other. -/
theorem noteAll_append (s : Scan) (l₁ l₂ : List (Flag × FlagContent)) :
    s.noteAll (l₁ ++ l₂) = s.noteAll l₁ >>= fun t => t.noteAll l₂ := by
  induction l₁ generalizing s with
  | nil => rfl
  | cons given rest ih =>
    obtain ⟨flag, content⟩ := given
    rw [List.cons_append, noteAll, noteAll]
    split
    · rfl
    · exact ih _

/-- A switch that is turned on is noted like any flag. -/
theorem turnOn_eq (s : Scan) (flag : Flag) :
    s.turnOn flag = s.noteAll [(flag, .toggle true)] := rfl

/-- A value in Unicode is noted as it is. -/
theorem assign_ofString (s : Scan) (flag : Flag) (value : String) :
    s.assign flag (.ofString value) = s.noteAll [(flag, .text value)] := by
  rw [assign, noteText, OsText.toString?_ofString]
  rfl

theorem settle_of_pending_eq_none {s : Scan} (h : s.pending = none) : s.settle = .ok s := by
  rw [settle, h]

/-- Noting leaves all else as it is. -/
theorem noteAll_frame {s t : Scan} {l : List (Flag × FlagContent)} (h : s.noteAll l = .ok t) :
    t.pending = s.pending ∧ t.trailing = s.trailing ∧ t.positional = s.positional := by
  induction l generalizing s with
  | nil =>
    cases h
    exact ⟨rfl, rfl, rfl⟩
  | cons given rest ih =>
    obtain ⟨flag, content⟩ := given
    rw [noteAll] at h
    split at h
    · cases h
    · have hframe := ih h
      exact hframe

/-- Settling lets nothing wait, and leaves the separator as it is. -/
theorem settle_frame {s t : Scan} (h : s.settle = .ok t) :
    t.pending = none ∧ t.trailing = s.trailing ∧ t.positional = s.positional := by
  have hnote : ∀ {name : String} {value : OsText},
      Scan.noteText { s with pending := none } name value = .ok t →
        t.pending = none ∧ t.trailing = s.trailing ∧ t.positional = s.positional := by
    intro name value hok
    unfold noteText at hok
    split at hok
    · cases hok
      exact ⟨rfl, rfl, rfl⟩
    · cases hok
  unfold settle at h
  split at h
  case h_1 hnone =>
    cases h
    exact ⟨hnone, rfl, rfl⟩
  case h_2 => cases h
  case h_3 =>
    unfold assign at h
    split at h
    · cases h
    · exact hnote h
  case h_4 => exact hnote h

/-- A scan that is ready stays so when its last value is checked. -/
theorem Ready.settle {s t : Scan} (hs : s.Ready) (h : s.settle = .ok t) : t.Ready := by
  obtain ⟨hpending, htrailing, -⟩ := settle_frame h
  exact ⟨htrailing.trans hs.not_trailing, by rw [isAwaiting, hpending]⟩

/-- Noting flags leaves a scan ready. -/
theorem Ready.noteAll {s t : Scan} (hs : s.Ready) {l : List (Flag × FlagContent)}
    (h : s.noteAll l = .ok t) : t.Ready := by
  obtain ⟨hpending, htrailing, -⟩ := noteAll_frame h
  exact ⟨htrailing.trans hs.not_trailing, by rw [isAwaiting, hpending]; exact hs.not_awaiting⟩

/-- Takes the value of a flag. One that is a token of its own is checked later. -/
def accept (s : Scan) (flag : Flag) (joint : Joint) (value : String) : Except ArgumentError Scan :=
  match joint with
  | .apart => .ok { s with pending := some (.supplied flag (.ofString value)) }
  | _ => s.noteAll [(flag, .text value)]

/-- What has been noted needs no further check. -/
theorem noteAll_settle {s : Scan} (h : s.pending = none) (l : List (Flag × FlagContent)) :
    (s.noteAll l >>= settle) = s.noteAll l := by
  cases hnote : s.noteAll l with
  | error e => rfl
  | ok t =>
    obtain ⟨hpending, -⟩ := noteAll_frame hnote
    exact settle_of_pending_eq_none (hpending.trans h)

/-- A value that is taken is noted, whether it comes with its flag or as a token of its own. -/
theorem accept_settle {s : Scan} (h : s.pending = none) (flag : Flag) (joint : Joint)
    (value : String) :
    (s.accept flag joint value >>= settle) = s.noteAll [(flag, .text value)] := by
  cases joint with
  | equals => exact noteAll_settle h _
  | adjacent => exact noteAll_settle h _
  | apart =>
    have hself : { s with pending := none } = s := by rw [← h]
    show Scan.assign { s with pending := none } flag (.ofString value) = _
    rw [hself, assign_ofString]

/-- After a value has been taken, the next token of the level may open a phrase. -/
theorem Ready.accept {s t : Scan} (hs : s.Ready) {flag : Flag} {joint : Joint} {value : String}
    (h : s.accept flag joint value = .ok t) : t.Ready := by
  cases joint with
  | equals => exact hs.noteAll h
  | adjacent => exact hs.noteAll h
  | apart =>
    cases h
    exact ⟨hs.not_trailing, rfl⟩

end Scan

/-! ## Steps by the shape of the token -/

namespace Scan

variable {level : Level} {s : Scan} {token : OsText}

/-- After the separator the scan of a level takes no token. -/
theorem step_of_trailing (hs : s.trailing = true) : s.step level token = .ok none := by
  rw [step, hs]
  rfl

/-- The separator is taken, and nothing is taken after it. -/
theorem step_of_separator (hs : s.trailing = false) :
    s.step level Token.separator.toText = .ok (some { s with trailing := true }) := by
  rw [step, hs]
  rfl

/-- A long spelling is looked up on the level. -/
theorem step_of_long (hs : s.trailing = false) {name : OsText} {value : Option OsText}
    (h : Token.ofText token = .long name value) :
    s.step level token = some <$> s.long level name value := by
  rw [step, hs, h]
  rfl

/-- A cluster is read letter by letter. -/
theorem step_of_cluster (hs : s.trailing = false) {letters : OsText}
    (h : Token.ofText token = .cluster letters) :
    s.step level token = some <$> s.cluster level letters := by
  rw [step, hs, h]
  rfl

/-- A flag that awaits a value takes the next operand for it. -/
theorem step_of_awaiting (hs : s.trailing = false) {text : OsText}
    (h : Token.ofText token = .plain text) {flag : Flag}
    (hpending : s.pending = some (.awaiting flag)) :
    s.step level token = .ok (some { s with pending := some (.supplied flag text) }) := by
  rw [step, hs, h, hpending]
  rfl

/-- An operand that no flag awaits ends the scan of a level. -/
theorem step_of_plain (hs : s.Ready) {text : OsText} (h : Token.ofText token = .plain text) :
    s.step level token = .ok none := by
  have hfree := hs.not_awaiting
  simp only [step, hs.not_trailing, h]
  cases hpending : s.pending with
  | none => rfl
  | some pending =>
    cases pending with
    | awaiting flag =>
      rw [isAwaiting, hpending] at hfree
      cases hfree
    | supplied flag value => rfl
    | positional name value => rfl

/-- A token that is left to the caller is a plain one, where no flag awaits its value. -/
theorem plain_of_step_eq_none (hs : s.trailing = false) (h : s.step level token = .ok none) :
    s.Ready ∧ Token.ofText token = .plain token := by
  cases hshape : Token.ofText token with
  | separator => simp [step, hs, hshape] at h
  | long name value =>
    rw [step_of_long hs hshape] at h
    obtain ⟨_, -, ⟨⟩⟩ := map_eq_ok_iff.mp h
  | cluster letters =>
    rw [step_of_cluster hs hshape] at h
    obtain ⟨_, -, ⟨⟩⟩ := map_eq_ok_iff.mp h
  | plain text =>
    have htext : text = token := by
      rw [← Token.toText_ofText token, hshape]
      rfl
    refine ⟨⟨hs, Bool.eq_false_iff.mpr fun hawaiting => ?_⟩, congrArg Token.plain htext⟩
    unfold isAwaiting at hawaiting
    split at hawaiting
    case h_1 flag hpending =>
      -- a flag that awaits its value takes the token
      rw [step_of_awaiting hs hshape hpending] at h
      cases h
    case h_2 => cases hawaiting

end Scan

/-! ## One phrase -/

namespace Phrase

/-- Where the scan of a phrase ends, from a state in which nothing is on its way. -/
def scanned (p : Phrase) (s : Scan) : Except ArgumentError Scan :=
  match p with
  | long flag _ => s.noteAll [(flag, .toggle true)]
  | longValue flag _ joint value => s.accept flag joint value
  | letters switches => s.noteAll (toggles switches)
  | lettersValue switches _ flag joint value =>
    s.noteAll (toggles switches) >>= fun t => t.accept flag joint value

variable {level : Level} {s t : Scan} {p : Phrase}

/-- Once its last value is checked, a phrase has given all that it gives. -/
theorem scanned_settle (h : s.pending = none) :
    (p.scanned s >>= Scan.settle) = s.noteAll p.given := by
  cases p with
  | long flag name => exact Scan.noteAll_settle h _
  | longValue flag name joint value => exact Scan.accept_settle h flag joint value
  | letters switches => exact Scan.noteAll_settle h _
  | lettersValue switches letter flag joint value =>
    rw [given, Scan.noteAll_append]
    cases hnote : s.noteAll (toggles switches) with
    | error e => simp only [scanned, hnote]; rfl
    | ok t =>
      obtain ⟨hpending, -⟩ := Scan.noteAll_frame hnote
      simp only [scanned, hnote]
      exact Scan.accept_settle (hpending.trans h) flag joint value

/-- After a phrase the scan is ready for the next one. -/
theorem ready_of_scanned (hs : s.Ready) (h : p.scanned s = .ok t) : t.Ready := by
  cases p with
  | long flag name => exact hs.noteAll h
  | longValue flag name joint value => exact hs.accept h
  | letters switches => exact hs.noteAll h
  | lettersValue switches letter flag joint value =>
    obtain ⟨u, hnote, haccept⟩ := bind_eq_ok_iff.mp h
    exact (hs.noteAll hnote).accept haccept

end Phrase

/-! ## Clusters -/

namespace Scan

variable {level : Level} {s : Scan}

/-- A cluster begins with the check of what is on its way. -/
theorem cluster_eq_settle_bind {c : Char} {flag : Flag} (h : level.short? c = some flag)
    (rest : OsText) : s.cluster level (.scalar c :: rest)
      = s.settle >>= fun t => t.cluster level (.scalar c :: rest) := by
  cases hsettle : s.settle with
  | error e =>
    simp only [cluster, h, hsettle]
    cases flag.kind <;> rfl
  | ok t =>
    -- a state that has been settled is settled again without effect
    have hself : t.settle = .ok t := settle_of_pending_eq_none (settle_frame hsettle).1
    show s.cluster level (.scalar c :: rest) = t.cluster level (.scalar c :: rest)
    simp only [cluster, h, hsettle, hself]

/-- The switches at the front of a cluster are noted one by one. -/
theorem cluster_spelled (hlevel : level.Distinct) {switches : List (Char × Flag)}
    (hswitches : Phrase.SwitchesOf level switches) (h : s.pending = none) (rest : OsText) :
    s.cluster level (Phrase.spelled switches ++ rest)
      = s.noteAll (Phrase.toggles switches) >>= fun t => t.cluster level rest := by
  induction switches generalizing s with
  | nil => rfl
  | cons first others ih =>
    obtain ⟨c, flag⟩ := first
    obtain ⟨⟨hmem, hkind, hshort⟩, hothers⟩ := Phrase.switchesOf_cons.mp hswitches
    have hfind : level.short? c = some flag := hlevel.short?_eq_some_iff.mpr ⟨hmem, hshort⟩
    show s.cluster level (.scalar c :: (Phrase.spelled others ++ rest)) = _
    simp only [cluster, hfind, hkind, settle_of_pending_eq_none h]
    show (s.turnOn flag >>= fun t => t.cluster level (Phrase.spelled others ++ rest)) = _
    show _ = s.noteAll ((flag, .toggle true) :: Phrase.toggles others) >>= _
    rw [turnOn, noteAll]
    split
    · rfl
    · exact ih hothers h

/-- A value at the end of a cluster is taken as it is joined to its letter. -/
theorem cluster_value (hlevel : level.Distinct) {flag : Flag} {c : Char} (hmem : flag ∈ level)
    (hkind : flag.kind = .value) (hshort : flag.short = some c) (h : s.pending = none)
    {joint : Joint} {value : String} (hfits : joint.Fits value) :
    s.cluster level (joint.word [.scalar c] value)
      = if joint = .apart then .ok (s.await flag) else s.accept flag joint value := by
  have hfind : level.short? c = some flag := hlevel.short?_eq_some_iff.mpr ⟨hmem, hshort⟩
  have hattached : ∀ rest, s.cluster level (.scalar c :: rest) = s.attached flag rest := by
    intro rest
    simp only [cluster, hfind, hkind, settle_of_pending_eq_none h]
    rfl
  cases joint with
  | equals =>
    refine (hattached _).trans ?_
    exact assign_ofString s flag value
  | adjacent =>
    -- the text is not empty and its first character is no equals sign, so all of it is the value
    obtain ⟨hne, hhead⟩ := hfits
    refine (hattached _).trans ?_
    show s.attached flag (.ofString value) = s.noteAll [(flag, .text value)]
    rw [← assign_ofString]
    rw [Ne, ← String.toList_inj] at hne
    unfold OsText.ofString
    cases htext : value.toList with
    | nil => exact absurd htext hne
    | cons d rest =>
      have hd : d ≠ '=' := fun he => hhead (by rw [htext, he]; rfl)
      simp [attached, Token.equalsSign, hd]
  | apart => exact hattached _

end Scan

/-! ## The tokens of a phrase -/

theorem Joint.word_append (joint : Joint) (front stem : OsText) (value : String) :
    joint.word (front ++ stem) value = front ++ joint.word stem value := by
  cases joint with
  | equals => exact List.append_assoc ..
  | adjacent => exact List.append_assoc ..
  | apart => rfl

/-- Takes the value of a flag as far as the token goes that spells the flag. -/
def Scan.begin (s : Scan) (flag : Flag) (joint : Joint) (value : String) :
    Except ArgumentError Scan :=
  if joint = .apart then .ok (s.await flag) else s.accept flag joint value

namespace Phrase

variable {level : Level} {s : Scan} {p : Phrase}

/-- Where the scan of the first token of a phrase ends, from a state in which nothing is on its
way. -/
def begun (p : Phrase) (s : Scan) : Except ArgumentError Scan :=
  match p with
  | long flag _ => s.noteAll [(flag, .toggle true)]
  | longValue flag _ joint value => s.begin flag joint value
  | letters switches => s.noteAll (toggles switches)
  | lettersValue switches _ flag joint value =>
    s.noteAll (toggles switches) >>= fun t => t.begin flag joint value

/-- A long spelling of a flag is looked up as that flag. -/
theorem LongOf.long?_eq {flag : Flag} {name : String} (h : LongOf level flag name)
    (hlevel : level.Distinct) :
    (OsText.ofString name).toString?.bind level.long? = some flag := by
  rw [OsText.toString?_ofString]
  exact hlevel.long?_eq_some_iff.mpr ⟨h.mem, h.name_mem⟩

theorem LongOf.ne_nil {flag : Flag} {name : String} (h : LongOf level flag name)
    (hlevel : level.Distinct) : OsText.ofString name ≠ [] := by
  have hne := hlevel.named flag h.mem name h.name_mem
  rw [Ne, ← String.toList_inj] at hne
  exact fun hnil => hne (List.map_eq_nil_iff.mp hnil)

/-- No long spelling of a valid phrase has an equals sign in it. -/
theorem LongOf.equalsSign_not_mem {flag : Flag} {name : String} (h : LongOf level flag name) :
    Token.equalsSign ∉ OsText.ofString name := by
  intro hmem
  obtain ⟨c, hc, heq⟩ := List.mem_map.mp hmem
  exact h.no_equals (Glyph.scalar.inj heq ▸ hc)

theorem word_lettersValue (switches : List (Char × Flag)) (letter : Char) (flag : Flag)
    (joint : Joint) (value : String) :
    (lettersValue switches letter flag joint value).word
      = Token.hyphen :: (spelled switches ++ joint.word [.scalar letter] value) := by
  show joint.word ((Token.hyphen :: spelled switches) ++ [.scalar letter]) value = _
  rw [Joint.word_append, List.cons_append]

/-- The shape of the first token. -/
def shape : Phrase → Token
  | long _ name => .long (.ofString name) none
  | longValue _ name joint value =>
    .long (.ofString name) (if joint = .equals then some (.ofString value) else none)
  | letters switches => .cluster (spelled switches)
  | lettersValue switches letter _ joint value =>
    .cluster (spelled switches ++ joint.word [.scalar letter] value)

/-- However a value is joined to its letter, the letter is the first of what is left of the
cluster. -/
theorem exists_word_eq_cons (letter : Char) (joint : Joint) (value : String) :
    ∃ rest, joint.word [.scalar letter] value = .scalar letter :: rest := by
  cases joint <;> exact ⟨_, rfl⟩

/-- The first token of a valid phrase has the shape that the phrase gives it. -/
theorem ofText_word (hlevel : level.Distinct) (h : p.Valid level) :
    Token.ofText p.word = p.shape := by
  cases p with
  | long flag name =>
    obtain ⟨hlong, -⟩ := h
    exact Token.ofText_long (hlong.ne_nil hlevel) hlong.equalsSign_not_mem
  | longValue flag name joint value =>
    obtain ⟨hlong, -, hjoint, -⟩ := h
    cases joint with
    | equals => exact Token.ofText_long_equals hlong.equalsSign_not_mem (OsText.ofString value)
    | adjacent => exact absurd rfl hjoint
    | apart => exact Token.ofText_long (hlong.ne_nil hlevel) hlong.equalsSign_not_mem
  | letters switches =>
    obtain ⟨hne, hhead, -⟩ := h
    exact Token.ofText_cluster (fun hnil => hne (List.map_eq_nil_iff.mp hnil)) hhead
  | lettersValue switches letter flag joint value =>
    obtain ⟨hhead, -⟩ := h
    obtain ⟨rest, hrest⟩ := exists_word_eq_cons letter joint value
    rw [word_lettersValue, shape, hrest]
    refine Token.ofText_cluster (by simp) ?_
    rw [List.head?_append] at hhead ⊢
    exact hhead

/-- The letters of a phrase begin with one that the level knows, so what is on its way is checked
before they are scanned. -/
theorem cluster_of_letters (hlevel : level.Distinct) {switches : List (Char × Flag)}
    (hswitches : SwitchesOf level switches) {rest : OsText}
    (hrest : switches = [] → ∃ c others flag, rest = .scalar c :: others
      ∧ level.short? c = some flag) :
    s.cluster level (spelled switches ++ rest)
      = s.settle >>= fun t => t.noteAll (toggles switches) >>= fun u => u.cluster level rest := by
  have hfirst : ∃ c others flag, spelled switches ++ rest = .scalar c :: others
      ∧ level.short? c = some flag := by
    -- without switches the cluster begins with the letter of the value
    cases switches with
    | nil => exact hrest rfl
    | cons first others =>
      obtain ⟨hmem, -, hshort⟩ := hswitches first List.mem_cons_self
      exact ⟨first.1, spelled others ++ rest, first.2, rfl,
        hlevel.short?_eq_some_iff.mpr ⟨hmem, hshort⟩⟩
  obtain ⟨c, others, flag, hletters, hfind⟩ := hfirst
  rw [hletters, Scan.cluster_eq_settle_bind hfind, ← hletters]
  cases hsettle : s.settle with
  | error e => rfl
  | ok t => exact Scan.cluster_spelled hlevel hswitches (Scan.settle_frame hsettle).1 rest

/-- A cluster that ends in a flag with a value turns its switches on and begins with the value. -/
theorem step_lettersValue (hlevel : level.Distinct) {switches : List (Char × Flag)} {letter : Char}
    {flag : Flag} {joint : Joint} {value : String}
    (h : (lettersValue switches letter flag joint value).Valid level) (hs : s.Ready) :
    s.step level (lettersValue switches letter flag joint value).word
      = some <$> (s.settle >>= (lettersValue switches letter flag joint value).begun) := by
  have htoken : Token.ofText (lettersValue switches letter flag joint value).word
      = .cluster (spelled switches ++ joint.word [.scalar letter] value) := ofText_word hlevel h
  obtain ⟨-, hswitches, hmem, hkind, hshort, hfits⟩ := h
  have hfind : level.short? letter = some flag := hlevel.short?_eq_some_iff.mpr ⟨hmem, hshort⟩
  obtain ⟨rest, hrest⟩ := exists_word_eq_cons letter joint value
  rw [Scan.step_of_cluster hs.not_trailing htoken,
    cluster_of_letters hlevel hswitches fun _ => ⟨letter, rest, flag, hrest, hfind⟩]
  cases hsettle : s.settle with
  | error e => rfl
  | ok t =>
    show some <$> (t.noteAll (toggles switches) >>= _)
      = some <$> (t.noteAll (toggles switches) >>= _)
    cases hnote : t.noteAll (toggles switches) with
    | error e => rfl
    | ok u =>
      -- the switches are noted, so nothing is on its way when the letter of the value comes
      have hpending : u.pending = none :=
        (Scan.noteAll_frame hnote).1.trans (Scan.settle_frame hsettle).1
      exact congrArg _ (Scan.cluster_value hlevel hmem hkind hshort hpending hfits)

/-- The first token of a valid phrase is scanned after the check of what is on its way. -/
theorem step_word (hlevel : level.Distinct) (h : p.Valid level) (hs : s.Ready) :
    s.step level p.word = some <$> (s.settle >>= p.begun) := by
  have htoken := ofText_word hlevel h
  cases p with
  | long flag name =>
    obtain ⟨hlong, hkind⟩ := h
    rw [Scan.step_of_long hs.not_trailing htoken]
    simp only [Scan.long, hlong.long?_eq hlevel, hkind]
    rfl
  | longValue flag name joint value =>
    obtain ⟨hlong, hkind, hjoint, hfits⟩ := h
    rw [Scan.step_of_long hs.not_trailing htoken]
    cases joint with
    | equals =>
      simp only [Scan.long, hlong.long?_eq hlevel, hkind, if_pos, Scan.assign_ofString]
      rfl
    | adjacent => exact absurd rfl hjoint
    | apart =>
      simp only [Scan.long, hlong.long?_eq hlevel, hkind]
      rfl
  | letters switches =>
    obtain ⟨hne, -, hswitches⟩ := h
    rw [Scan.step_of_cluster hs.not_trailing htoken]
    have hcluster : s.cluster level (spelled switches ++ []) = _ :=
      cluster_of_letters hlevel hswitches fun hnil => absurd hnil hne
    rw [List.append_nil] at hcluster
    rw [hcluster]
    congr 2
    funext t
    show _ = t.noteAll (toggles switches)
    cases t.noteAll (toggles switches) <;> rfl
  | lettersValue switches letter flag joint value => exact step_lettersValue hlevel h hs

end Phrase

end CommandFront
