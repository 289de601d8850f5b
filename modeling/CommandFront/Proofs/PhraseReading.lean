import CommandFront.Proofs.PhraseScan

/-!
# Reading phrases off a scan

A scan that succeeds has met the tokens of valid phrases and nothing else.

That the tokens of valid phrases are accepted is the easier half. This is the other one: whatever a
scan accepts was such a list of phrases, so that statements about phrases are statements about all
command lines. A token may end a phrase or leave a value on its way; in the second case the next
token completes the phrase. So the walk is cut into steps, each read as a phrase or as the opening
of one.

- `Opening`: what one token does where a phrase may begin: it is a phrase, or the first token of
  one that goes on with a value.
- `Walk`: a scan past some tokens.
- `Walk.exists_phrases`: the tokens of a walk that can be settled are those of valid phrases.
-/

namespace CommandFront

/-! ## The shape of a token that was read -/

namespace Token

variable {token : OsText}

/-- Only one token is read as the separator. -/
theorem eq_separator (h : ofText token = .separator) : token = separator.toText := by
  rw [← toText_ofText token, h]

/-- The name of a long spelling ends at the first equals sign. -/
theorem equalsSign_not_mem {name : OsText} {value : Option OsText}
    (h : ofText token = .long name value) : equalsSign ∉ name := by
  unfold ofText at h
  split at h
  · split at h
    · cases h
    split at h
    · cases h
    split at h
    · cases h
    · cases h
      intro hmem
      have hne := List.all_eq_true.mp List.all_takeWhile _ hmem
      exact bne_iff_ne.mp hne rfl
  · cases h

/-- A cluster has a letter, and none starts with a hyphen. -/
theorem cluster_ne_nil {letters : OsText} (h : ofText token = .cluster letters) :
    letters ≠ [] ∧ letters.head? ≠ some hyphen := by
  unfold ofText at h
  split at h
  · split at h
    · cases h
    split at h
    case isTrue hsecond =>
      cases h
      exact ⟨List.cons_ne_nil _ _, fun heq => hsecond (Option.some.inj heq)⟩
    split at h <;> cases h
  · cases h

end Token

namespace Scan

variable {level : Level} {s t : Scan}

/-! ## What a step leaves -/

/-- Two states agree on the separator and on the positional. -/
def SameMode (s t : Scan) : Prop :=
  t.trailing = s.trailing ∧ t.positional = s.positional

theorem SameMode.trans {u : Scan} (hst : SameMode s t) (htu : SameMode t u) : SameMode s u :=
  ⟨htu.1.trans hst.1, htu.2.trans hst.2⟩

/-- Checking a value does not change what the scan takes next. -/
theorem sameMode_of_settle (h : s.settle = .ok t) : SameMode s t :=
  (settle_frame h).2

theorem not_awaiting_of_pending_eq_none (h : s.pending = none) : s.isAwaiting = false := by
  rw [isAwaiting, h]

/-- A switch that is turned on after the check of what was on its way. -/
theorem settle_turnOn_frame {u : Scan} {flag : Flag} (hs : s.settle = .ok t)
    (h : t.turnOn flag = .ok u) : u.isAwaiting = false ∧ SameMode s u := by
  rw [turnOn_eq] at h
  obtain ⟨hpending, hmode⟩ := noteAll_frame h
  exact ⟨not_awaiting_of_pending_eq_none (hpending.trans (settle_frame hs).1),
    (sameMode_of_settle hs).trans hmode⟩

/-- A value that is assigned is text. -/
theorem text_of_assign {flag : Flag} {value : OsText} (h : s.assign flag value = .ok t) :
    ∃ text, value = .ofString text ∧ s.noteAll [(flag, .text text)] = .ok t := by
  cases htext : value.toString? with
  | none =>
    simp only [assign, noteText, htext] at h
    split at h <;> cases h
  | some text =>
    obtain rfl := OsText.toString?_eq_some_iff.mp htext
    rw [assign_ofString] at h
    exact ⟨text, rfl, h⟩

/-- A value that is assigned after the check of what was on its way. -/
theorem settle_assign_frame {u : Scan} {flag : Flag} {value : OsText} (hs : s.settle = .ok t)
    (h : t.assign flag value = .ok u) :
    (∃ text, value = .ofString text) ∧ u.isAwaiting = false ∧ SameMode s u := by
  obtain ⟨text, rfl, hnote⟩ := text_of_assign h
  obtain ⟨hpending, hmode⟩ := noteAll_frame hnote
  exact ⟨⟨text, rfl⟩, not_awaiting_of_pending_eq_none (hpending.trans (settle_frame hs).1),
    (sameMode_of_settle hs).trans hmode⟩

end Scan

/-! ## Clusters -/

/-- What the letters of a cluster are whose scan succeeds, and whether a flag awaits its value
after them. -/
inductive ClusterReading (level : Level) (letters : OsText) (next : Scan) : Prop where
  | closed (switches : List (Char × Flag)) : Phrase.SwitchesOf level switches →
      letters = Phrase.spelled switches → next.isAwaiting = false →
      ClusterReading level letters next
  | joined (switches : List (Char × Flag)) (c : Char) (flag : Flag) (joint : Joint)
      (value : String) : Phrase.SwitchesOf level switches → flag ∈ level → flag.kind = .value →
      flag.short = some c → joint.Fits value → joint.tail value = [] →
      letters = Phrase.spelled switches ++ joint.word [.scalar c] value →
      next.isAwaiting = false → ClusterReading level letters next
  | awaiting (switches : List (Char × Flag)) (c : Char) (flag : Flag) :
      Phrase.SwitchesOf level switches → flag ∈ level → flag.kind = .value →
      flag.short = some c → letters = Phrase.spelled switches ++ [.scalar c] →
      next.pending = some (.awaiting flag) → ClusterReading level letters next

namespace ClusterReading

variable {level : Level} {letters : OsText} {next : Scan}

/-- A switch in front of a cluster is one more of its letters. -/
theorem cons (h : ClusterReading level letters next) {c : Char} {flag : Flag} (hmem : flag ∈ level)
    (hkind : flag.kind = .switch) (hshort : flag.short = some c) :
    ClusterReading level (.scalar c :: letters) next := by
  have hmore : ∀ {switches : List (Char × Flag)}, Phrase.SwitchesOf level switches →
      Phrase.SwitchesOf level ((c, flag) :: switches) :=
    fun hswitches => Phrase.switchesOf_cons.mpr ⟨⟨hmem, hkind, hshort⟩, hswitches⟩
  cases h with
  | closed switches hswitches heq hfree =>
    exact .closed ((c, flag) :: switches) (hmore hswitches) (by rw [heq]; rfl) hfree
  | joined switches d g joint value hswitches hg hgkind hgshort hfits htail heq hfree =>
    exact .joined ((c, flag) :: switches) d g joint value (hmore hswitches) hg hgkind hgshort hfits
      htail (by rw [heq]; rfl) hfree
  | awaiting switches d g hswitches hg hgkind hgshort heq hpending =>
    exact .awaiting ((c, flag) :: switches) d g (hmore hswitches) hg hgkind hgshort
      (by rw [heq]; rfl) hpending

end ClusterReading

namespace Scan

variable {level : Level} {s next : Scan}

/-- A value that follows its letter in a cluster. -/
theorem attached_reading {t : Scan} {flag : Flag} {c : Char} {rest : OsText} (hmem : flag ∈ level)
    (hkind : flag.kind = .value) (hshort : flag.short = some c) (hs : s.settle = .ok t)
    (h : t.attached flag rest = .ok next) :
    ClusterReading level (.scalar c :: rest) next ∧ SameMode s next := by
  have hnone : Phrase.SwitchesOf level [] := Phrase.switchesOf_nil
  cases rest with
  | nil =>
    cases h
    have hmode := sameMode_of_settle hs
    exact ⟨.awaiting [] c flag hnone hmem hkind hshort rfl rfl, hmode⟩
  | cons d value =>
    rw [attached] at h
    split at h
    case isTrue hequals =>
      obtain ⟨⟨text, rfl⟩, hfree, hmode⟩ := settle_assign_frame hs h
      refine ⟨.joined [] c flag .equals text hnone hmem hkind hshort trivial rfl ?_ hfree, hmode⟩
      rw [hequals]
      rfl
    case isFalse hequals =>
      obtain ⟨⟨text, htext⟩, hfree, hmode⟩ := settle_assign_frame hs h
      -- the branch of the equals sign was not taken, and there is a first character
      have hfits : Joint.adjacent.Fits text := by
        constructor
        · rintro rfl
          cases htext
        · intro hhead
          have hfirst : (OsText.ofString text).head? = some Token.equalsSign := by
            rw [OsText.ofString, List.head?_map, hhead]
            rfl
          rw [← htext] at hfirst
          exact hequals (Option.some.inj hfirst)
      refine ⟨.joined [] c flag .adjacent text hnone hmem hkind hshort hfits rfl ?_ hfree, hmode⟩
      rw [htext]
      rfl

/-- A scanned cluster is made of the letters of switches, perhaps before one of a flag with a
value. -/
theorem cluster_reading {letters : OsText} (hs : s.isAwaiting = false)
    (h : s.cluster level letters = .ok next) :
    ClusterReading level letters next ∧ SameMode s next := by
  induction letters generalizing s with
  | nil =>
    cases h
    exact ⟨.closed [] Phrase.switchesOf_nil rfl hs, rfl, rfl⟩
  | cons g rest ih =>
    cases g with
    | stray bytes => cases h
    | scalar c =>
      rw [cluster] at h
      split at h
      case h_1 => cases h
      case h_2 flag hfind =>
        obtain ⟨hmem, hshort⟩ := of_find?_eq_some hfind
        cases hkind : flag.kind with
        | switch =>
          rw [hkind] at h
          obtain ⟨t, hsettle, h⟩ := bind_eq_ok_iff.mp h
          obtain ⟨u, hturn, h⟩ := bind_eq_ok_iff.mp h
          obtain ⟨hfree, hmode⟩ := settle_turnOn_frame hsettle hturn
          obtain ⟨hrest, hlast⟩ := ih hfree h
          exact ⟨hrest.cons hmem hkind hshort, hmode.trans hlast⟩
        | value =>
          rw [hkind] at h
          obtain ⟨t, hsettle, h⟩ := bind_eq_ok_iff.mp h
          exact attached_reading hmem hkind hshort hsettle h

end Scan

/-! ## One step -/

/-- What a token does where a phrase may begin. -/
inductive Opening (level : Level) (token : OsText) (next : Scan) : Prop where
  /-- The token is a phrase. -/
  | phrase (p : Phrase) : p.Valid level → p.word = token → p.tail = [] →
      next.isAwaiting = false → Opening level token next
  /-- The token spells a flag that awaits its value, and a fitting value completes the phrase. -/
  | awaiting (flag : Flag) (complete : String → Phrase) :
      next.pending = some (.awaiting flag) →
      (∀ value, Joint.apart.Fits value → (complete value).Valid level
        ∧ (complete value).word = token ∧ (complete value).tail = [OsText.ofString value]) →
      Opening level token next

namespace Scan

variable {level : Level} {s next : Scan} {token : OsText}

/-- A long spelling has what is on its way checked. -/
theorem settle_of_long {name : OsText} {value : Option OsText}
    (h : s.long level name value = .ok next) : ∃ t, s.settle = .ok t := by
  rw [long] at h
  split at h
  · cases h
  split at h
  case h_2 => cases h
  all_goals
    obtain ⟨t, hsettle, -⟩ := bind_eq_ok_iff.mp h
    exact ⟨t, hsettle⟩

/-- A long spelling that is accepted is a phrase, or opens one. -/
theorem opening_of_long {name : OsText} {value : Option OsText}
    (htoken : Token.ofText token = .long name value) (h : s.long level name value = .ok next) :
    Opening level token next ∧ SameMode s next := by
  have htext := Token.toText_ofText token
  rw [htoken] at htext
  have hequals := Token.equalsSign_not_mem htoken
  rw [long] at h
  split at h
  case h_1 => cases h
  case h_2 flag hfind =>
    obtain ⟨text, hname, hflag⟩ := Option.bind_eq_some_iff.mp hfind
    obtain rfl := OsText.toString?_eq_some_iff.mp hname
    obtain ⟨hmem, hspelling⟩ := of_find?_eq_some hflag
    have hlong : Phrase.LongOf level flag text := by
      refine ⟨hmem, hspelling, fun hmem => hequals ?_⟩
      exact List.mem_map_of_mem hmem
    cases hkind : flag.kind with
    | switch =>
      rw [hkind] at h
      cases value with
      | none =>
        obtain ⟨t, hsettle, hturn⟩ := bind_eq_ok_iff.mp h
        obtain ⟨hfree, hmode⟩ := settle_turnOn_frame hsettle hturn
        exact ⟨.phrase (.long flag text) ⟨hlong, hkind⟩ htext rfl hfree, hmode⟩
      | some value => cases h
    | value =>
      rw [hkind] at h
      cases value with
      | none =>
        obtain ⟨t, hsettle, hawait⟩ := bind_eq_ok_iff.mp h
        have hmode := sameMode_of_settle hsettle
        cases hawait
        refine ⟨.awaiting flag (.longValue flag text .apart) rfl fun value hfits => ?_, hmode⟩
        exact ⟨⟨hlong, hkind, Joint.noConfusion, hfits⟩, htext, rfl⟩
      | some value =>
        obtain ⟨t, hsettle, hassign⟩ := bind_eq_ok_iff.mp h
        obtain ⟨⟨content, rfl⟩, hfree, hmode⟩ := settle_assign_frame hsettle hassign
        have hvalid : (Phrase.longValue flag text .equals content).Valid level :=
          ⟨hlong, hkind, Joint.noConfusion, trivial⟩
        exact ⟨.phrase _ hvalid htext rfl hfree, hmode⟩

/-- The first letter of a cluster has what is on its way checked. -/
theorem settle_of_cluster {letters : OsText} (hne : letters ≠ [])
    (h : s.cluster level letters = .ok next) : ∃ t, s.settle = .ok t := by
  cases letters with
  | nil => exact absurd rfl hne
  | cons g rest =>
    cases g with
    | stray bytes => cases h
    | scalar c =>
      rw [cluster] at h
      split at h
      · cases h
      split at h
      all_goals
        obtain ⟨t, hsettle, -⟩ := bind_eq_ok_iff.mp h
        exact ⟨t, hsettle⟩

/-- A cluster that is accepted is a phrase, or opens one. -/
theorem opening_of_cluster (hs : s.isAwaiting = false) {letters : OsText}
    (htoken : Token.ofText token = .cluster letters) (h : s.cluster level letters = .ok next) :
    Opening level token next ∧ SameMode s next := by
  have htext : Token.hyphen :: letters = token := by
    rw [← Token.toText_ofText token, htoken]
    rfl
  obtain ⟨hne, hhead⟩ := Token.cluster_ne_nil htoken
  obtain ⟨hreading, hmode⟩ := cluster_reading hs h
  refine ⟨?_, hmode⟩
  cases hreading with
  | closed switches hswitches heq hfree =>
    subst heq
    have hsome : switches ≠ [] := by
      rintro rfl
      exact hne rfl
    exact .phrase (.letters switches) ⟨hsome, hhead, hswitches⟩ htext rfl hfree
  | joined switches c flag joint value hswitches hmem hkind hshort hfits htail heq hfree =>
    have hfront : (Phrase.spelled switches ++ [Glyph.scalar c]).head? ≠ some Token.hyphen := by
      rw [heq, List.head?_append] at hhead
      rw [List.head?_append]
      cases joint <;> exact hhead
    refine .phrase (.lettersValue switches c flag joint value)
      ⟨hfront, hswitches, hmem, hkind, hshort, hfits⟩ ?_ htail hfree
    rw [← htext, heq]
    exact joint.word_append (Token.hyphen :: Phrase.spelled switches) [.scalar c] value
  | awaiting switches c flag hswitches hmem hkind hshort heq hpending =>
    subst heq
    refine .awaiting flag (.lettersValue switches c flag .apart) hpending fun value hfits => ?_
    exact ⟨⟨hhead, hswitches, hmem, hkind, hshort, hfits⟩, htext, rfl⟩

/-- A token that is scanned where a phrase may begin. -/
theorem opening_of_step (hs : s.Ready) (hne : token ≠ Token.separator.toText)
    (h : s.step level token = .ok (some next)) :
    Opening level token next ∧ SameMode s next ∧ ∃ t, s.settle = .ok t := by
  cases hshape : Token.ofText token with
  | separator => exact absurd (Token.eq_separator hshape) hne
  | long name value =>
    rw [step_of_long hs.not_trailing hshape] at h
    obtain ⟨_, hlong, ⟨⟩⟩ := map_eq_ok_iff.mp h
    obtain ⟨hopening, hmode⟩ := opening_of_long hshape hlong
    exact ⟨hopening, hmode, settle_of_long hlong⟩
  | cluster letters =>
    rw [step_of_cluster hs.not_trailing hshape] at h
    obtain ⟨_, hcluster, ⟨⟩⟩ := map_eq_ok_iff.mp h
    obtain ⟨hopening, hmode⟩ := opening_of_cluster hs.not_awaiting hshape hcluster
    have hsettle := settle_of_cluster (Token.cluster_ne_nil hshape).1 hcluster
    exact ⟨hopening, hmode, hsettle⟩
  | plain text =>
    rw [step_of_plain hs hshape] at h
    cases h

/-- A flag that awaits its value cannot be settled. -/
theorem not_awaiting_of_settle (h : s.settle = .ok t) : s.isAwaiting = false := by
  cases hawaiting : s.isAwaiting with
  | false => rfl
  | true =>
    unfold isAwaiting at hawaiting
    split at hawaiting
    case h_1 flag hpending =>
      rw [settle, hpending] at h
      cases h
    case h_2 => cases hawaiting

/-- A token that is scanned where a flag awaits its value is that value. -/
theorem supplied_of_step {flag : Flag} (htrailing : s.trailing = false)
    (hpending : s.pending = some (.awaiting flag)) (hne : token ≠ Token.separator.toText)
    (h : s.step level token = .ok (some next)) :
    Token.ofText token = .plain token
      ∧ next = { s with pending := some (.supplied flag token) } := by
  -- a flag that awaits its value cannot be settled, and every spelling of a flag settles first
  have hunsettled : ∀ t, s.settle ≠ .ok t := by
    intro t hsettle
    rw [settle, hpending] at hsettle
    cases hsettle
  cases hshape : Token.ofText token with
  | separator => exact absurd (Token.eq_separator hshape) hne
  | long name value =>
    rw [step_of_long htrailing hshape] at h
    obtain ⟨_, hlong, ⟨⟩⟩ := map_eq_ok_iff.mp h
    obtain ⟨t, hsettle⟩ := settle_of_long hlong
    exact absurd hsettle (hunsettled t)
  | cluster letters =>
    rw [step_of_cluster htrailing hshape] at h
    obtain ⟨_, hcluster, ⟨⟩⟩ := map_eq_ok_iff.mp h
    obtain ⟨t, hsettle⟩ := settle_of_cluster (Token.cluster_ne_nil hshape).1 hcluster
    exact absurd hsettle (hunsettled t)
  | plain text =>
    have htext : text = token := by
      rw [← Token.toText_ofText token, hshape]
      rfl
    rw [step_of_awaiting htrailing hshape hpending] at h
    cases h
    rw [htext]
    exact ⟨rfl, rfl⟩

/-- A token other than the separator leaves the separator and the positional as they are. -/
theorem sameMode_of_step (htrailing : s.trailing = false)
    (hne : token ≠ Token.separator.toText) (h : s.step level token = .ok (some next)) :
    SameMode s next := by
  cases hawaiting : s.isAwaiting with
  | false =>
    obtain ⟨-, hmode, -⟩ := opening_of_step ⟨htrailing, hawaiting⟩ hne h
    exact hmode
  | true =>
    unfold isAwaiting at hawaiting
    split at hawaiting
    case h_1 flag hpending =>
      obtain ⟨-, rfl⟩ := supplied_of_step htrailing hpending hne h
      exact ⟨rfl, rfl⟩
    case h_2 => cases hawaiting

end Scan

/-! ## Walks -/

/-- A scan past some tokens, each of them open where no flag awaits its value. -/
inductive Walk (level : Level) (opens : OsText → Prop) : Scan → List OsText → Scan → Prop where
  | nil (s : Scan) : Walk level opens s [] s
  | cons {s next t : Scan} {token : OsText} {rest : List OsText} :
      (s.isAwaiting = false → opens token) → s.step level token = .ok (some next) →
      Walk level opens next rest t → Walk level opens s (token :: rest) t

namespace Walk

variable {level : Level} {opens : OsText → Prop} {s t u : Scan} {tokens : List OsText}

/-- If what is on its way after a walk is accepted, then so was what was on its way before. -/
theorem settle_eq_ok (h : Walk level opens s tokens t) (hs : s.Ready)
    (hseparator : Token.separator.toText ∉ tokens) (ht : t.settle = .ok u) :
    ∃ v, s.settle = .ok v := by
  cases h with
  | nil => exact ⟨u, ht⟩
  | cons _ hstep _ =>
    obtain ⟨hne, -⟩ := List.ne_and_not_mem_of_not_mem_cons hseparator
    obtain ⟨-, -, hsettle⟩ := Scan.opening_of_step hs hne.symm hstep
    exact hsettle

/-- The tokens of a walk are those of valid phrases; a flag that awaits its value at the outset
gets it first. -/
theorem exists_phrases (h : Walk level opens s tokens t) (hs : s.trailing = false)
    (hseparator : Token.separator.toText ∉ tokens) (ht : t.settle = .ok u) :
    (s.isAwaiting = false → ∃ phrases : List Phrase, tokens = Phrase.written phrases
        ∧ ∀ p ∈ phrases, p.Valid level ∧ opens p.word)
      ∧ ∀ flag, s.pending = some (.awaiting flag) → ∃ (value : String) (phrases : List Phrase),
        Joint.apart.Fits value ∧ tokens = OsText.ofString value :: Phrase.written phrases
          ∧ ∀ p ∈ phrases, p.Valid level ∧ opens p.word := by
  induction h with
  | nil s =>
    constructor
    · exact fun _ => ⟨[], rfl, fun p hp => absurd hp List.not_mem_nil⟩
    · -- a flag that still awaits its value at the end is refused
      intro flag hpending
      rw [Scan.settle, hpending] at ht
      cases ht
  | @cons s next t token rest hopen hstep hwalk ih =>
    obtain ⟨hne, hrest⟩ := List.ne_and_not_mem_of_not_mem_cons hseparator
    have hnext := (Scan.sameMode_of_step hs hne.symm hstep).1.trans hs
    obtain ⟨hready, hvalue⟩ := ih hnext hrest ht
    constructor
    · -- the token opens a phrase, whose value, if it is to come, heads the rest of the walk
      intro hfree
      obtain ⟨hopening, -, -⟩ := Scan.opening_of_step ⟨hs, hfree⟩ hne.symm hstep
      cases hopening with
      | phrase p hvalid hword htail hfree' =>
        obtain ⟨phrases, rfl, hphrases⟩ := hready hfree'
        refine ⟨p :: phrases, ?_, List.forall_mem_cons.mpr ⟨⟨hvalid, ?_⟩, hphrases⟩⟩
        · rw [Phrase.written_cons, Phrase.tokens, hword, htail]
          rfl
        · rw [hword]
          exact hopen hfree
      | awaiting flag complete hpending hcomplete =>
        obtain ⟨value, phrases, hfits, rfl, hphrases⟩ := hvalue flag hpending
        obtain ⟨hvalid, hword, htail⟩ := hcomplete value hfits
        refine ⟨complete value :: phrases, ?_, List.forall_mem_cons.mpr ⟨⟨hvalid, ?_⟩, hphrases⟩⟩
        · rw [Phrase.written_cons, Phrase.tokens, hword, htail]
          rfl
        · rw [hword]
          exact hopen hfree
    · -- the token is the value; that it is text shows when the value is settled
      intro flag hpending
      obtain ⟨hplain, rfl⟩ := Scan.supplied_of_step hs hpending hne.symm hstep
      obtain ⟨v, hsettle⟩ := hwalk.settle_eq_ok ⟨hnext, rfl⟩ hrest ht
      obtain ⟨value, rfl, -⟩ := Scan.text_of_assign hsettle
      obtain ⟨phrases, rfl, hphrases⟩ := hready rfl
      exact ⟨value, phrases, Token.ofText_eq_plain_iff.mp hplain, rfl, hphrases⟩

end Walk

/-- The separator, where it comes last. -/
def Token.ending (closed : Bool) : List OsText :=
  if closed then [separator.toText] else []

namespace Scan

variable {level : Level} {s t : Scan} {token : OsText}

/-- A token that the scan of a level takes is read by it. -/
theorem read_of_step_eq_some (h : s.step level token = .ok (some t)) :
    s.read level token = .ok t := by
  rw [read, h]
  rfl

/-- A token that it leaves is taken for an operand. -/
theorem read_of_step_eq_none (h : s.step level token = .ok none) :
    s.read level token = s.take token := by
  rw [read, h]
  rfl

/-- An operand is taken exactly if there is a place for it and the value before it is in order. -/
theorem take_eq_ok_iff :
    s.take token = .ok t ↔ ∃ name settled, s.positional = some name ∧ s.settle = .ok settled
      ∧ t = { settled with pending := some (.positional name token), positional := none } := by
  unfold take
  cases s.positional with
  | none => simp
  | some name =>
    show (s.settle >>= _) = _ ↔ _
    rw [bind_eq_ok_iff]
    constructor
    · rintro ⟨settled, hsettle, ⟨⟩⟩
      exact ⟨name, settled, rfl, hsettle, rfl⟩
    · rintro ⟨_, settled, ⟨⟩, hsettle, rfl⟩
      exact ⟨settled, hsettle, rfl⟩

/-- Once a positional has been taken, no other one may come. -/
theorem take_frame (h : s.take token = .ok t) :
    t.trailing = s.trailing ∧ t.positional = none := by
  obtain ⟨name, settled, -, hsettle, rfl⟩ := take_eq_ok_iff.mp h
  exact ⟨(settle_frame hsettle).2.1, rfl⟩

theorem take_ne_ok (hs : s.positional = none) : s.take token ≠ .ok t := by
  intro h
  obtain ⟨name, -, hsome, -⟩ := take_eq_ok_iff.mp h
  rw [hs] at hsome
  cases hsome

/-- A step at the separator. -/
theorem eq_of_step_separator (hs : s.trailing = false)
    (h : s.step level Token.separator.toText = .ok (some t)) : t = { s with trailing := true } := by
  rw [step_of_separator hs] at h
  exact (Option.some.inj (Except.ok.inj h)).symm

/-- A level that takes no positional is scanned by a walk, and then the separator may come. -/
theorem walk_of_foldlM_read {tokens : List OsText} (htrailing : s.trailing = false)
    (hpositional : s.positional = none) (h : tokens.foldlM (read level) s = .ok t) :
    ∃ front closed u, tokens = front ++ Token.ending closed ∧ Token.separator.toText ∉ front
      ∧ Walk level (fun _ => True) s front u ∧ t = { u with trailing := closed } := by
  induction tokens generalizing s with
  | nil =>
    cases h
    exact ⟨[], false, _, rfl, List.not_mem_nil, .nil _, by rw [← htrailing]⟩
  | cons token rest ih =>
    rw [List.foldlM_cons] at h
    obtain ⟨next, hread, htail⟩ := bind_eq_ok_iff.mp h
    obtain ⟨result, hstep, hresult⟩ := bind_eq_ok_iff.mp hread
    cases result with
    | none =>
      -- a token that no phrase begins with would be the positional, and the level takes none
      exact absurd hresult (take_ne_ok hpositional)
    | some scanned =>
      cases hresult
      by_cases hne : token = Token.separator.toText
      · subst hne
        obtain rfl := eq_of_step_separator htrailing hstep
        cases rest with
        | nil =>
          cases htail
          exact ⟨[], true, s, rfl, List.not_mem_nil, .nil _, rfl⟩
        | cons first others =>
          obtain ⟨_, hfirst, -⟩ := bind_eq_ok_iff.mp htail
          rw [read_of_step_eq_none (step_of_trailing rfl)] at hfirst
          exact absurd hfirst (take_ne_ok hpositional)
      · obtain ⟨hsame, hsame'⟩ := sameMode_of_step htrailing hne hstep
        obtain ⟨front, closed, u, rfl, hfront, hwalk, ht⟩ :=
          ih (hsame.trans htrailing) (hsame'.trans hpositional) htail
        have hmem := List.not_mem_cons_of_ne_of_not_mem (Ne.symm hne) hfront
        exact ⟨token :: front, closed, u, rfl, hmem, .cons (fun _ => trivial) hstep hwalk, ht⟩

/-- Whether the separator has been met has no part in checking a value. -/
theorem settle_with_trailing (s : Scan) (closed : Bool) :
    Scan.settle { s with trailing := closed }
      = (fun t => { t with trailing := closed }) <$> s.settle := by
  have hnote : ∀ (name : String) (value : OsText),
      Scan.noteText { s with pending := none, trailing := closed } name value
        = (fun t => { t with trailing := closed })
          <$> Scan.noteText { s with pending := none } name value := by
    intro name value
    unfold noteText
    cases value.toString? <;> rfl
  have hassign : ∀ (flag : Flag) (value : OsText),
      Scan.assign { s with pending := none, trailing := closed } flag value
        = (fun t => { t with trailing := closed })
          <$> Scan.assign { s with pending := none } flag value := by
    intro flag value
    show (if s.has flag then _ else _) = _ <$> (if s.has flag then _ else _)
    cases s.has flag with
    | true => rfl
    | false => exact hnote flag.name value
  unfold settle
  cases hpending : s.pending with
  | none =>
    show Except.ok _ = Except.ok _
    rw [← hpending]
  | some pending =>
    cases pending with
    | awaiting flag => rfl
    | supplied flag value => exact hassign flag value
    | positional name value => exact hnote name value

end Scan

/-- Tokens that a level without a positional accepts are those of valid phrases, and perhaps the
separator. -/
theorem Level.exists_phrases_of_scan {level : Level} {tokens : List OsText} {s : Scan}
    (h : level.scan none tokens = .ok s) :
    ∃ (phrases : List Phrase) (closed : Bool),
      tokens = Phrase.written phrases ++ Token.ending closed ∧ ∀ p ∈ phrases, p.Valid level := by
  obtain ⟨t, hfold, hsettle⟩ := bind_eq_ok_iff.mp h
  obtain ⟨front, closed, u, rfl, hfront, hwalk, rfl⟩ := Scan.walk_of_foldlM_read rfl rfl hfold
  rw [Scan.settle_with_trailing] at hsettle
  obtain ⟨v, hv, -⟩ := map_eq_ok_iff.mp hsettle
  obtain ⟨hphrases, -⟩ := hwalk.exists_phrases rfl hfront hv
  obtain ⟨phrases, rfl, hvalid⟩ := hphrases rfl
  exact ⟨phrases, closed, rfl, fun p hp => (hvalid p hp).1⟩

end CommandFront
