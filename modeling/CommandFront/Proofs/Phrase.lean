import CommandFront.Arguments.Scan
import CommandFront.Proofs.FlagSpellings

/-!
# Phrases of a command line

What a user writes to give flags, as data: the tokens of a level are those of a list of phrases.

The parser is a scan over tokens with a state; what it accepts is easier to say as data. A phrase is
the smallest part of a command line that gives something: a long spelling with its value, if it
takes one, or a cluster of letters of which the last may take one. Each way to join a value to its
spelling is a case of `Joint`. A list of phrases is written as its tokens and gives what its phrases
give, in order, and these two readings of a list are compared with the scan in later modules.

- `Joint`: how a value follows the spelling of its flag.
- `Phrase`: one or two tokens that give one flag, or several by their letters.
- `Phrase.tokens`, `Phrase.given`: how a phrase is written, and what it gives to which flags.
- `Phrase.Valid`: the flags of a phrase are on a level and may be spelled as the phrase spells them.
- `Level.Distinct`: a level on which every spelling stands for one flag.
-/

namespace CommandFront

/-! ## Text -/

namespace OsText

/-- A text of the system that is valid Unicode is made of its characters. -/
theorem eq_map_scalar_of_mapM_char? {t : OsText} {chars : List Char}
    (h : t.mapM Glyph.char? = some chars) : t = chars.map .scalar := by
  induction t generalizing chars with
  | nil =>
    obtain rfl : [] = chars := Option.some.inj h
    rfl
  | cons g t ih =>
    rw [List.mapM_cons] at h
    obtain ⟨c, hc, htail⟩ := Option.bind_eq_some_iff.mp h
    obtain ⟨rest, hrest, hcons⟩ := Option.bind_eq_some_iff.mp htail
    obtain rfl : c :: rest = chars := Option.some.inj hcons
    have hg : g = .scalar c := by
      cases g with
      | scalar d => exact congrArg Glyph.scalar (Option.some.inj hc)
      | stray bytes => cases hc
    rw [hg, ih hrest, List.map_cons]

/-- A text of the system is valid Unicode exactly if it comes from a string. -/
theorem toString?_eq_some_iff {t : OsText} {s : String} :
    t.toString? = some s ↔ t = ofString s := by
  constructor
  · intro h
    obtain ⟨chars, hchars, rfl⟩ := Option.map_eq_some_iff.mp h
    rw [ofString, String.toList_ofList]
    exact eq_map_scalar_of_mapM_char? hchars
  · rintro rfl
    exact toString?_ofString s

end OsText

/-! ## Distinct levels -/

/-- Two flags share a spelling. -/
def Flag.Shares (f g : Flag) : Prop :=
  (f.short ≠ none ∧ f.short = g.short) ∨ ∃ name ∈ f.longNames, name ∈ g.longNames

namespace Level

/-- Every spelling on the level stands for one flag. -/
structure Distinct (level : Level) : Prop where
  named : ∀ f ∈ level, ∀ name ∈ f.longNames, name ≠ ""
  apart : level.Pairwise fun f g => ¬f.Shares g

variable {level : Level}

/-- On a level where spellings are distinct, a long spelling finds the one flag that has it. -/
theorem Distinct.long?_eq_some_iff (h : level.Distinct) {name : String} {f : Flag} :
    level.long? name = some f ↔ f ∈ level ∧ name ∈ f.longNames := by
  constructor
  · exact fun hfind => of_find?_eq_some hfind
  · rintro ⟨hmem, hname⟩
    refine find?_eq_some_of_pairwise h.apart hmem (decide_eq_true hname) fun g hg => ?_
    exact .inr ⟨name, of_decide_eq_true hg, hname⟩

/-- So does a letter. -/
theorem Distinct.short?_eq_some_iff (h : level.Distinct) {c : Char} {f : Flag} :
    level.short? c = some f ↔ f ∈ level ∧ f.short = some c := by
  constructor
  · exact fun hfind => of_find?_eq_some hfind
  · rintro ⟨hmem, hshort⟩
    refine find?_eq_some_of_pairwise h.apart hmem (decide_eq_true hshort) fun g hg => ?_
    have hg : g.short = some c := of_decide_eq_true hg
    exact .inl ⟨by rw [hg]; exact Option.some_ne_none c, hg.trans hshort.symm⟩

/-- So does a name. -/
theorem Distinct.get?_eq_some_iff (h : level.Distinct) {name : String} {f : Flag} :
    level.get? name = some f ↔ f ∈ level ∧ f.name = name := by
  constructor
  · exact fun hfind => of_find?_eq_some hfind
  · rintro ⟨hmem, hname⟩
    refine find?_eq_some_of_pairwise h.apart hmem (decide_eq_true hname) fun g hg => ?_
    have hg : g.name = f.name := (of_decide_eq_true hg).trans hname.symm
    exact .inr ⟨g.name, g.name_mem_longNames, hg ▸ f.name_mem_longNames⟩

/-- On a distinct level, the name of a flag tells which one it is. -/
theorem Distinct.eq_of_name_eq (h : level.Distinct) {f g : Flag} (hf : f ∈ level) (hg : g ∈ level)
    (hname : f.name = g.name) : f = g :=
  Option.some.inj <| (h.get?_eq_some_iff.mpr ⟨hf, hname⟩).symm.trans
    (h.get?_eq_some_iff.mpr ⟨hg, rfl⟩)

end Level

/-! ## Phrases -/

/-- How a value follows the spelling of its flag. -/
inductive Joint where
  /-- After an equals sign, as in `--name=value` and `-n=value`. -/
  | equals
  /-- Right after a letter, as in `-nvalue`. -/
  | adjacent
  /-- As the next token, as in `--name value` and `-n value`. -/
  | apart
deriving DecidableEq, Repr

namespace Joint

/-- The token with the spelling of the flag. -/
def word (joint : Joint) (stem : OsText) (value : String) : OsText :=
  match joint with
  | equals => stem ++ Token.equalsSign :: OsText.ofString value
  | adjacent => stem ++ OsText.ofString value
  | apart => stem

/-- The token after it, if the value is one. -/
def tail (joint : Joint) (value : String) : List OsText :=
  match joint with
  | apart => [OsText.ofString value]
  | _ => []

/-- The values that may follow in this way. A value that stands next to its letter is not empty and
does not start with an equals sign; one that is a token of its own does not look like a flag. -/
def Fits (joint : Joint) (value : String) : Prop :=
  match joint with
  | equals => True
  | adjacent => value ≠ "" ∧ value.toList.head? ≠ some '='
  | apart => value = "-" ∨ value.toList.head? ≠ some '-'

instance (joint : Joint) (value : String) : Decidable (joint.Fits value) := by
  unfold Fits
  split <;> infer_instance

end Joint

/-- One or two tokens that give flags. -/
inductive Phrase where
  /-- A switch by a long spelling, as in `--name`. -/
  | long (flag : Flag) (name : String)
  /-- A flag with a value by a long spelling, as in `--name=value`. -/
  | longValue (flag : Flag) (name : String) (joint : Joint) (value : String)
  /-- Switches by their letters, as in `-abc`. -/
  | letters (switches : List (Char × Flag))
  /-- The same, ended by a flag with a value, as in `-abcn=value`. -/
  | lettersValue (switches : List (Char × Flag)) (letter : Char) (flag : Flag) (joint : Joint)
      (value : String)
deriving DecidableEq, Repr

namespace Phrase

/-- The letters of a cluster as text. -/
def spelled (switches : List (Char × Flag)) : OsText :=
  switches.map fun s => .scalar s.1

/-- The first token. -/
def word : Phrase → OsText
  | long _ name => Token.hyphen :: Token.hyphen :: OsText.ofString name
  | longValue _ name joint value =>
    joint.word (Token.hyphen :: Token.hyphen :: OsText.ofString name) value
  | letters switches => Token.hyphen :: spelled switches
  | lettersValue switches letter _ joint value =>
    joint.word (Token.hyphen :: (spelled switches ++ [.scalar letter])) value

/-- The tokens after the first one. -/
def tail : Phrase → List OsText
  | longValue _ _ joint value => joint.tail value
  | lettersValue _ _ _ joint value => joint.tail value
  | _ => []

/-- The tokens of a phrase. -/
def tokens (p : Phrase) : List OsText :=
  p.word :: p.tail

/-- What switches are given. -/
def toggles (switches : List (Char × Flag)) : List (Flag × FlagContent) :=
  switches.map fun s => (s.2, .toggle true)

/-- What a phrase gives, and to which flags. -/
def given : Phrase → List (Flag × FlagContent)
  | long flag _ => [(flag, .toggle true)]
  | longValue flag _ _ value => [(flag, .text value)]
  | letters switches => toggles switches
  | lettersValue switches _ flag _ value => toggles switches ++ [(flag, .text value)]

/-- A long spelling of a flag on a level. What comes after an equals sign is no part of it. -/
structure LongOf (level : Level) (flag : Flag) (name : String) : Prop where
  mem : flag ∈ level
  name_mem : name ∈ flag.longNames
  no_equals : '=' ∉ name.toList

instance (level : Level) (flag : Flag) (name : String) : Decidable (LongOf level flag name) :=
  decidable_of_iff (flag ∈ level ∧ name ∈ flag.longNames ∧ '=' ∉ name.toList)
    ⟨fun h => ⟨h.1, h.2.1, h.2.2⟩, fun h => ⟨h.mem, h.name_mem, h.no_equals⟩⟩

/-- The letters of switches on a level. -/
def SwitchesOf (level : Level) (switches : List (Char × Flag)) : Prop :=
  ∀ s ∈ switches, s.2 ∈ level ∧ s.2.kind = .switch ∧ s.2.short = some s.1

theorem switchesOf_nil {level : Level} : SwitchesOf level [] :=
  fun _ hs => absurd hs List.not_mem_nil

/-- Letters are those of switches if each of them is. -/
theorem switchesOf_cons {level : Level} {c : Char} {flag : Flag} {switches : List (Char × Flag)} :
    SwitchesOf level ((c, flag) :: switches)
      ↔ (flag ∈ level ∧ flag.kind = .switch ∧ flag.short = some c) ∧ SwitchesOf level switches :=
  List.forall_mem_cons

instance (level : Level) (switches : List (Char × Flag)) : Decidable (SwitchesOf level switches) :=
  inferInstanceAs (Decidable (∀ s ∈ switches, _))

/-- The flags of the phrase are on the level and may be spelled in this way. -/
def Valid (level : Level) : Phrase → Prop
  | long flag name => LongOf level flag name ∧ flag.kind = .switch
  | longValue flag name joint value =>
    LongOf level flag name ∧ flag.kind = .value ∧ joint ≠ .adjacent ∧ joint.Fits value
  | letters switches =>
    switches ≠ [] ∧ (spelled switches).head? ≠ some Token.hyphen ∧ SwitchesOf level switches
  | lettersValue switches letter flag joint value =>
    (spelled switches ++ [Glyph.scalar letter]).head? ≠ some Token.hyphen
      ∧ SwitchesOf level switches ∧ flag ∈ level ∧ flag.kind = .value
      ∧ flag.short = some letter ∧ joint.Fits value

instance (level : Level) (p : Phrase) : Decidable (p.Valid level) := by
  unfold Valid
  split <;> infer_instance

/-- What phrases give, first to last. -/
def occurrences (phrases : List Phrase) : List (Flag × FlagContent) :=
  phrases.flatMap given

/-- The tokens of phrases. -/
def written (phrases : List Phrase) : List OsText :=
  phrases.flatMap tokens

theorem written_cons (p : Phrase) (phrases : List Phrase) :
    written (p :: phrases) = p.tokens ++ written phrases :=
  List.flatMap_cons

theorem occurrences_cons (p : Phrase) (phrases : List Phrase) :
    occurrences (p :: phrases) = p.given ++ occurrences phrases :=
  List.flatMap_cons

/-- What two lists of phrases give is given one after the other. -/
theorem occurrences_append (phrases others : List Phrase) :
    occurrences (phrases ++ others) = occurrences phrases ++ occurrences others :=
  List.flatMap_append

/-- Each phrase starts with a hyphen. -/
theorem head?_word (p : Phrase) : p.word.head? = some Token.hyphen := by
  cases p with
  | long flag name => rfl
  | longValue flag name joint value => cases joint <;> rfl
  | letters switches => rfl
  | lettersValue switches letter flag joint value => cases joint <;> rfl

/-- A phrase of a level is one of every level with its flags. -/
theorem Valid.mono {level wider : Level} (hsub : ∀ f ∈ level, f ∈ wider) {p : Phrase}
    (h : p.Valid level) : p.Valid wider := by
  have hlong : ∀ {flag : Flag} {name : String}, LongOf level flag name → LongOf wider flag name :=
    fun h => ⟨hsub _ h.mem, h.name_mem, h.no_equals⟩
  have hswitches : ∀ {switches : List (Char × Flag)}, SwitchesOf level switches →
      SwitchesOf wider switches :=
    fun h s hs => ⟨hsub _ (h s hs).1, (h s hs).2⟩
  cases p with
  | long flag name => exact ⟨hlong h.1, h.2⟩
  | longValue flag name joint value => exact ⟨hlong h.1, h.2⟩
  | letters switches => exact ⟨h.1, h.2.1, hswitches h.2.2⟩
  | lettersValue switches letter flag joint value =>
    obtain ⟨hhead, hall, hmem, hrest⟩ := h
    exact ⟨hhead, hswitches hall, hsub _ hmem, hrest⟩

end Phrase

/-! ## What occurs in valid phrases -/

/-- A flag is given what its kind takes. -/
def FlagContent.Suits (content : FlagContent) (flag : Flag) : Prop :=
  match flag.kind with
  | .switch => content = .toggle true
  | .value => ∃ value, content = .text value

namespace Phrase

/-- What a valid phrase gives is for flags of the level, and of the kind that they take. -/
theorem mem_level_of_mem_given {level : Level} {p : Phrase} (h : p.Valid level) {flag : Flag}
    {content : FlagContent} (hmem : (flag, content) ∈ p.given) :
    flag ∈ level ∧ content.Suits flag := by
  -- the two ways in which phrases give something: switches by their letters, and a value
  have htoggle : ∀ {switches : List (Char × Flag)}, SwitchesOf level switches →
      (flag, content) ∈ toggles switches → flag ∈ level ∧ content.Suits flag := by
    intro switches hswitches hmem
    obtain ⟨s, hs, heq⟩ := List.mem_map.mp hmem
    cases heq
    obtain ⟨hlevel, hkind, -⟩ := hswitches s hs
    exact ⟨hlevel, by rw [FlagContent.Suits, hkind]⟩
  have htext : ∀ {value : String}, flag.kind = .value → content = .text value →
      content.Suits flag := by
    intro value hkind hcontent
    rw [FlagContent.Suits, hkind]
    exact ⟨value, hcontent⟩
  cases p with
  | long f name =>
    cases List.mem_singleton.mp hmem
    exact ⟨h.1.mem, by rw [FlagContent.Suits, h.2]⟩
  | longValue f name joint value =>
    cases List.mem_singleton.mp hmem
    exact ⟨h.1.mem, htext h.2.1 rfl⟩
  | letters switches => exact htoggle h.2.2 hmem
  | lettersValue switches letter f joint value =>
    obtain ⟨-, hswitches, hlevel, hkind, -⟩ := h
    rcases List.mem_append.mp hmem with hmem | hmem
    · exact htoggle hswitches hmem
    · cases List.mem_singleton.mp hmem
      exact ⟨hlevel, htext hkind rfl⟩

/-- So is what a list of valid phrases gives. -/
theorem mem_level_of_mem_occurrences {level : Level} {phrases : List Phrase}
    (h : ∀ p ∈ phrases, p.Valid level) {flag : Flag} {content : FlagContent}
    (hmem : (flag, content) ∈ occurrences phrases) : flag ∈ level ∧ content.Suits flag := by
  obtain ⟨p, hp, hgiven⟩ := List.mem_flatMap.mp hmem
  exact mem_level_of_mem_given (h p hp) hgiven

end Phrase

end CommandFront
