import CommandFront.Proofs.PhraseReading
import CommandFront.Proofs.SentenceLevels

/-!
# The tokens of phrases

Which tokens are those of valid phrases, and what a token tells of its phrase.

A phrase is one token, or a token and a value that follows it. The first token has the shape of a
flag, and the second one never has: what looks like a flag is no value by itself. Hence a token in
the shape of a flag is the first token of its phrase, and what the phrase gives can be told from it.
In this way it is known from the tokens alone whether a certain switch was turned on.

- `Phrase.ofText_of_mem_tokens`: a token has the shape of its phrase, or it is a plain value.
- `Phrase.separator_not_mem_written`: the separator is no token of a phrase.
- `Phrase.cases_of_written_ending`: how tokens of phrases begin.
- `Phrase.turnsOn_iff_mem_written`: a switch with one spelling is turned on exactly if that is one
  of the tokens.
-/

namespace CommandFront

namespace OsText

theorem ofString_inj {s t : String} (h : ofString s = ofString t) : s = t := by
  have htext := congrArg toString? h
  rw [toString?_ofString, toString?_ofString] at htext
  exact Option.some.inj htext

theorem ofString_append (s t : String) : ofString (s ++ t) = ofString s ++ ofString t := by
  rw [ofString, String.toList_append, List.map_append]
  rfl

end OsText

namespace Phrase

variable {level : Level} {p : Phrase} {phrases : List Phrase} {token : OsText} {f : Flag}

/-! ## Shapes -/

theorem shape_ne_separator (p : Phrase) : p.shape ≠ .separator := by
  cases p <;> exact Token.noConfusion

theorem shape_ne_plain (p : Phrase) (text : OsText) : p.shape ≠ .plain text := by
  cases p <;> exact Token.noConfusion

/-- A value that is a token of its own is a plain one. -/
theorem ofText_of_mem_tail (h : p.Valid level) (hmem : token ∈ p.tail) :
    Token.ofText token = .plain token := by
  have htail : ∀ {joint : Joint} {value : String}, joint.Fits value →
      token ∈ joint.tail value → Token.ofText token = .plain token := by
    intro joint value hfits htoken
    cases joint with
    | equals => exact absurd htoken List.not_mem_nil
    | adjacent => exact absurd htoken List.not_mem_nil
    | apart =>
      obtain rfl : token = .ofString value := List.mem_singleton.mp htoken
      exact Token.ofText_eq_plain_iff.mpr hfits
  cases p with
  | long flag name => exact absurd hmem List.not_mem_nil
  | letters switches => exact absurd hmem List.not_mem_nil
  | longValue flag name joint value =>
    obtain ⟨-, -, -, hfits⟩ := h
    exact htail hfits hmem
  | lettersValue switches letter flag joint value =>
    obtain ⟨-, -, -, -, -, hfits⟩ := h
    exact htail hfits hmem

theorem ofText_of_mem_tokens (hlevel : level.Distinct) (h : p.Valid level)
    (hmem : token ∈ p.tokens) :
    Token.ofText token = p.shape ∨ Token.ofText token = .plain token := by
  rcases List.mem_cons.mp hmem with rfl | htail
  · exact .inl (ofText_word hlevel h)
  · exact .inr (ofText_of_mem_tail h htail)

/-- The separator is no token of valid phrases. -/
theorem separator_not_mem_written (hlevel : level.Distinct) (h : ∀ p ∈ phrases, p.Valid level) :
    Token.separator.toText ∉ written phrases := by
  intro hmem
  obtain ⟨p, hp, htoken⟩ := List.mem_flatMap.mp hmem
  have hseparator : Token.ofText Token.separator.toText = .separator := rfl
  rcases ofText_of_mem_tokens hlevel (h p hp) htoken with hshape | hplain
  · exact shape_ne_separator p (hshape.symm.trans hseparator)
  · cases hseparator.symm.trans hplain

/-- Tokens of phrases, perhaps with the separator at their end, begin with it or with a phrase. -/
theorem cases_of_written_ending {closed : Bool} {rest : List OsText}
    (h : token :: rest = written phrases ++ Token.ending closed) :
    (phrases = [] ∧ token = Token.separator.toText ∧ rest = [])
      ∨ ∃ p others, phrases = p :: others ∧ p.word = token
        ∧ rest = p.tail ++ (written others ++ Token.ending closed) := by
  cases phrases with
  | nil =>
    left
    cases closed with
    | true =>
      obtain ⟨htoken, hrest⟩ := List.cons.inj h
      exact ⟨rfl, htoken, hrest⟩
    | false => cases h
  | cons p others =>
    right
    have hfront : token :: rest
        = p.word :: (p.tail ++ (written others ++ Token.ending closed)) := by
      rw [h, written_cons, List.append_assoc]
      rfl
    obtain ⟨htoken, hrest⟩ := List.cons.inj hfront
    exact ⟨p, others, rfl, htoken.symm, hrest⟩

/-! ## Switches with one spelling -/

/-- A long spelling as a token. -/
theorem ofText_longName (hlevel : level.Distinct) (hf : f ∈ level) {name : String}
    (hname : name ∈ f.longNames) (hequals : '=' ∉ name.toList) :
    Token.ofText (Token.toText (.long (.ofString name) none)) = .long (.ofString name) none := by
  have hlong : LongOf level f name := ⟨hf, hname, hequals⟩
  exact Token.ofText_long (hlong.ne_nil hlevel) hlong.equalsSign_not_mem

/-- A flag without a letter is turned on by a long spelling alone. -/
theorem eq_long_of_mem_given (h : p.Valid level) (hshort : f.short = none)
    (hmem : (f, .toggle true) ∈ p.given) : ∃ name ∈ f.longNames, p = long f name := by
  have hletters : ∀ {switches : List (Char × Flag)}, SwitchesOf level switches →
      (f, .toggle true) ∉ toggles switches := by
    intro switches hswitches htoggle
    obtain ⟨s, hs, heq⟩ := List.mem_map.mp htoggle
    obtain ⟨-, -, hletter⟩ := hswitches s hs
    obtain rfl : s.2 = f := congrArg Prod.fst heq
    rw [hshort] at hletter
    cases hletter
  cases p with
  | long flag name =>
    cases List.mem_singleton.mp hmem
    exact ⟨name, h.1.name_mem, rfl⟩
  | longValue flag name joint value => cases List.mem_singleton.mp hmem
  | letters switches => exact absurd hmem (hletters h.2.2)
  | lettersValue switches letter flag joint value =>
    rcases List.mem_append.mp hmem with htoggle | hvalue
    · exact absurd htoggle (hletters h.2.1)
    · cases List.mem_singleton.mp hvalue

/-- A phrase that begins with a long spelling of a switch turns it on. -/
theorem mem_given_of_shape (hlevel : level.Distinct) (h : p.Valid level) (hf : f ∈ level)
    (hkind : f.kind = .switch) {name : String} (hname : name ∈ f.longNames)
    (hshape : p.shape = .long (.ofString name) none) : (f, .toggle true) ∈ p.given := by
  have hunique : ∀ {g : Flag} {spelling : String}, LongOf level g spelling →
      OsText.ofString spelling = .ofString name → g = f := by
    intro g spelling hlong hspelling
    obtain rfl := OsText.ofString_inj hspelling
    exact Option.some.inj <| (hlevel.long?_eq_some_iff.mpr ⟨hlong.mem, hlong.name_mem⟩).symm.trans
      (hlevel.long?_eq_some_iff.mpr ⟨hf, hname⟩)
  cases p with
  | long g spelling =>
    obtain ⟨hlong, -⟩ := h
    obtain rfl := hunique hlong (Token.long.inj hshape).1
    exact List.mem_singleton_self _
  | longValue g spelling joint value =>
    -- the one flag of this spelling takes no value
    obtain ⟨hlong, hvalue, -⟩ := h
    obtain rfl := hunique hlong (Token.long.inj hshape).1
    rw [hkind] at hvalue
    cases hvalue
  | letters switches => cases hshape
  | lettersValue switches letter g joint value => cases hshape

/-- A phrase that is the letter of a switch alone turns it on. -/
theorem mem_given_of_letter (hlevel : level.Distinct) (h : p.Valid level) (hf : f ∈ level)
    (hkind : f.kind = .switch) {c : Char} (hshort : f.short = some c)
    (hshape : p.shape = .cluster [.scalar c]) : (f, .toggle true) ∈ p.given := by
  have hunique : ∀ {g : Flag}, g ∈ level → g.short = some c → g = f := fun hg hletter =>
    Option.some.inj <| (hlevel.short?_eq_some_iff.mpr ⟨hg, hletter⟩).symm.trans
      (hlevel.short?_eq_some_iff.mpr ⟨hf, hshort⟩)
  cases p with
  | long g name => cases hshape
  | longValue g name joint value => cases hshape
  | letters switches =>
    obtain ⟨-, -, hswitches⟩ := h
    cases switches with
    | nil => cases hshape
    | cons s others =>
      cases others with
      | cons _ _ => cases hshape
      | nil =>
        obtain ⟨hs, -, hletter⟩ := hswitches s List.mem_cons_self
        have hc : s.1 = c := by
          cases hshape
          rfl
        rw [hc] at hletter
        obtain rfl := hunique hs hletter
        exact List.mem_singleton_self _
  | lettersValue switches letter g joint value =>
    -- the one flag of this letter takes no value
    obtain ⟨-, -, hg, hvalue, hletter, -⟩ := h
    obtain ⟨rest, hword⟩ := exists_word_eq_cons letter joint value
    have hcluster : spelled switches ++ .scalar letter :: rest = [.scalar c] := by
      rw [← hword]
      exact Token.cluster.inj hshape
    have hc : letter = c := by
      cases switches with
      | nil => exact Glyph.scalar.inj (List.cons.inj hcluster).1
      | cons s others => exact absurd (List.cons.inj hcluster).2 (by simp)
    rw [hc] at hletter
    obtain rfl := hunique hg hletter
    rw [hkind] at hvalue
    cases hvalue

theorem turnsOn_iff_mem_written (hlevel : level.Distinct) (h : ∀ p ∈ phrases, p.Valid level)
    (hf : f ∈ level) (hkind : f.kind = .switch) (hshort : f.short = none)
    (haliases : f.aliases = []) (hequals : '=' ∉ f.name.toList) :
    TurnsOn phrases f ↔ Token.toText (.long (.ofString f.name) none) ∈ written phrases := by
  constructor
  · intro hon
    obtain ⟨p, hp, hgiven⟩ := List.mem_flatMap.mp hon
    obtain ⟨name, hname, rfl⟩ := eq_long_of_mem_given (h p hp) hshort hgiven
    have honly : f.longNames = [f.name] := congrArg (f.name :: ·) haliases
    rw [honly] at hname
    rw [List.mem_singleton.mp hname] at hp
    exact List.mem_flatMap.mpr ⟨_, hp, List.mem_cons_self⟩
  · intro hmem
    obtain ⟨p, hp, htoken⟩ := List.mem_flatMap.mp hmem
    have hlong := ofText_longName hlevel hf f.name_mem_longNames hequals
    rcases ofText_of_mem_tokens hlevel (h p hp) htoken with hshape | hplain
    · have hgiven := mem_given_of_shape hlevel (h p hp) hf hkind f.name_mem_longNames
        (hshape.symm.trans hlong)
      exact List.mem_flatMap.mpr ⟨p, hp, hgiven⟩
    · -- a value of this spelling would not be a plain token
      cases hlong.symm.trans hplain

end Phrase

end CommandFront
