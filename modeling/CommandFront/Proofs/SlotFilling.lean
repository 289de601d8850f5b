import CommandFront.Application.Help
import CommandFront.Proofs.HelpTopic
import Mathlib.Data.List.Infix

/-!
# Filling the slots of a template

The slots of a help template are filled one after the other, each of them wherever it stands in the
text so far. What comes in with one value may therefore be taken for a slot when the next one is
filled.

To compare the chain of replacements with one pass, the template is read as a list of slots and
characters. Filling one slot turns its piece into the characters of the value, and what the next
replacement finds is either a slot that is still there or characters that happen to spell one. The
stem of a slot, its name with the closing braces, has no opening brace, so an occurrence can only
begin where two opening braces stand, and this is what the case analysis is on.

- `Piece`, `Piece.read`: a text that is read once from left to right, as slots and characters.
- `Piece.fillOnce`: the slots of that reading replaced by their values, all else copied.
- `Piece.Spells`, `Piece.Undisturbed`: characters that are copied spell a slot, and none of them
  does before the turn of that slot.
- `Piece.replaceFrom_chars`: one slot is filled as it was read, unless such characters spell it.
- `App.help_fills_slots`: so the help fills all slots at once, as long as none comes up before its
  turn.
-/

namespace CommandFront

/-- The brace that opens a slot. A slot has two of them. -/
def openBrace : Char := '\x7b'

/-- The brace that closes a slot. A slot has two of them. -/
def closeBrace : Char := '\x7d'

/-! ## Reading a template once -/

/-- What stands at one place of a template. -/
inductive Piece where
  /-- A character, which is copied. -/
  | glyph (c : Char)
  /-- A slot. -/
  | slot (name : String)
deriving DecidableEq, Repr

namespace Piece

/-- The characters of a piece. -/
def chars : Piece → List Char
  | glyph c => [c]
  | slot name => (App.slot name).toList

/-- A piece after one slot has been filled. The characters of the value are copied from then on. -/
def fill (filling : String × String) : Piece → List Piece
  | glyph c => [glyph c]
  | slot name => if name = filling.1 then filling.2.toList.map glyph else [slot name]

/-- What becomes of a piece when all slots are filled at once. -/
def filled (fillings : List (String × String)) : Piece → List Char
  | glyph c => [c]
  | slot name => ((fillings.lookup name).map String.toList).getD (slot name).chars

/-- Reads a text once from left to right; the first `skip` characters belong to a slot that has been
read already. -/
def readFrom (names : List String) : Nat → List Char → List Piece
  | _, [] => []
  | skip + 1, _ :: rest => readFrom names skip rest
  | 0, c :: rest =>
    match names.find? fun name => (slot name).chars.isPrefixOf (c :: rest) with
    | some name => slot name :: readFrom names ((slot name).chars.length - 1) rest
    | none => glyph c :: readFrom names 0 rest

/-- Reads a text once from left to right. -/
def read (names : List String) (text : String) : List Piece :=
  readFrom names 0 text.toList

/-- A text that is read once, each slot in it replaced by its value and all else copied. -/
def fillOnce (fillings : List (String × String)) (text : String) : String :=
  .ofList ((read (fillings.map Prod.fst) text).flatMap (filled fillings))

/-- The pieces after some slots have been filled, one after the other. -/
def after (pieces : List Piece) (fillings : List (String × String)) : List Piece :=
  fillings.foldl (fun ps filling => ps.flatMap (fill filling)) pieces

/-- Characters that are copied spell a slot. -/
def Spells (pieces : List Piece) (name : String) : Prop :=
  (slot name).chars.map glyph <:+: pieces

instance (pieces : List Piece) (name : String) : Decidable (Spells pieces name) :=
  inferInstanceAs (Decidable (_ <:+: _))

/-- No slot comes up by what has been filled in before its turn. -/
def Undisturbed : List Piece → List (String × String) → Prop
  | _, [] => True
  | pieces, filling :: rest =>
    ¬Spells pieces filling.1 ∧ Undisturbed (pieces.flatMap (fill filling)) rest

instance decidableUndisturbed (pieces : List Piece) :
    (fillings : List (String × String)) → Decidable (Undisturbed pieces fillings)
  | [] => inferInstanceAs (Decidable True)
  | filling :: rest =>
    have := decidableUndisturbed (pieces.flatMap (fill filling)) rest
    inferInstanceAs (Decidable (_ ∧ _))

/-- What comes after the two opening braces of a slot. -/
def stem (name : String) : List Char :=
  name.toList ++ [closeBrace, closeBrace]

theorem chars_slot (name : String) : (slot name).chars = openBrace :: openBrace :: stem name := by
  simp [chars, stem, App.slot, openBrace, closeBrace]

/-- Reading loses nothing. -/
theorem chars_readFrom (names : List String) (skip : Nat) (s : List Char) :
    (readFrom names skip s).flatMap chars = s.drop skip := by
  induction s generalizing skip with
  | nil => simp [readFrom]
  | cons c rest ih =>
    cases skip with
    | succ skip => exact ih skip
    | zero =>
      rw [readFrom]
      split
      case h_1 name hfind =>
        have hslot := List.find?_some hfind
        obtain ⟨tail, htail⟩ := List.isPrefixOf_iff_prefix.mp hslot
        rw [List.flatMap_cons, ih]
        rw [chars_slot] at htail ⊢
        obtain ⟨rfl, rfl⟩ := List.cons.inj htail
        simp
      case h_2 => rw [List.flatMap_cons, ih]; rfl

/-- A reading finds no slots but those that it looks for. -/
theorem slot_mem_readFrom {names : List String} {skip : Nat} {s : List Char} {name : String}
    (h : slot name ∈ readFrom names skip s) : name ∈ names := by
  induction s generalizing skip with
  | nil => simp [readFrom] at h
  | cons c rest ih =>
    cases skip with
    | succ skip => exact ih h
    | zero =>
      rw [readFrom] at h
      split at h
      case h_1 found hfind =>
        rcases List.mem_cons.mp h with heq | hrest
        · rw [slot.inj heq]
          exact List.mem_of_find?_eq_some hfind
        · exact ih hrest
      case h_2 =>
        rcases List.mem_cons.mp h with heq | hrest
        · cases heq
        · exact ih hrest

/-- Filling the slots one after the other in what was read fills them all at once: the values are
copied from then on. -/
theorem chars_after (pieces : List Piece) (fillings : List (String × String)) :
    (after pieces fillings).flatMap chars = pieces.flatMap (filled fillings) := by
  induction fillings generalizing pieces with
  | nil =>
    refine congrArg (pieces.flatMap ·) (funext fun p => ?_)
    cases p <;> rfl
  | cons filling rest ih =>
    show (after (pieces.flatMap (fill filling)) rest).flatMap chars = _
    rw [ih, List.flatMap_assoc]
    refine congrArg (pieces.flatMap ·) (funext fun p => ?_)
    cases p with
    | glyph c => rfl
    | slot name =>
      rw [fill, filled, AssocList.lookup_cons]
      by_cases hname : name = filling.1
      · rw [if_pos hname, if_pos hname, List.flatMap_map]
        exact List.flatMap_singleton' _
      · rw [if_neg hname, if_neg hname]
        exact List.append_nil _

/-! ## Where a slot may stand -/

/-- A name without braces. -/
def IsPlain (name : String) : Prop :=
  openBrace ∉ name.toList ∧ closeBrace ∉ name.toList

instance (name : String) : Decidable (IsPlain name) :=
  inferInstanceAs (Decidable (_ ∧ _))

/-- The names of the slots among some pieces have no braces. -/
def PlainSlots (pieces : List Piece) : Prop :=
  ∀ name, slot name ∈ pieces → IsPlain name

variable {pieces : List Piece} {name : String}

theorem PlainSlots.cons {p : Piece} (h : PlainSlots (p :: pieces)) : PlainSlots pieces :=
  fun name hname => h name (List.mem_cons_of_mem p hname)

/-- What comes after the opening braces of a slot has none of them. -/
theorem IsPlain.openBrace_not_mem_stem (h : IsPlain name) : openBrace ∉ stem name := by
  rw [stem, List.mem_append]
  rintro (hmem | hmem)
  · exact h.1 hmem
  · exact absurd hmem (by decide)

theorem exists_stem_eq_cons (name : String) : ∃ first more, stem name = first :: more := by
  unfold stem
  cases name.toList <;> exact ⟨_, _, rfl⟩

/-- The name is what comes before the first brace that closes the slot. -/
theorem IsPlain.takeWhile_stem (h : IsPlain name) (rest : List Char) :
    (stem name ++ rest).takeWhile (· != closeBrace) = name.toList := by
  have hbefore : ∀ c ∈ name.toList, (c != closeBrace) = true := by
    intro c hc
    refine bne_iff_ne.mpr ?_
    rintro rfl
    exact h.2 hc
  rw [stem, List.append_assoc, List.takeWhile_append_of_pos hbefore]
  exact List.append_nil _

/-- A slot that begins as another one does is that one. -/
theorem eq_of_prefix_slot {other : String} {rest : List Char} (hname : IsPlain name)
    (hother : IsPlain other) (h : (slot name).chars <+: (slot other).chars ++ rest) :
    name = other := by
  obtain ⟨tail, htail⟩ := h
  rw [chars_slot, chars_slot] at htail
  have hstems : stem name ++ tail = stem other ++ rest :=
    (List.cons.inj (List.cons.inj htail).2).2
  have htake := congrArg (List.takeWhile (· != closeBrace)) hstems
  rw [hname.takeWhile_stem, hother.takeWhile_stem] at htake
  exact String.toList_inj.mp htake

theorem flatMap_chars_glyph (c : Char) (rest : List Piece) :
    (glyph c :: rest).flatMap chars = c :: rest.flatMap chars := rfl

theorem flatMap_chars_slot (other : String) (rest : List Piece) :
    (slot other :: rest).flatMap chars
      = openBrace :: openBrace :: (stem other ++ rest.flatMap chars) := by
  rw [List.flatMap_cons, chars_slot]
  rfl

/-- Characters of the text among which no slot opens are copied ones. -/
theorem glyphs_of_prefix_chars {u : List Char} (hu : openBrace ∉ u)
    (h : u <+: pieces.flatMap chars) : u.map glyph <+: pieces := by
  induction u generalizing pieces with
  | nil => exact List.nil_prefix
  | cons c u ih =>
    obtain ⟨hc, hu⟩ := List.ne_and_not_mem_of_not_mem_cons hu
    cases pieces with
    | nil => exact absurd (List.prefix_nil.mp h) (List.cons_ne_nil c u)
    | cons p rest =>
      cases p with
      | glyph d =>
        obtain ⟨rfl, hrest⟩ := List.cons_prefix_cons.mp h
        exact List.cons_prefix_cons.mpr ⟨rfl, ih hu hrest⟩
      | slot n =>
        rw [flatMap_chars_slot] at h
        exact absurd (List.cons_prefix_cons.mp h).1.symm hc

/-- The same for a slot from its second brace on: another slot that began there would have a brace
where the stem has none. -/
theorem glyphs_of_prefix_inner (hname : IsPlain name)
    (h : openBrace :: stem name <+: pieces.flatMap chars) :
    (openBrace :: stem name).map glyph <+: pieces := by
  have hstem := hname.openBrace_not_mem_stem
  match pieces with
  | [] => exact absurd (List.prefix_nil.mp h) (List.cons_ne_nil _ _)
  | glyph c :: rest =>
    obtain ⟨rfl, hrest⟩ := List.cons_prefix_cons.mp h
    exact List.cons_prefix_cons.mpr ⟨rfl, glyphs_of_prefix_chars hstem hrest⟩
  | slot other :: rest =>
    rw [flatMap_chars_slot] at h
    obtain ⟨-, hrest⟩ := List.cons_prefix_cons.mp h
    obtain ⟨first, more, hcons⟩ := exists_stem_eq_cons name
    rw [hcons] at hrest hstem
    obtain ⟨rfl, -⟩ := List.cons_prefix_cons.mp hrest
    exact absurd List.mem_cons_self hstem

/-- Where a slot stands in the text, it was read, or characters that are copied spell it. -/
theorem slot_prefix_cases (hname : IsPlain name) (hpieces : PlainSlots pieces)
    (h : (slot name).chars <+: pieces.flatMap chars) :
    pieces.head? = some (slot name) ∨ (slot name).chars.map glyph <+: pieces := by
  match pieces with
  | [] =>
    rw [chars_slot] at h
    exact absurd (List.prefix_nil.mp h) (List.cons_ne_nil _ _)
  | slot other :: rest =>
    left
    rw [eq_of_prefix_slot hname (hpieces other List.mem_cons_self) h]
    rfl
  | glyph c :: rest =>
    right
    rw [chars_slot] at h ⊢
    obtain ⟨rfl, hrest⟩ := List.cons_prefix_cons.mp h
    exact List.cons_prefix_cons.mpr ⟨rfl, glyphs_of_prefix_inner hname hrest⟩

/-- Within the text of another slot, no slot begins. -/
theorem not_slot_prefix_of_suffix {other : String} (hname : IsPlain name) (hother : IsPlain other)
    (hne : name ≠ other) {first : Char} {more rest : List Char}
    (hsuffix : first :: more <:+ (slot other).chars) :
    ¬(slot name).chars <+: first :: more ++ rest := by
  have hstem := hother.openBrace_not_mem_stem
  intro h
  rw [chars_slot] at hsuffix
  rcases List.suffix_cons_iff.mp hsuffix with hwhole | hsuffix
  · rw [hwhole, ← chars_slot] at h
    exact hne (eq_of_prefix_slot hname hother h)
  rw [chars_slot] at h
  obtain ⟨rfl, hmore⟩ := List.cons_prefix_cons.mp h
  rcases List.suffix_cons_iff.mp hsuffix with hinner | hsuffix
  · -- the brace that should come second is the first character of the stem
    obtain ⟨c, others, hcons⟩ := exists_stem_eq_cons other
    rw [(List.cons.inj hinner).2, hcons] at hmore
    obtain ⟨rfl, -⟩ := List.cons_prefix_cons.mp hmore
    rw [hcons] at hstem
    exact hstem List.mem_cons_self
  · exact hstem (hsuffix.subset List.mem_cons_self)

end Piece

/-! ## Filling one slot -/

namespace Text

variable {word value : List Char}

/-- A character at which the word does not begin is copied. -/
theorem replaceFrom_cons_copied {c : Char} {s : List Char} (h : ¬word <+: c :: s) :
    replaceFrom word value 0 (c :: s) = c :: replaceFrom word value 0 s := by
  rw [replaceFrom, if_neg (by rwa [ List.isPrefixOf_iff_prefix])]

/-- Where no occurrence begins, the text is copied. -/
theorem replaceFrom_append_copied {front s : List Char}
    (h : ∀ first more, first :: more <:+ front → ¬word <+: first :: more ++ s) :
    replaceFrom word value 0 (front ++ s) = front ++ replaceFrom word value 0 s := by
  induction front with
  | nil => rfl
  | cons c front ih =>
    have hfirst : ¬word <+: c :: (front ++ s) := h c front (List.suffix_refl _)
    rw [List.cons_append, replaceFrom_cons_copied hfirst, List.cons_append,
      ih fun first more hsuffix => h first more (hsuffix.trans (List.suffix_cons c front))]

/-- The word is replaced, and the search goes on after it. -/
theorem replaceFrom_word (hword : word ≠ []) (s : List Char) :
    replaceFrom word value 0 (word ++ s) = value ++ replaceFrom word value 0 s := by
  cases word with
  | nil => exact absurd rfl hword
  | cons c rest =>
    have hbegins : (c :: rest).isPrefixOf (c :: (rest ++ s)) = true :=
      List.isPrefixOf_iff_prefix.mpr ⟨s, rfl⟩
    rw [List.cons_append, replaceFrom, if_pos hbegins, replaceFrom_eq_drop]
    simp

end Text

namespace Piece

variable {pieces : List Piece} {filling : String × String}

/-- One slot is filled as it was read, unless characters that are copied spell it. -/
theorem replaceFrom_chars (hname : IsPlain filling.1) (hpieces : PlainSlots pieces)
    (h : ¬Spells pieces filling.1) :
    Text.replaceFrom (slot filling.1).chars filling.2.toList 0 (pieces.flatMap chars)
      = (pieces.flatMap (fill filling)).flatMap chars := by
  induction pieces with
  | nil => rfl
  | cons p rest ih =>
    have hrest : ¬Spells rest filling.1 :=
      fun hspells => h (hspells.trans (List.suffix_cons p rest).isInfix)
    have hfilled := ih hpieces.cons hrest
    rw [List.flatMap_cons, List.flatMap_cons, List.flatMap_append, ← hfilled]
    cases p with
    | glyph c =>
      -- a slot that stands here would be spelled by this character and others that are copied
      have hnot : ¬(slot filling.1).chars <+: c :: rest.flatMap chars := by
        intro hbegins
        rcases slot_prefix_cases hname hpieces hbegins with hhead | hglyphs
        · cases hhead
        · exact h hglyphs.isInfix
      exact Text.replaceFrom_cons_copied hnot
    | slot other =>
      have hother := hpieces other List.mem_cons_self
      rw [fill]
      by_cases heq : other = filling.1
      · have hword : (slot filling.1).chars ≠ [] := by
          rw [chars_slot]
          exact List.cons_ne_nil _ _
        rw [if_pos heq, heq, Text.replaceFrom_word hword, List.flatMap_map]
        exact congrArg (· ++ _) (List.flatMap_singleton' _).symm
      · rw [if_neg heq, Text.replaceFrom_append_copied fun first more hsuffix =>
          not_slot_prefix_of_suffix hname hother (Ne.symm heq) hsuffix]
        exact congrArg (· ++ _) (List.append_nil _).symm

/-! ## Filling all slots -/

/-- The values that are filled in bring no slots with them, only characters. -/
theorem slot_mem_flatMap_fill {name : String} (h : slot name ∈ pieces.flatMap (fill filling)) :
    slot name ∈ pieces := by
  obtain ⟨p, hp, hmem⟩ := List.mem_flatMap.mp h
  cases p with
  | glyph c => cases List.mem_singleton.mp hmem
  | slot other =>
    rw [fill] at hmem
    split at hmem
    · obtain ⟨c, -, heq⟩ := List.mem_map.mp hmem
      cases heq
    · rw [List.mem_singleton.mp hmem]
      exact hp

/-- The slots are filled as they were read, as long as characters that are copied spell none of them
before it is filled. -/
theorem toList_foldl_fill {fillings : List (String × String)} {text : String}
    (htext : text.toList = pieces.flatMap chars) (hpieces : PlainSlots pieces)
    (hnames : ∀ filling ∈ fillings, IsPlain filling.1)
    (h : Undisturbed pieces fillings) :
    (fillings.foldl App.fill text).toList = (after pieces fillings).flatMap chars := by
  induction fillings generalizing text pieces with
  | nil => exact htext
  | cons filling rest ih =>
    obtain ⟨hname, hothers⟩ := List.forall_mem_cons.mp hnames
    have hfirst : (App.fill text filling).toList
        = (pieces.flatMap (fill filling)).flatMap chars := by
      rw [App.fill, Text.toList_replaceAll, htext]
      exact replaceFrom_chars hname hpieces h.1
    exact ih hfirst (fun name hmem => hpieces name (slot_mem_flatMap_fill hmem)) hothers h.2

/-- Characters stay as they are when slots are filled. -/
theorem flatMap_fill_glyphs (s : List Char) :
    (s.map glyph).flatMap (fill filling) = s.map glyph := by
  rw [List.flatMap_map]
  exact (List.map_eq_flatMap ..).symm

theorem flatMap_chars_glyphs (s : List Char) : (s.map glyph).flatMap chars = s := by
  rw [List.flatMap_map]
  exact List.flatMap_singleton' s

/-- What spells a slot stays when slots are filled. -/
theorem Spells.after {name : String} (h : Spells pieces name) (fillings : List (String × String)) :
    Spells (after pieces fillings) name := by
  induction fillings generalizing pieces with
  | nil => exact h
  | cons filling rest ih =>
    have hfilled := List.IsInfix.flatMap h (fill filling)
    rw [flatMap_fill_glyphs] at hfilled
    exact ih hfilled

/-- What spells a slot is that slot in the text. -/
theorem Spells.isInfix {name : String} (h : Spells pieces name) :
    (slot name).chars <:+: pieces.flatMap chars := by
  have htext := List.IsInfix.flatMap h chars
  rw [flatMap_chars_glyphs] at htext
  exact htext

/-- If the text with all slots filled holds none of them, none has come up on the way. -/
theorem undisturbed_of_not_isInfix {fillings : List (String × String)}
    (h : ∀ filling ∈ fillings,
      ¬(slot filling.1).chars <:+: (after pieces fillings).flatMap chars) :
    Undisturbed pieces fillings := by
  induction fillings generalizing pieces with
  | nil => trivial
  | cons filling rest ih =>
    obtain ⟨hfirst, hothers⟩ := List.forall_mem_cons.mp h
    exact ⟨fun hspells => hfirst (hspells.after (filling :: rest)).isInfix, ih hothers⟩

/-- What has been read spells no slot that could have been read. -/
theorem not_spells_readFrom {names : List String} {name : String} (hname : name ∈ names)
    (skip : Nat) (s : List Char) : ¬Spells (readFrom names skip s) name := by
  induction s generalizing skip with
  | nil =>
    intro hspells
    rw [Spells, readFrom, chars_slot] at hspells
    exact absurd (List.infix_nil.mp hspells) (List.cons_ne_nil _ _)
  | cons c rest ih =>
    cases skip with
    | succ skip => exact ih skip
    | zero =>
      intro hspells
      rw [readFrom] at hspells
      split at hspells
      case h_1 found hfind =>
        rcases List.infix_cons_iff.mp hspells with hbegins | hlater
        · rw [chars_slot] at hbegins
          cases (List.cons_prefix_cons.mp hbegins).1
        · exact ih _ hlater
      case h_2 hfind =>
        rcases List.infix_cons_iff.mp hspells with hbegins | hlater
        · -- the slot would have been found here
          have htext := List.IsPrefix.flatMap hbegins chars
          rw [flatMap_chars_glyphs, flatMap_chars_glyph, chars_readFrom] at htext
          refine List.find?_eq_none.mp hfind name hname ?_
          exact List.isPrefixOf_iff_prefix.mpr htext
        · exact ih 0 hlater

/-- The slots of a reading have plain names, as those that it looks for do. -/
theorem plainSlots_read {names : List String} (h : ∀ name ∈ names, IsPlain name) (text : String) :
    PlainSlots (read names text) :=
  fun name hname => h name (slot_mem_readFrom hname)

/-- A reading loses no character. -/
theorem chars_read (names : List String) (text : String) :
    (read names text).flatMap chars = text.toList :=
  chars_readFrom names 0 text.toList

/-- Slots are filled as they were read, all at once, as long as none comes up before its turn. -/
theorem foldl_fill_eq_fillOnce {fillings : List (String × String)} {text : String}
    (hnames : ∀ name ∈ fillings.map Prod.fst, IsPlain name)
    (h : Undisturbed (read (fillings.map Prod.fst) text) fillings) :
    fillings.foldl App.fill text = fillOnce fillings text := by
  have hfill := toList_foldl_fill (chars_read _ text).symm (plainSlots_read hnames text)
    (fun filling hmem => hnames filling.1 (List.mem_map_of_mem hmem)) h
  rw [chars_after] at hfill
  rw [fillOnce, ← hfill, String.ofList_toList]

/-- One slot is filled by reading the text once. -/
theorem fill_eq_fillOnce {filling : String × String} (hname : IsPlain filling.1) (text : String) :
    App.fill text filling = fillOnce [filling] text := by
  have hundisturbed : Undisturbed (read [filling.1] text) [filling] :=
    ⟨not_spells_readFrom (List.mem_singleton_self _) 0 text.toList, trivial⟩
  have hnames : ∀ name ∈ [filling].map Prod.fst, IsPlain name :=
    List.forall_mem_singleton.mpr hname
  exact foldl_fill_eq_fillOnce hnames hundisturbed

end Piece

namespace App

/-- The names of the slots have no braces. -/
theorem isPlain_of_mem_fillings (app : App) (snapshot : Snapshot) :
    ∀ name ∈ (app.fillings snapshot).map Prod.fst, Piece.IsPlain name := by
  show ∀ name ∈ ["name", "usage", "description", "usage_line", "commands", "global_flags",
    "version", "diagnostics"], Piece.IsPlain name
  decide

/-- The help is the template read anew for each slot, in their order. If no slot comes up by what
has been filled in before its turn, it is the template read once, each slot replaced by its value
and all else copied. So it is if the text that comes of this holds no slot. -/
theorem help_fills_slots (app : App) (snapshot : Snapshot) :
    app.help snapshot
        = (app.fillings snapshot).foldl (fun text filling => Piece.fillOnce [filling] text)
          app.template
      ∧ (Piece.Undisturbed (Piece.read ((app.fillings snapshot).map Prod.fst) app.template)
          (app.fillings snapshot) →
        app.help snapshot = Piece.fillOnce (app.fillings snapshot) app.template)
      ∧ ((∀ filling ∈ app.fillings snapshot, ¬(App.slot filling.1).toList
            <:+: (Piece.fillOnce (app.fillings snapshot) app.template).toList) →
        app.help snapshot = Piece.fillOnce (app.fillings snapshot) app.template) := by
  have hnames := isPlain_of_mem_fillings app snapshot
  refine ⟨?_, Piece.foldl_fill_eq_fillOnce hnames, fun h => ?_⟩
  · refine List.foldl_ext _ _ _ fun text filling hmem => ?_
    exact Piece.fill_eq_fillOnce (hnames filling.1 (List.mem_map_of_mem hmem)) text
  · refine Piece.foldl_fill_eq_fillOnce hnames (Piece.undisturbed_of_not_isInfix ?_)
    intro filling hmem
    rw [Piece.chars_after]
    have hnot := h filling hmem
    rw [Piece.fillOnce, String.toList_ofList] at hnot
    exact hnot

end App

namespace Sample

/-- An application whose description names a slot that is filled before. -/
def modest : App :=
  { app with
    description := "Ask " ++ App.slot "name" ++ "."
    template := App.slot "name" ++ ": " ++ App.slot "description" }

/-- The description is copied. -/
theorem modest_help_fills_at_once :
    modest.help modest.readings.snapshot
      = Piece.fillOnce (modest.fillings modest.readings.snapshot) modest.template := by
  obtain ⟨-, hundisturbed, -⟩ := App.help_fills_slots modest modest.readings.snapshot
  exact hundisturbed (by decide)

/-- An application whose description names a slot that is filled later. -/
def boastful : App :=
  { app with
    description := "Ask for " ++ App.slot "version" ++ "."
    template := App.slot "description" }

/-- So it is not so that each value is copied. -/
theorem description_not_always_copied :
    ¬∀ (app : App) (snapshot : Snapshot), app.registry.Reachable →
      app.help snapshot = Piece.fillOnce (app.fillings snapshot) app.template := by
  intro hall
  have hhelp := hall boastful boastful.readings.snapshot reachable_registry
  exact absurd hhelp (by decide)

end Sample

end CommandFront
