import CommandFront.Proofs.SlotFilling
import Mathlib.Data.List.Chain

/-!
# Texts that hold no slot

A slot opens with two braces. Texts in which no two of them stand side by side are put together to
such texts, if what stands between them keeps them apart. A template that is filled with such texts
comes out as it was read.

What the program itself puts into its help is put together from many small texts: synopses, help
lines, names of commands with their texts, lines with indentation. None of them has two opening
braces, but that does not keep two of them from meeting at a seam. A text that is tight meets
nothing in front of it, and a label ends such a text, so one look at the parts is enough for the
whole.

- `Text.Apart`: no two opening braces stand side by side in a text.
- `Text.Tight`: moreover the text does not begin with one, so that it may follow any other text.
- `Text.Label`: a text without opening braces that is not empty, so that any text may follow it.
- `Piece.weave`: a template of labels and slots in turn.
- `Piece.foldl_fill_weave`: each of its slots is replaced by its value.
-/

namespace CommandFront

namespace Text

/-- No two opening braces stand side by side. -/
def Apart (text : String) : Prop :=
  ¬[openBrace, openBrace] <:+: text.toList

instance (text : String) : Decidable (Apart text) :=
  inferInstanceAs (Decidable (¬_))

/-- The text is apart, and does not begin with an opening brace. -/
structure Tight (text : String) : Prop where
  apart : Apart text
  head : text.toList.head? ≠ some openBrace

/-- The text is not empty and has no opening braces. -/
def Label (text : String) : Prop :=
  text ≠ "" ∧ openBrace ∉ text.toList

instance (text : String) : Decidable (Label text) :=
  inferInstanceAs (Decidable (_ ∧ _))

theorem apart_iff_isChain {text : String} :
    Apart text ↔ text.toList.IsChain fun a b => ¬(a = openBrace ∧ b = openBrace) := by
  rw [List.isChain_iff_forall_rel_of_append_cons_cons]
  constructor
  · rintro h a b front rest htext ⟨rfl, rfl⟩
    exact h ⟨front, rest, by simp [htext]⟩
  · rintro h ⟨front, rest, htext⟩
    have hbraces : text.toList = front ++ openBrace :: openBrace :: rest := by
      rw [← htext]
      simp
    exact h hbraces ⟨rfl, rfl⟩

/-- Two texts are put together where not both of them have a brace at the seam. -/
theorem Apart.append_of_seam {a b : String} (ha : Apart a) (hb : Apart b)
    (hseam : a.toList.getLast? ≠ some openBrace ∨ b.toList.head? ≠ some openBrace) :
    Apart (a ++ b) := by
  rw [apart_iff_isChain] at ha hb ⊢
  rw [String.toList_append]
  refine ha.append hb fun x hx y hy => ?_
  rintro ⟨rfl, rfl⟩
  rcases hseam with hlast | hhead
  · exact hlast hx
  · exact hhead hy

theorem Apart.append {a b : String} (ha : Apart a) (hb : Tight b) : Apart (a ++ b) :=
  ha.append_of_seam hb.apart (.inr hb.head)

theorem tight_of_not_mem {text : String} (h : openBrace ∉ text.toList) : Tight text where
  apart := fun hbraces => h (hbraces.subset List.mem_cons_self)
  head := fun hhead => h (List.mem_of_head? hhead)

theorem Tight.append {a b : String} (ha : Tight a) (hb : Tight b) : Tight (a ++ b) where
  apart := ha.apart.append hb
  head := by
    rw [String.toList_append, List.head?_append]
    cases hhead : a.toList.head? with
    | none => exact hb.head
    | some c =>
      have hfirst := ha.head
      rw [hhead] at hfirst
      exact hfirst

/-- Any text may follow a label. -/
theorem Label.append {label text : String} (hlabel : Label label) (htext : Apart text) :
    Tight (label ++ text) where
  apart := by
    obtain ⟨-, hnone⟩ := hlabel
    refine (tight_of_not_mem hnone).apart.append_of_seam htext (.inl fun hlast => ?_)
    exact hnone (List.mem_of_getLast? hlast)
  head := by
    obtain ⟨hne, hnone⟩ := hlabel
    rw [Ne, ← String.toList_inj] at hne
    obtain ⟨c, rest, hcons⟩ := List.exists_cons_of_ne_nil hne
    rw [String.toList_append, hcons]
    rintro ⟨⟩
    exact hnone (hcons ▸ List.mem_cons_self)

/-- Two texts with a label between them. -/
theorem Apart.append_label {a label b : String} (ha : Apart a) (hlabel : Label label)
    (hb : Apart b) : Apart (a ++ label ++ b) := by
  rw [String.append_assoc]
  exact ha.append (hlabel.append hb)

theorem apart_singleton (c : Char) : Apart (String.singleton c) := by
  intro hbraces
  have hlength := hbraces.length_le
  rw [String.toList_singleton] at hlength
  exact absurd hlength (by simp)

theorem tight_join {texts : List String} (h : ∀ text ∈ texts, Tight text) :
    Tight (String.join texts) := by
  induction texts with
  | nil => exact tight_of_not_mem (by decide)
  | cons text rest ih =>
    obtain ⟨htext, hrest⟩ := List.forall_mem_cons.mp h
    rw [String.join_cons]
    exact htext.append (ih hrest)

theorem tight_intercalate {separator : String} (hseparator : openBrace ∉ separator.toList)
    {texts : List String} (h : ∀ text ∈ texts, Tight text) :
    Tight (separator.intercalate texts) := by
  induction texts with
  | nil =>
    have hempty : Tight "" := tight_of_not_mem (by decide)
    exact hempty
  | cons text rest ih =>
    obtain ⟨htext, hrest⟩ := List.forall_mem_cons.mp h
    cases rest with
    | nil => exact htext
    | cons next others =>
      rw [String.intercalate_cons_cons]
      exact (htext.append (tight_of_not_mem hseparator)).append (ih hrest)

/-- A text that is apart holds no slot. -/
theorem Apart.not_slot_isInfix {text : String} (h : Apart text) (name : String) :
    ¬(Piece.slot name).chars <:+: text.toList := by
  intro hslot
  refine h (List.IsInfix.trans ?_ hslot)
  rw [Piece.chars_slot]
  exact List.IsPrefix.isInfix ⟨Piece.stem name, rfl⟩

end Text

namespace Piece

/-- Labels and slots in turn. -/
def weave (parts : List (String × String)) : List Piece :=
  parts.flatMap fun part => part.1.toList.map glyph ++ [slot part.2]

theorem chars_weave (parts : List (String × String)) :
    (weave parts).flatMap chars
      = (String.join (parts.map fun part => part.1 ++ App.slot part.2)).toList := by
  rw [weave, List.flatMap_assoc, String.toList_join, List.flatMap_map]
  refine List.flatMap_congr fun part _ => ?_
  rw [List.flatMap_append, flatMap_chars_glyphs, String.toList_append]
  exact congrArg (part.1.toList ++ ·) (List.append_nil _)

/-- A template of labels and slots is filled as it was read, if the values are apart. -/
theorem foldl_fill_weave {parts fillings : List (String × String)}
    (hlabels : ∀ part ∈ parts, Text.Label part.1 ∧ IsPlain part.2)
    (hnames : ∀ filling ∈ fillings, IsPlain filling.1)
    (hvalues : ∀ part ∈ parts, ∃ value, fillings.lookup part.2 = some value ∧ Text.Apart value) :
    fillings.foldl App.fill (String.join (parts.map fun part => part.1 ++ App.slot part.2))
      = String.join (parts.map fun part => part.1 ++ (fillings.lookup part.2).getD "") := by
  have htext : (weave parts).flatMap (filled fillings) = (String.join
      (parts.map fun part => part.1 ++ (fillings.lookup part.2).getD "")).toList := by
    rw [weave, List.flatMap_assoc, String.toList_join, List.flatMap_map]
    refine List.flatMap_congr fun part hpart => ?_
    obtain ⟨value, hvalue, -⟩ := hvalues part hpart
    rw [List.flatMap_append, List.flatMap_map, hvalue, String.toList_append]
    simp [filled, hvalue]
  have hapart : Text.Apart
      (String.join (parts.map fun part => part.1 ++ (fillings.lookup part.2).getD "")) := by
    refine (Text.tight_join fun text hmem => ?_).apart
    obtain ⟨part, hpart, rfl⟩ := List.mem_map.mp hmem
    obtain ⟨value, hvalue, hfree⟩ := hvalues part hpart
    rw [hvalue]
    exact (hlabels part hpart).1.append hfree
  have hplain : PlainSlots (weave parts) := by
    intro name hmem
    obtain ⟨part, hpart, hslot⟩ := List.mem_flatMap.mp hmem
    rcases List.mem_append.mp hslot with hglyph | hslot
    · obtain ⟨c, -, heq⟩ := List.mem_map.mp hglyph
      cases heq
    · cases List.mem_singleton.mp hslot
      exact (hlabels part hpart).2
  -- the text that comes of it holds no slot, so none has come up on the way
  have hundisturbed : Undisturbed (weave parts) fillings := by
    refine undisturbed_of_not_isInfix fun filling _ => ?_
    rw [chars_after, htext]
    exact hapart.not_slot_isInfix filling.1
  have hfill := toList_foldl_fill (chars_weave parts).symm hplain hnames hundisturbed
  rw [chars_after, htext] at hfill
  exact String.toList_inj.mp hfill

end Piece

end CommandFront
