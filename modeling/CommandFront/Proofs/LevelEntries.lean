import CommandFront.Arguments.CommandLine
import CommandFront.Proofs.PhraseScan

/-!
# What the flags of a level hold

A scan notes what is given under the name of the flag, in the order in which it comes, and refuses a
flag that comes again. What a flag holds is looked up by name as well. On a level where no two flags
share a name, the look-up therefore finds what was given to this flag, under whichever of its
spellings, and the default of the flag if nothing was.

Global flags are on two levels. Each level on its own fills in the default where nothing is given,
so that one is marked, and it gives way to what was given on the other level.

- `Scan.noteAll_eq_ok_iff`: flags can be noted when none of them comes twice.
- `Flag.entryOf`: what a flag holds that was given something, or nothing.
- `Scan.entries_noted`: on a distinct level, a flag holds what it was given under any spelling.
- `Flag.merge_entryOf`: on two levels, a flag holds what it was given on the inner one, else what
  it was given on the outer one, else its default.
-/

namespace CommandFront

/-! ## Noting flags -/

/-- The names of flags that are given something. -/
def namesOf (l : List (Flag × FlagContent)) : List String :=
  l.map fun g => g.1.name

/-- Flags whose names are different are different. -/
theorem nodup_fst_of_namesOf {l : List (Flag × FlagContent)} (h : (namesOf l).Nodup) :
    (l.map Prod.fst).Nodup := by
  refine List.pairwise_map.mpr ((List.pairwise_map.mp h).imp fun hne heq => ?_)
  exact hne (congrArg Flag.name heq)

theorem lookup_eq_none_of_not_mem_namesOf {l : List (Flag × FlagContent)} {f : Flag}
    (h : f.name ∉ namesOf l) : l.lookup f = none := by
  refine AssocList.lookup_eq_none_iff.mpr fun hkey => h ?_
  obtain ⟨g, hg, rfl⟩ := List.mem_map.mp hkey
  exact List.mem_map_of_mem hg

namespace Scan

/-- The state after all of some flags have been noted. -/
def noted (s : Scan) (l : List (Flag × FlagContent)) : Scan :=
  { s with given := (l.map fun g => (g.1.name, g.2)).reverse ++ s.given }

/-- Noting several flags is noting the first one and then the others. -/
theorem noted_cons (s : Scan) (flag : Flag) (content : FlagContent)
    (l : List (Flag × FlagContent)) :
    s.noted ((flag, content) :: l) = (s.note flag.name content).noted l := by
  simp [noted, note]

theorem given_noted (l : List (Flag × FlagContent)) :
    ((∅ : Scan).noted l).given = (l.map fun g => (g.1.name, g.2)).reverse :=
  List.append_nil _

theorem mem_given_noted {l : List (Flag × FlagContent)} {pair : String × FlagContent} :
    pair ∈ ((∅ : Scan).noted l).given ↔ ∃ g ∈ l, (g.1.name, g.2) = pair := by
  rw [given_noted, List.mem_reverse, List.mem_map]

/-- What has been noted last comes first. -/
theorem names_given_noted {l : List (Flag × FlagContent)} :
    ((∅ : Scan).noted l).given.map Prod.fst = (namesOf l).reverse := by
  rw [given_noted, List.map_reverse, List.map_map]
  rfl

theorem has_note {s : Scan} {name : String} {content : FlagContent} {flag : Flag} :
    (s.note name content).has flag = false ↔ flag.name ≠ name ∧ s.has flag = false := by
  unfold has note
  rw [AssocList.lookup_cons]
  by_cases hname : flag.name = name
  · simp [hname]
  · simp [hname]

/-- Flags can be noted when none of them comes twice and none has come before. -/
theorem noteAll_eq_ok_iff {s t : Scan} {l : List (Flag × FlagContent)} :
    s.noteAll l = .ok t
      ↔ (namesOf l).Nodup ∧ (∀ g ∈ l, s.has g.1 = false) ∧ t = s.noted l := by
  induction l generalizing s with
  | nil =>
    constructor
    · intro h
      cases h
      exact ⟨List.nodup_nil, fun g hg => absurd hg List.not_mem_nil, rfl⟩
    · rintro ⟨-, -, rfl⟩
      rfl
  | cons g rest ih =>
    obtain ⟨flag, content⟩ := g
    rw [noteAll, noted_cons]
    constructor
    · intro h
      split at h
      case isTrue => cases h
      case isFalse hnew =>
        obtain ⟨hnodup, hfree, rfl⟩ := ih.mp h
        refine ⟨List.nodup_cons.mpr ⟨fun hmem => ?_, hnodup⟩, ?_, rfl⟩
        · obtain ⟨g, hg, hname⟩ := List.mem_map.mp hmem
          exact (has_note.mp (hfree g hg)).1 hname
        · exact List.forall_mem_cons.mpr
            ⟨Bool.eq_false_iff.mpr hnew, fun g hg => (has_note.mp (hfree g hg)).2⟩
    · rintro ⟨hnames, hfree, rfl⟩
      obtain ⟨hfirst, hnodup⟩ := List.nodup_cons.mp hnames
      obtain ⟨hnew, hrest⟩ := List.forall_mem_cons.mp hfree
      rw [if_neg (Bool.eq_false_iff.mp hnew)]
      refine ih.mpr ⟨hnodup, fun g hg => has_note.mpr ⟨?_, hrest g hg⟩, rfl⟩
      -- noting the first flag takes its name, which none of the others has
      exact fun hname => hfirst (List.mem_map.mpr ⟨g, hg, hname⟩)

theorem noteAll_empty_eq_ok_iff {t : Scan} {l : List (Flag × FlagContent)} :
    (∅ : Scan).noteAll l = .ok t ↔ (namesOf l).Nodup ∧ t = (∅ : Scan).noted l := by
  rw [noteAll_eq_ok_iff]
  have hfree : ∀ g ∈ l, (∅ : Scan).has g.1 = false := fun _ _ => rfl
  constructor
  · rintro ⟨hnodup, -, ht⟩
    exact ⟨hnodup, ht⟩
  · rintro ⟨hnodup, ht⟩
    exact ⟨hnodup, hfree, ht⟩

end Scan

/-! ## What a flag holds on one level -/

/-- What a flag holds that was given something, or nothing. -/
def Flag.entryOf (f : Flag) (content : Option FlagContent) : Option Entry :=
  match content with
  | some content => some ⟨content, true⟩
  | none => f.defaultEntry

section Entries

variable {level : Level} {l : List (Flag × FlagContent)}

/-- What is noted under the name of a flag was given to the flag: on a distinct level, no other
one has its name. -/
theorem Scan.lookup_noted (hlevel : level.Distinct) (hl : ∀ g ∈ l, g.1 ∈ level)
    (hnodup : (namesOf l).Nodup) {f : Flag} (hf : f ∈ level) :
    ((∅ : Scan).noted l).given.lookup f.name = l.lookup f := by
  have hflags := nodup_fst_of_namesOf hnodup
  have hkeys : (((∅ : Scan).noted l).given.map Prod.fst).Nodup := by
    rw [Scan.names_given_noted]
    exact (List.reverse_perm _).nodup_iff.mpr hnodup
  refine Option.ext fun content => ?_
  rw [AssocList.lookup_eq_some_iff_mem hkeys, AssocList.lookup_eq_some_iff_mem hflags,
    Scan.mem_given_noted]
  constructor
  · rintro ⟨⟨g, found⟩, hg, heq⟩
    obtain ⟨hname, rfl⟩ := Prod.mk.inj heq
    rw [← hlevel.eq_of_name_eq (hl _ hg) hf hname]
    exact hg
  · exact fun hg => ⟨(f, content), hg, rfl⟩

/-- On a distinct level, a flag holds what it was given under any of its spellings. -/
theorem Scan.entries_noted (hlevel : level.Distinct) (hl : ∀ g ∈ l, g.1 ∈ level)
    (hnodup : (namesOf l).Nodup) {f : Flag} (hf : f ∈ level) :
    ((∅ : Scan).noted l).entries level f.name = f.entryOf (l.lookup f) := by
  unfold Scan.entries
  rw [Scan.lookup_noted hlevel hl hnodup hf, hlevel.get?_eq_some_iff.mpr ⟨hf, rfl⟩]
  rfl

/-- Nothing is held under a name that no flag of the level has. -/
theorem Scan.entries_noted_eq_none (hl : ∀ g ∈ l, g.1 ∈ level) {name : String}
    (hname : ∀ f ∈ level, f.name ≠ name) :
    ((∅ : Scan).noted l).entries level name = none := by
  have hgiven : ((∅ : Scan).noted l).given.lookup name = none := by
    refine AssocList.lookup_eq_none_iff.mpr fun hmem => ?_
    rw [Scan.names_given_noted, List.mem_reverse] at hmem
    obtain ⟨g, hg, hkey⟩ := List.mem_map.mp hmem
    exact hname g.1 (hl g hg) hkey
  have hfind : level.get? name = none :=
    List.find?_eq_none.mpr fun f hf => by
      rw [decide_eq_true_eq]
      exact hname f hf
  unfold Scan.entries
  rw [hgiven, hfind]
  rfl

end Entries

/-! ## What a flag holds on two levels -/

theorem Flag.given_eq_false_of_defaultEntry {f : Flag} {e : Entry} (h : f.defaultEntry = some e) :
    e.given = false := by
  unfold Flag.defaultEntry at h
  split at h
  · cases h
    rfl
  · obtain ⟨text, -, rfl⟩ := Option.map_eq_some_iff.mp h
    rfl

/-- What was given on the inner level beats what was given on the outer one, and both beat a
default, also one that holds on the inner level only because nothing was given there. -/
theorem Flag.merge_entryOf {f : Flag} {outer inner : Matches} {o i : Option FlagContent}
    (houter : outer f.name = f.entryOf o) (hinner : inner f.name = f.entryOf i) :
    outer.merge inner f.name = f.entryOf (i.or o) := by
  unfold Matches.merge
  rw [houter, hinner]
  cases i with
  | some content =>
    show _ = some (⟨content, true⟩ : Entry)
    cases hentry : f.entryOf o with
    | none => rfl
    | some e =>
      show some (e.merge ⟨content, true⟩) = _
      rw [Entry.merge, Bool.not_true, Bool.and_false]
      rfl
  | none =>
    rw [Option.none_or]
    cases o with
    | some content =>
      show _ = some (⟨content, true⟩ : Entry)
      cases hentry : f.entryOf none with
      | none => rfl
      | some e =>
        -- the inner level only holds a default, which gives way
        have hdefault : e.given = false := f.given_eq_false_of_defaultEntry hentry
        show some (Entry.merge ⟨content, true⟩ e) = _
        rw [Entry.merge, hdefault]
        rfl
    | none =>
      cases hentry : f.entryOf none with
      | none => rfl
      | some e =>
        show some (e.merge e) = some e
        rw [Entry.merge, ite_self]

end CommandFront
