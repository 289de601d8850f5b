import CommandFront.Proofs.TrieTree

/-!
# The order in which a prefix trie lists its values

The walk of a trie takes nodes from a stack. Below one node it lists the values of a subtree; the
subtrees of the children come one after another, so the values are ordered by their keys.

The walk itself keeps no keys: it lists values, and which key a value belongs to is known from the
path only. So the listing of a subtree is defined with its paths, beside the walk, and the values of
the walk are shown to be those of the listing. The edges of a node are ordered by character, and a
path sorts before all its extensions; from these two facts the order of the keys follows by
recursion over the tree.

- `PrefixTrie.listing`: the paths below a node that end in a value, with these values.
- `PrefixTrie.filterMap_visit`: the walk lists the subtrees of the nodes on its stack.
- `PrefixTrie.mem_listing`, `PrefixTrie.sorted_listing`: in a tree, the listing holds every path
  with a value, by increasing path.
- `PrefixTrie.keysFrom`: the keys with a given beginning, one for each value listed.
- `PrefixTrie.matching_ofList`: after any insertions, the listing is the map from keys to their
  last values, restricted to the keys with a given beginning and sorted by key.
-/

namespace CommandFront

namespace PrefixTrie

/-! ## The listing of a subtree -/

/-- The paths from a node that end in a value, with these values: first the node itself, then the
subtrees of its children. -/
def listing (t : PrefixTrie) (i : Nat) : List (List Char × String) :=
  (t.node i).value.toList.map (fun value => ([], value))
    ++ (t.node i).children.attach.flatMap fun edge =>
      (t.listing edge.1.2).map fun entry => (edge.1.1 :: entry.1, entry.2)
termination_by t.nodes.size - i
decreasing_by
  have := lt_child edge.2
  omega

/-- Below a node there is its own value, and then what is below its children. -/
theorem listing_eq (t : PrefixTrie) (i : Nat) :
    t.listing i = (t.node i).value.toList.map (fun value => ([], value))
      ++ (t.node i).children.flatMap fun edge =>
        (t.listing edge.2).map fun entry => (edge.1 :: entry.1, entry.2) := by
  rw [listing, ← List.flatMap_map Subtype.val fun edge : Char × Nat =>
    (t.listing edge.2).map fun entry => (edge.1 :: entry.1, entry.2), List.attach_map_subtype_val]

/-- So are the values of the listing. -/
theorem values_listing (t : PrefixTrie) (i : Nat) :
    (t.listing i).map Prod.snd = (t.node i).value.toList
      ++ (t.node i).children.flatMap fun edge => (t.listing edge.2).map Prod.snd := by
  rw [listing_eq, List.map_append, List.map_flatMap, List.map_map]
  simp [Function.comp_def]

/-- The walk lists the subtrees of the nodes on its stack, one after another. -/
theorem filterMap_visit (t : PrefixTrie) (stack : List Nat) :
    (t.visit stack).filterMap (fun j => (t.node j).value)
      = stack.flatMap fun i => (t.listing i).map Prod.snd := by
  fun_induction visit t stack with
  | case1 => rfl
  | case2 i stack ih =>
    rw [List.filterMap_cons, ih, List.flatMap_append, List.flatMap_map, List.flatMap_cons,
      values_listing]
    cases (t.node i).value with
    | none => rfl
    | some value => rfl

/-- The listing holds the paths that end in a value. -/
theorem mem_listing {t : PrefixTrie} (h : t.IsTree) {i : Nat} {path : List Char} {value : String} :
    (path, value) ∈ t.listing i ↔ t.valueAt i path = some value := by
  induction path generalizing i with
  | nil =>
    rw [listing_eq, List.mem_append]
    show _ ↔ (t.node i).value = some value
    simp
  | cons c path ih =>
    -- a path that is not empty ends below a child, so the value of the node itself is out
    have hbelow : t.valueAt i (c :: path) = some value
        ↔ ∃ j, (c, j) ∈ (t.node i).children ∧ t.valueAt j path = some value := by
      show ((t.child? i c).bind _).bind _ = _ ↔ _
      rw [Option.bind_assoc, Option.bind_eq_some_iff]
      exact exists_congr fun j => and_congr_left fun _ => h.mem_children_iff
    rw [hbelow, listing_eq, List.mem_append, List.mem_flatMap]
    constructor
    · rintro (hroot | ⟨edge, hedge, hentry⟩)
      · simp at hroot
      · obtain ⟨entry, hmem, heq⟩ := List.mem_map.mp hentry
        cases heq
        exact ⟨edge.2, hedge, ih.mp hmem⟩
    · rintro ⟨j, hedge, hvalue⟩
      exact .inr ⟨(c, j), hedge, List.mem_map.mpr ⟨(path, value), ih.mpr hvalue, rfl⟩⟩

/-- A node comes before its extensions, and the subtrees of its children by their characters. -/
theorem sorted_listing {t : PrefixTrie} (h : t.IsTree) (i : Nat) :
    (t.listing i).Pairwise fun a b => a.1 < b.1 := by
  induction i using listing.induct t with
  | case1 i ih =>
    rw [listing_eq, List.pairwise_append]
    refine ⟨?_, ?_, ?_⟩
    · cases (t.node i).value with
      | none => exact List.Pairwise.nil
      | some value => exact List.pairwise_singleton _ _
    · refine List.pairwise_flatMap.mpr ⟨fun edge hedge => ?_, ?_⟩
      · have hbelow := ih ⟨edge, hedge⟩
        exact List.pairwise_map.mpr (hbelow.imp fun hlt => List.cons_lt_cons_self.mpr hlt)
      · refine (h.sorted i).imp fun hlt x hx y hy => ?_
        obtain ⟨p, -, rfl⟩ := List.mem_map.mp hx
        obtain ⟨q, -, rfl⟩ := List.mem_map.mp hy
        exact List.cons_lt_cons_iff.mpr (.inl hlt)
    · intro x hx y hy
      obtain ⟨value, -, rfl⟩ := List.mem_map.mp hx
      obtain ⟨edge, -, hy⟩ := List.mem_flatMap.mp hy
      obtain ⟨q, -, rfl⟩ := List.mem_map.mp hy
      exact List.nil_lt_cons _ _

/-! ## The keys of the listing -/

/-- The keys with a given beginning, in the order of the listing below that beginning. -/
def keysFrom (t : PrefixTrie) (start : String) : List String :=
  match t.find? start with
  | none => []
  | some i => (t.listing i).map fun entry => start ++ String.ofList entry.1

section KeysFrom

variable {t : PrefixTrie} {start : String}

/-- A key that begins with the text of a node is looked up from that node. -/
theorem get?_append {i : Nat} (hi : t.find? start = some i) (path : List Char) :
    t.get? (start ++ String.ofList path) = t.valueAt i path := by
  rw [get?, find?_append, hi]
  rfl

/-- Each value is listed under its key. -/
theorem map_some_matching (h : t.IsTree) :
    (t.matching start).map some = (t.keysFrom start).map t.get? := by
  unfold matching keysFrom
  cases hi : t.find? start with
  | none => rfl
  | some i =>
    show ((t.visit [i]).filterMap _).map some = _
    rw [filterMap_visit, List.flatMap_singleton, List.map_map, List.map_map]
    refine List.map_congr_left fun entry hentry => ?_
    exact ((get?_append hi entry.1).trans ((mem_listing h).mp hentry)).symm

theorem exists_eq_append {key : String} (h : start.toList <+: key.toList) :
    ∃ path, key = start ++ String.ofList path := by
  obtain ⟨path, hpath⟩ := h
  exact ⟨path, String.toList_injective (by simp [hpath])⟩

/-- The keys that are listed are those with a value and the given beginning. -/
theorem mem_keysFrom (h : t.IsTree) {key : String} :
    key ∈ t.keysFrom start ↔ start.toList <+: key.toList ∧ (t.get? key).isSome := by
  unfold keysFrom
  cases hi : t.find? start with
  | none =>
    refine ⟨fun hmem => absurd hmem List.not_mem_nil, ?_⟩
    rintro ⟨hstart, hsome⟩
    -- no node at the beginning, so none at any key that has it
    obtain ⟨path, rfl⟩ := exists_eq_append hstart
    rw [get?, find?_append, hi] at hsome
    cases hsome
  | some i =>
    constructor
    · intro hmem
      obtain ⟨entry, hentry, rfl⟩ := List.mem_map.mp hmem
      rw [get?_append hi, (mem_listing h).mp hentry]
      exact ⟨⟨entry.1, by simp⟩, rfl⟩
    · rintro ⟨hstart, hsome⟩
      obtain ⟨path, rfl⟩ := exists_eq_append hstart
      obtain ⟨value, hvalue⟩ := Option.isSome_iff_exists.mp hsome
      rw [get?_append hi] at hvalue
      exact List.mem_map.mpr ⟨(path, value), (mem_listing h).mpr hvalue, rfl⟩

/-- The keys are listed in order, each once. -/
theorem sorted_keysFrom (h : t.IsTree) : (t.keysFrom start).Pairwise (· < ·) := by
  unfold keysFrom
  cases t.find? start with
  | none => exact List.Pairwise.nil
  | some i =>
    refine List.pairwise_map.mpr ((sorted_listing h i).imp fun {a b} hlt => ?_)
    show (start ++ String.ofList a.1).toList < (start ++ String.ofList b.1).toList
    simp only [String.toList_append, String.toList_ofList]
    exact List.append_left_lt hlt

end KeysFrom

/-! ## After any insertions -/

/-- The keys that were inserted and have a given beginning, each once and in order. -/
def keysBeginning (entries : List (String × String)) (start : String) : List String :=
  ((entries.map Prod.fst).eraseDups.filter fun key => start.toList.isPrefixOf key.toList).mergeSort
    fun a b => decide (a ≤ b)

section OfList

variable {entries : List (String × String)} {start : String}

/-- The keys with a given beginning, said of the insertions. -/
theorem mem_keysBeginning {key : String} :
    key ∈ keysBeginning entries start
      ↔ key ∈ entries.map Prod.fst ∧ start.toList <+: key.toList := by
  rw [keysBeginning, List.mem_mergeSort, List.mem_filter, List.mem_eraseDups,
    List.isPrefixOf_iff_prefix]

theorem nodup_keysBeginning : (keysBeginning entries start).Nodup :=
  (List.mergeSort_perm _ _).symm.nodup ((nodup_eraseDups _).filter _)

theorem sorted_keysBeginning : (keysBeginning entries start).Pairwise (· < ·) := by
  have hle : (keysBeginning entries start).Pairwise fun a b => decide (a ≤ b) := by
    refine List.pairwise_mergeSort (fun a b c hab hbc => ?_) (fun a b => ?_) _
    · exact decide_eq_true (String.le_trans (of_decide_eq_true hab) (of_decide_eq_true hbc))
    · simpa using String.le_total a b
  refine (hle.and nodup_keysBeginning).imp ?_
  rintro a b ⟨hab, hne⟩
  exact Std.lt_of_le_of_ne (of_decide_eq_true hab) hne

/-- After some insertions, the keys that are listed are those inserted with the given beginning. -/
theorem keysFrom_ofList : (ofList entries).keysFrom start = keysBeginning entries start := by
  -- two strictly sorted lists with the same members are one list
  refine eq_of_sorted_of_mem_iff (sorted_keysFrom (isTree_ofList entries)) sorted_keysBeginning ?_
  intro key
  rw [mem_keysFrom (isTree_ofList entries), mem_keysBeginning, get?_ofList, lastValue?_isSome_iff,
    and_comm]

/-- Each of them is listed with its last value. -/
theorem map_some_matching_ofList :
    ((ofList entries).matching start).map some
      = (keysBeginning entries start).map (lastValue? entries) := by
  rw [map_some_matching (isTree_ofList entries), keysFrom_ofList]
  exact List.map_congr_left fun key _ => get?_ofList entries key

theorem length_matching_ofList :
    ((ofList entries).matching start).length = (keysBeginning entries start).length := by
  rw [← List.length_map some, map_some_matching_ofList, List.length_map]

/-- The listing depends on the last values only. -/
theorem matching_ofList_congr {others : List (String × String)}
    (h : ∀ key, lastValue? others key = lastValue? entries key) :
    (ofList others).matching start = (ofList entries).matching start := by
  have hkeys : keysBeginning others start = keysBeginning entries start := by
    refine eq_of_sorted_of_mem_iff sorted_keysBeginning sorted_keysBeginning fun key => ?_
    rw [mem_keysBeginning, mem_keysBeginning, ← lastValue?_isSome_iff, ← lastValue?_isSome_iff, h]
  refine (List.map_inj_right fun _ _ => Option.some.inj).mp ?_
  rw [map_some_matching_ofList, map_some_matching_ofList, hkeys]
  exact List.map_congr_left fun key _ => h key

/-- Where no key comes twice, the order of the insertions does not matter for the last values. -/
theorem lastValue?_perm {others : List (String × String)} (hperm : others.Perm entries)
    (hnodup : (entries.map Prod.fst).Nodup) (key : String) :
    lastValue? others key = lastValue? entries key := by
  have hrev : (entries.reverse.map Prod.fst).Nodup :=
    ((List.reverse_perm entries).map Prod.fst).symm.nodup hnodup
  have hothers : (others.reverse.map Prod.fst).Nodup :=
    (((List.reverse_perm others).trans hperm).map Prod.fst).symm.nodup hnodup
  refine Option.ext fun value => ?_
  rw [lastValue?, lastValue?, AssocList.lookup_eq_some_iff_mem hothers,
    AssocList.lookup_eq_some_iff_mem hrev, List.mem_reverse, List.mem_reverse, hperm.mem_iff]

end OfList

/-- After any insertions, the values listed for a beginning are the last values of the distinct
inserted keys that have it, one for each key, by increasing key. So the list is empty only if no
key has the beginning, the empty beginning lists one value for each key, and the order in which
distinct keys were inserted does not matter. -/
theorem matching_ofList (entries : List (String × String)) (start : String) :
    ((ofList entries).matching start).map some
        = (keysBeginning entries start).map (lastValue? entries)
      ∧ (keysBeginning entries start).Pairwise (· < ·)
      ∧ (∀ key, key ∈ keysBeginning entries start
          ↔ key ∈ entries.map Prod.fst ∧ start.toList <+: key.toList)
      ∧ ((ofList entries).matching start = []
          ↔ ∀ key ∈ entries.map Prod.fst, ¬start.toList <+: key.toList)
      ∧ ((ofList entries).matching "").length = (entries.map Prod.fst).eraseDups.length
      ∧ (∀ others : List (String × String),
          (∀ key, lastValue? others key = lastValue? entries key) →
            (ofList others).matching start = (ofList entries).matching start)
      ∧ ∀ others : List (String × String), others.Perm entries → (entries.map Prod.fst).Nodup →
          (ofList others).matching start = (ofList entries).matching start := by
  refine ⟨map_some_matching_ofList, sorted_keysBeginning, fun key => mem_keysBeginning, ?_, ?_,
    fun others h => matching_ofList_congr h,
    fun others hperm hnodup => matching_ofList_congr (lastValue?_perm hperm hnodup)⟩
  · -- empty exactly when no inserted key has the beginning
    rw [← List.length_eq_zero_iff, length_matching_ofList, List.length_eq_zero_iff,
      List.eq_nil_iff_forall_not_mem]
    refine forall_congr' fun key => ?_
    rw [mem_keysBeginning, not_and]
  · -- the empty beginning excludes no key
    rw [length_matching_ofList, keysBeginning, List.length_mergeSort, List.filter_eq_self.mpr]
    intro key _
    rfl

/-- Two orders of insertion give two arrays of nodes and one listing. -/
theorem matching_ofList_swapped :
    [("grün", "1"), ("größe", "2")].Perm [("größe", "2"), ("grün", "1")]
      ∧ (ofList [("grün", "1"), ("größe", "2")]).nodes
        ≠ (ofList [("größe", "2"), ("grün", "1")]).nodes
      ∧ (ofList [("grün", "1"), ("größe", "2")]).matching "gr"
        = (ofList [("größe", "2"), ("grün", "1")]).matching "gr" :=
  ⟨by decide, by decide,
    (matching_ofList [("größe", "2"), ("grün", "1")] "gr").2.2.2.2.2.2 _ (by decide) (by decide)⟩

end PrefixTrie

end CommandFront
