import CommandFront.PrefixTrie.Basic
import CommandFront.Proofs.Lists

/-!
# The tree shape of prefix tries

Insertion extends the nodes along one path. That all other paths keep their ends and their values
rests on the shape of the array of nodes: no node is reached along two paths.

An array of nodes may well hold two edges to one node, and then a value that is set on one path
would show on another. That no insertion leads to this is the invariant `IsTree`. It is preserved
step by step: by a new leaf, by growing along a path, and by setting a value. What the paths lead to
after each of these steps is said beside it, so that the laws of a map follow for one insertion and
then, by induction, for a list of them.

- `PrefixTrie.valueAt`: the value at the end of a path from a node.
- `PrefixTrie.IsTree`: the children of a node are ordered by character, and no node is the child
  of two nodes or under two characters.
- `PrefixTrie.follow?_inj`: in a tree, a node is reached from another along one path only.
- `PrefixTrie.get?_insert`, `PrefixTrie.size_insert`: an insertion changes what is held under its
  own key, and nothing else.
- `PrefixTrie.get?_ofList`: after any insertions a key has the value that it was given last.
-/

namespace CommandFront

namespace PrefixTrie

/-- The value at the end of a path from a node. -/
def valueAt (t : PrefixTrie) (i : Nat) (path : List Char) : Option String :=
  (t.follow? i path).bind fun j => (t.node j).value

/-- The nodes form a tree with ordered children. -/
structure IsTree (t : PrefixTrie) : Prop where
  sorted : ∀ i, (t.node i).children.Pairwise fun a b => a.1 < b.1
  parent_unique : ∀ {i j k : Nat} {c d : Char},
    (c, k) ∈ (t.node i).children → (d, k) ∈ (t.node j).children → i = j ∧ c = d

/-! ## Edges -/

theorem nodup_of_sorted {edges : List (Char × Nat)}
    (h : edges.Pairwise fun a b => a.1 < b.1) : (edges.map Prod.fst).Nodup := by
  refine List.pairwise_map.mpr (h.imp ?_)
  intro a b hlt he
  exact Char.lt_irrefl b.1 (he ▸ hlt)

/-- A new edge is found under its character, and the others as before. -/
theorem lookup_insertEdge {c d : Char} {j : Nat} {edges : List (Char × Nat)}
    (h : edges.lookup c = none) :
    (insertEdge c j edges).lookup d = if d = c then some j else edges.lookup d := by
  induction edges with
  | nil => exact AssocList.lookup_cons
  | cons edge rest ih =>
    rw [AssocList.lookup_cons] at h
    split at h
    · cases h
    · rename_i hne
      rw [insertEdge]
      split
      · rw [AssocList.lookup_cons, AssocList.lookup_cons, ih h]
        by_cases hd : d = edge.1
        · rw [if_pos hd, if_pos hd, if_neg (hd ▸ Ne.symm hne)]
        · rw [if_neg hd, if_neg hd]
      · exact AssocList.lookup_cons

/-- The edges stay ordered when one is added under a new character. -/
theorem sorted_insertEdge {c : Char} {j : Nat} {edges : List (Char × Nat)}
    (h : edges.Pairwise fun a b => a.1 < b.1) (hc : c ∉ edges.map Prod.fst) :
    (insertEdge c j edges).Pairwise fun a b => a.1 < b.1 := by
  induction edges with
  | nil => simp [insertEdge]
  | cons edge rest ih =>
    obtain ⟨hfirst, hrest⟩ := List.pairwise_cons.mp h
    obtain ⟨hne, hnone⟩ := not_or.mp (mt List.mem_cons.mpr hc)
    rw [insertEdge]
    split
    · rename_i hlt
      refine List.pairwise_cons.mpr ⟨fun e he => ?_, ih hrest hnone⟩
      rcases mem_insertEdge.mp he with rfl | hold
      · exact hlt
      · exact hfirst e hold
    · rename_i hnlt
      -- the new edge is the first, and the old first one is below all others
      have hlt : c < edge.1 := Std.lt_of_le_of_ne (Std.not_lt.mp hnlt) hne
      refine List.pairwise_cons.mpr ⟨fun e he => ?_, h⟩
      rcases List.mem_cons.mp he with rfl | hold
      · exact hlt
      · exact Std.lt_trans hlt (hfirst e hold)

/-! ## Paths -/

/-- A child comes after its parent, and both are nodes. -/
theorem lt_of_child?_eq_some {t : PrefixTrie} {i j : Nat} {c : Char} (h : t.child? i c = some j) :
    i < j ∧ j < t.nodes.size :=
  lt_child (AssocList.mem_of_lookup_eq_some h)

/-- A path is followed in two parts. -/
theorem follow?_append {t : PrefixTrie} {i : Nat} {p q : List Char} :
    t.follow? i (p ++ q) = (t.follow? i p).bind fun j => t.follow? j q := by
  induction p generalizing i with
  | nil => rfl
  | cons c p ih =>
    show (t.child? i c).bind _ = ((t.child? i c).bind _).bind _
    rw [Option.bind_assoc]
    exact congrArg _ (funext fun j => ih)

/-- The node of a text that goes on lies below the node of its beginning. -/
theorem find?_append {t : PrefixTrie} {start : String} {path : List Char} :
    t.find? (start ++ String.ofList path) = (t.find? start).bind fun i => t.follow? i path := by
  rw [find?, String.toList_append, String.toList_ofList, follow?_append]
  rfl

/-- The last step of a path goes to a child of the node before it. -/
theorem follow?_concat_eq_some {t : PrefixTrie} {i k : Nat} {p : List Char} {c : Char} :
    t.follow? i (p.concat c) = some k ↔ ∃ j, t.follow? i p = some j ∧ t.child? j c = some k := by
  rw [List.concat_eq_append, follow?_append, Option.bind_eq_some_iff]
  refine exists_congr fun j => and_congr_right fun _ => ?_
  show (t.child? j c).bind some = some k ↔ _
  rw [Option.bind_fun_some]

/-- In a tree, the edges of a node are what it finds under their characters. -/
theorem IsTree.mem_children_iff {t : PrefixTrie} (h : t.IsTree) {i j : Nat} {c : Char} :
    t.child? i c = some j ↔ (c, j) ∈ (t.node i).children :=
  AssocList.lookup_eq_some_iff_mem (nodup_of_sorted (h.sorted i))

/-- A path leads on to later nodes. -/
theorem le_of_follow?_eq_some {t : PrefixTrie} {i k : Nat} {p : List Char}
    (h : t.follow? i p = some k) : i ≤ k := by
  induction p generalizing i with
  | nil => exact Nat.le_of_eq (Option.some.inj h)
  | cons c p ih =>
    obtain ⟨j, hj, hpath⟩ := Option.bind_eq_some_iff.mp h
    exact Nat.le_trans (Nat.le_of_lt (lt_of_child?_eq_some hj).1) (ih hpath)

/-- A path from a node leads to a node. -/
theorem follow?_lt {t : PrefixTrie} {i k : Nat} {p : List Char} (hi : i < t.nodes.size)
    (h : t.follow? i p = some k) : k < t.nodes.size := by
  induction p generalizing i with
  | nil => exact Option.some.inj h ▸ hi
  | cons c p ih =>
    obtain ⟨j, hj, hpath⟩ := Option.bind_eq_some_iff.mp h
    exact ih (lt_of_child?_eq_some hj).2 hpath

/-- In a tree, a node is reached from another along one path only. -/
theorem IsTree.follow?_inj {t : PrefixTrie} (h : t.IsTree) {p q : List Char} {i k : Nat}
    (hp : t.follow? i p = some k) (hq : t.follow? i q = some k) : p = q := by
  induction k using Nat.strongRecOn generalizing p q with
  | ind k ih =>
    -- the start is no child of a node below it, and any other node has one parent
    rcases List.eq_nil_or_concat p with rfl | ⟨p, c, rfl⟩ <;>
      rcases List.eq_nil_or_concat q with rfl | ⟨q, d, rfl⟩
    · rfl
    · obtain ⟨j, hqj, hj⟩ := follow?_concat_eq_some.mp hq
      obtain rfl : i = k := Option.some.inj hp
      exact absurd (le_of_follow?_eq_some hqj) (Nat.not_le_of_lt (lt_of_child?_eq_some hj).1)
    · obtain ⟨j, hpj, hj⟩ := follow?_concat_eq_some.mp hp
      obtain rfl : i = k := Option.some.inj hq
      exact absurd (le_of_follow?_eq_some hpj) (Nat.not_le_of_lt (lt_of_child?_eq_some hj).1)
    · obtain ⟨a, hpa, ha⟩ := follow?_concat_eq_some.mp hp
      obtain ⟨b, hqb, hb⟩ := follow?_concat_eq_some.mp hq
      obtain ⟨rfl, rfl⟩ := h.parent_unique (h.mem_children_iff.mp ha) (h.mem_children_iff.mp hb)
      rw [ih a (lt_of_child?_eq_some ha).1 hpa hqb]

/-! ## The root alone -/

theorem children_empty (i : Nat) : (empty.node i).children = [] := by
  cases i <;> rfl

/-- The root alone is a tree. -/
theorem isTree_empty : empty.IsTree where
  sorted i := by
    rw [children_empty]
    exact List.Pairwise.nil
  parent_unique h := by
    rw [children_empty] at h
    exact absurd h List.not_mem_nil

theorem get?_empty {key : String} : empty.get? key = none := by
  show (empty.follow? 0 key.toList).bind _ = none
  cases key.toList <;> rfl

/-! ## A new child -/

section AddChild

variable {t : PrefixTrie} {i : Nat} {c : Char}

/-- A new leaf changes the node that it hangs on, and no other node. -/
theorem node_addChild (hi : i < t.nodes.size) (k : Nat) :
    (t.addChild i c).node k =
      if k = i then
        { t.node i with children := insertEdge c t.nodes.size (t.node i).children }
      else t.node k := by
  unfold node addChild
  rw [Array.getElem?_push, Array.size_modify, Array.getElem?_modify]
  by_cases hk : k = i
  · rw [hk, if_neg (Nat.ne_of_lt hi), if_pos rfl, if_pos rfl, Array.getElem?_eq_getElem hi]
    rfl
  · rw [if_neg (Ne.symm hk), if_neg hk]
    split
    · rename_i hend
      rw [hend, Array.getElem?_eq_none (Nat.le_refl _)]
      rfl
    · rfl

theorem value_addChild (hi : i < t.nodes.size) {k : Nat} :
    ((t.addChild i c).node k).value = (t.node k).value := by
  rw [node_addChild hi]
  split
  · rename_i hk
    rw [hk]
  · rfl

/-- A new leaf is found under its character, and all other children as before. -/
theorem child?_addChild (hi : i < t.nodes.size) (hc : t.child? i c = none) {k : Nat} {d : Char} :
    (t.addChild i c).child? k d
      = if k = i ∧ d = c then some t.nodes.size else t.child? k d := by
  unfold child?
  rw [node_addChild hi]
  by_cases hk : k = i
  · rw [if_pos hk]
    show (insertEdge c t.nodes.size (t.node i).children).lookup d = _
    rw [lookup_insertEdge hc, hk]
    simp
  · rw [if_neg hk, if_neg (fun h => hk h.1)]

theorem mem_children_addChild (hi : i < t.nodes.size) {k : Nat} {edge : Char × Nat} :
    edge ∈ ((t.addChild i c).node k).children
      ↔ (k = i ∧ edge = (c, t.nodes.size)) ∨ edge ∈ (t.node k).children := by
  rw [node_addChild hi]
  by_cases hk : k = i
  · rw [if_pos hk, hk]
    show edge ∈ insertEdge _ _ _ ↔ _
    rw [mem_insertEdge]
    simp
  · rw [if_neg hk]
    simp [hk]

/-- A new leaf under a new character keeps the tree. -/
theorem IsTree.addChild (h : t.IsTree) (hi : i < t.nodes.size) (hc : t.child? i c = none) :
    (t.addChild i c).IsTree where
  sorted k := by
    rw [node_addChild hi]
    split
    · exact sorted_insertEdge (h.sorted i) (AssocList.lookup_eq_none_iff.mp hc)
    · exact h.sorted k
  parent_unique h₁ h₂ := by
    -- an old edge does not lead past the end, where the new node is
    rcases (mem_children_addChild hi).mp h₁ with ⟨rfl, he₁⟩ | hold₁ <;>
      rcases (mem_children_addChild hi).mp h₂ with ⟨rfl, he₂⟩ | hold₂
    · cases he₁
      cases he₂
      exact ⟨rfl, rfl⟩
    · cases he₁
      exact absurd (lt_child hold₂).2 (Nat.lt_irrefl _)
    · cases he₂
      exact absurd (lt_child hold₁).2 (Nat.lt_irrefl _)
    · exact h.parent_unique hold₁ hold₂

/-- A new child has no value, and neither has anything below it. -/
theorem valueAt_addChild (hi : i < t.nodes.size) (hc : t.child? i c = none) {k : Nat}
    {path : List Char} : (t.addChild i c).valueAt k path = t.valueAt k path := by
  induction path generalizing k with
  | nil => exact value_addChild hi
  | cons d path ih =>
    show (((t.addChild i c).child? k d).bind _).bind _ = ((t.child? k d).bind _).bind _
    rw [child?_addChild hi hc]
    split
    · rename_i h
      rw [h.1, h.2, hc]
      -- the path enters the new node, where the old trie has no node at all
      show (t.addChild i c).valueAt t.nodes.size path = none
      rw [ih]
      have hnode : t.node t.nodes.size = {} := by
        rw [node, Array.getElem?_eq_none (Nat.le_refl _)]
        rfl
      cases path with
      | nil => exact congrArg Node.value hnode
      | cons e path =>
        show ((((t.node t.nodes.size).children).lookup e).bind _).bind _ = none
        rw [hnode]
        rfl
    · rw [Option.bind_assoc, Option.bind_assoc]
      exact congrArg _ (funext fun j => ih)

end AddChild

/-! ## A grown path -/

section Grow

variable {t : PrefixTrie} {i : Nat} {path : List Char}

theorem size_grow : (t.grow i path).1.size = t.size := by
  fun_induction grow t i path with
  | case1 => rfl
  | case2 t i c path j _ ih => exact ih
  | case3 t i c path _ ih => exact ih

/-- Growing along a path ends at a node. -/
theorem grow_lt (hi : i < t.nodes.size) : (t.grow i path).2 < (t.grow i path).1.nodes.size := by
  fun_induction grow t i path with
  | case1 => exact hi
  | case2 t i c path j hj ih => exact ih (lt_of_child?_eq_some hj).2
  | case3 t i c path _ ih => exact ih (by simp)

/-- Growing along a path keeps the tree, as it adds nothing but new leaves. -/
theorem IsTree.grow (h : t.IsTree) (hi : i < t.nodes.size) : (t.grow i path).1.IsTree := by
  fun_induction PrefixTrie.grow t i path with
  | case1 => exact h
  | case2 t i c path j hj ih => exact ih h (lt_of_child?_eq_some hj).2
  | case3 t i c path hnone ih => exact ih (h.addChild hi hnone) (by simp)

/-- Growing a path changes no value. -/
theorem valueAt_grow (hi : i < t.nodes.size) {k : Nat} {q : List Char} :
    (t.grow i path).1.valueAt k q = t.valueAt k q := by
  fun_induction grow t i path with
  | case1 => rfl
  | case2 t i c path j hj ih => exact ih (lt_of_child?_eq_some hj).2
  | case3 t i c path hnone ih => exact (ih (by simp)).trans (valueAt_addChild hi hnone)

/-- Growing a path keeps every edge. -/
theorem child?_grow (hi : i < t.nodes.size) {k j : Nat} {d : Char} (h : t.child? k d = some j) :
    (t.grow i path).1.child? k d = some j := by
  fun_induction grow t i path with
  | case1 => exact h
  | case2 t i c path j' hj ih => exact ih (lt_of_child?_eq_some hj).2 h
  | case3 t i c path hnone ih =>
    -- an edge that is there already is not the new one
    refine ih (by simp) ?_
    rw [child?_addChild hi hnone, if_neg]
    · exact h
    · rintro ⟨rfl, rfl⟩
      rw [hnone] at h
      cases h

/-- A path that was grown leads to the node at its end. -/
theorem follow?_grow (hi : i < t.nodes.size) :
    (t.grow i path).1.follow? i path = some (t.grow i path).2 := by
  fun_induction grow t i path with
  | case1 => rfl
  | case2 t i c path j hj ih =>
    have hlt := (lt_of_child?_eq_some hj).2
    show ((t.grow j path).1.child? i c).bind _ = _
    rw [child?_grow hlt hj]
    exact ih hlt
  | case3 t i c path hnone ih =>
    have hlt : t.nodes.size < (t.addChild i c).nodes.size := by simp
    -- the new edge is kept while the rest of the path grows below it
    have hchild : (t.addChild i c).child? i c = some t.nodes.size := by
      rw [child?_addChild hi hnone, if_pos ⟨rfl, rfl⟩]
    show (((t.addChild i c).grow t.nodes.size path).1.child? i c).bind _ = _
    rw [child?_grow hlt hchild]
    exact ih hlt

end Grow

/-! ## A new value -/

section SetValue

variable {t : PrefixTrie} {i : Nat} {value : String}

/-- A value is set on one node, which keeps its children. -/
theorem node_setValue (hi : i < t.nodes.size) (k : Nat) :
    (t.setValue i value).node k
      = if k = i then { t.node i with value := some value } else t.node k := by
  unfold node setValue
  rw [Array.getElem?_modify]
  by_cases hk : k = i
  · rw [hk, if_pos rfl, if_pos rfl, Array.getElem?_eq_getElem hi]
    rfl
  · rw [if_neg (Ne.symm hk), if_neg hk]

theorem children_setValue (hi : i < t.nodes.size) (k : Nat) :
    ((t.setValue i value).node k).children = (t.node k).children := by
  rw [node_setValue hi]
  split
  · rename_i hk
    rw [hk]
  · rfl

/-- Values have no part in where a path leads. -/
theorem follow?_setValue (hi : i < t.nodes.size) {k : Nat} {path : List Char} :
    (t.setValue i value).follow? k path = t.follow? k path := by
  induction path generalizing k with
  | nil => rfl
  | cons d path ih =>
    show (((t.setValue i value).node k).children.lookup d).bind _ = _
    rw [children_setValue hi]
    exact congrArg _ (funext fun j => ih)

/-- A value that is set shows on the paths to its node, and nowhere else. -/
theorem valueAt_setValue (hi : i < t.nodes.size) {k : Nat} {path : List Char} :
    (t.setValue i value).valueAt k path
      = if t.follow? k path = some i then some value else t.valueAt k path := by
  unfold valueAt
  rw [follow?_setValue hi]
  cases t.follow? k path with
  | none => rfl
  | some j =>
    show ((t.setValue i value).node j).value = _
    rw [node_setValue hi]
    by_cases hj : j = i
    · rw [if_pos hj, if_pos (congrArg some hj)]
    · rw [if_neg hj, if_neg (fun h => hj (Option.some.inj h))]
      rfl

theorem IsTree.setValue (h : t.IsTree) (hi : i < t.nodes.size) : (t.setValue i value).IsTree where
  sorted k := by
    rw [children_setValue hi]
    exact h.sorted k
  parent_unique h₁ h₂ := by
    rw [children_setValue hi] at h₁ h₂
    exact h.parent_unique h₁ h₂

end SetValue

/-! ## Insertion -/

section Insert

variable {t : PrefixTrie} {key value : String}

/-- An insertion keeps the tree. -/
theorem IsTree.insert (h : t.IsTree) : (t.insert key value).IsTree :=
  (h.grow t.nodes_pos).setValue (grow_lt t.nodes_pos)

/-- An insertion changes what is held under its own key only. -/
theorem get?_insert (h : t.IsTree) {k : String} :
    (t.insert key value).get? k = if k = key then some value else t.get? k := by
  have hend : (t.grow 0 key.toList).1.follow? 0 key.toList = some (t.grow 0 key.toList).2 :=
    follow?_grow t.nodes_pos
  -- the shape of a tree comes in here: no other key leads to the node whose value is set
  have hiff : (t.grow 0 key.toList).1.follow? 0 k.toList = some (t.grow 0 key.toList).2
      ↔ k = key := by
    constructor
    · exact fun hk => String.toList_injective ((h.grow t.nodes_pos).follow?_inj hk hend)
    · rintro rfl
      exact hend
  show valueAt (((t.grow 0 key.toList).1.setValue (t.grow 0 key.toList).2 value)) 0 k.toList = _
  simp only [valueAt_setValue (grow_lt t.nodes_pos), hiff, valueAt_grow t.nodes_pos]
  rfl

/-- The size counts the keys: it grows when the key is new. -/
theorem size_insert :
    (t.insert key value).size = if t.contains key then t.size else t.size + 1 := by
  -- growing has changed no value, so the end of the path still shows whether the key is new
  have hvalue : ((t.grow 0 key.toList).1.node (t.grow 0 key.toList).2).value = t.get? key := by
    have hkept : (t.grow 0 key.toList).1.valueAt 0 key.toList = t.valueAt 0 key.toList :=
      valueAt_grow t.nodes_pos
    rw [valueAt, follow?_grow t.nodes_pos] at hkept
    exact hkept
  show (if ((t.grow 0 key.toList).1.node _).value.isSome then (t.grow 0 key.toList).1.size
    else (t.grow 0 key.toList).1.size + 1) = _
  rw [hvalue, size_grow]
  rfl

end Insert

/-! ## Any insertions -/

/-- The value that was given to a key last. -/
def lastValue? (entries : List (String × String)) (key : String) : Option String :=
  entries.reverse.lookup key

/-- What the trie without keys has and every insertion keeps holds after any insertions. -/
theorem ofList_induction {P : PrefixTrie → Prop} (hempty : P empty)
    (hinsert : ∀ t key value, P t → P (t.insert key value)) (entries : List (String × String)) :
    P (ofList entries) := by
  suffices h : ∀ t, P t → P (entries.foldl (fun t entry => t.insert entry.1 entry.2) t) from
    h empty hempty
  induction entries with
  | nil => exact fun _ ht => ht
  | cons entry rest ih => exact fun t ht => ih _ (hinsert t entry.1 entry.2 ht)

/-- Whatever is inserted, the nodes form a tree. -/
theorem isTree_ofList (entries : List (String × String)) : (ofList entries).IsTree :=
  ofList_induction isTree_empty (fun _ _ _ h => h.insert) entries

/-- After some insertions a key has the value that it was given last, or else the one it had before.
-/
theorem get?_foldl_insert {t : PrefixTrie} (h : t.IsTree) (entries : List (String × String))
    (key : String) : (entries.foldl (fun t entry => t.insert entry.1 entry.2) t).get? key
      = (lastValue? entries key).or (t.get? key) := by
  induction entries generalizing t with
  | nil => rfl
  | cons entry rest ih =>
    rw [List.foldl_cons, ih h.insert, get?_insert h, lastValue?, lastValue?, List.reverse_cons,
      List.lookup_append, Option.or_assoc, AssocList.lookup_cons]
    by_cases hk : key = entry.1
    · rw [if_pos hk, if_pos hk]
      rfl
    · rw [if_neg hk, if_neg hk]
      rfl

/-- After any insertions, a key has the value that it was given last. -/
theorem get?_ofList (entries : List (String × String)) (key : String) :
    (ofList entries).get? key = lastValue? entries key := by
  rw [ofList, get?_foldl_insert isTree_empty, get?_empty, Option.or_none]

/-- A key has a last value exactly if it has been inserted. -/
theorem lastValue?_isSome_iff {entries : List (String × String)} {key : String} :
    (lastValue? entries key).isSome ↔ key ∈ entries.map Prod.fst := by
  rw [lastValue?, Option.isSome_iff_ne_none, ne_eq, AssocList.lookup_eq_none_iff, Decidable.not_not,
    List.map_reverse, List.mem_reverse]

end PrefixTrie

end CommandFront
