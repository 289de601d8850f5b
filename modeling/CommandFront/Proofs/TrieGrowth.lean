import CommandFront.Proofs.TrieTree
import Mathlib.Logic.ExistsUnique

/-!
# How the nodes of a prefix trie hang together

An insertion follows a path and adds the nodes that are missing, each as the child of the one before
it. On the way the newest node is a leaf without a value; the value that ends the insertion goes
there. So between insertions no node is idle: each hangs on another, and the leaves hold values.

- `PrefixTrie.GrownTo`: what holds of the nodes while an insertion stands at one of them.
- `PrefixTrie.GrownTo.grow`, `PrefixTrie.GrownTo.setValue`: the two halves of an insertion.
- `PrefixTrie.grownTo_ofList`: after any insertions, no node is idle.
- `PrefixTrie.GrownTo.existsUnique_path`: each node is at the end of one path from the root.
- `PrefixTrie.IsStrictTree`: what it means for an array of nodes to be a tree without idle nodes.
-/

namespace CommandFront

namespace PrefixTrie

/-- Each node but the root is a child, and each leaf holds a value. The root and the node at which
an insertion stands may be leaves without one. -/
structure GrownTo (t : PrefixTrie) (cursor : Nat) : Prop where
  exists_parent : ∀ {k : Nat}, 0 < k → k < t.nodes.size → ∃ i c, (c, k) ∈ (t.node i).children
  isSome_value : ∀ {k : Nat}, 0 < k → k < t.nodes.size → k ≠ cursor →
    (t.node k).children = [] → (t.node k).value.isSome = true

variable {t : PrefixTrie} {i j : Nat} {c : Char} {key value : String}

theorem grownTo_empty : empty.GrownTo 0 where
  exists_parent hpos hlt := absurd hlt (Nat.not_lt_of_le hpos)
  isSome_value hpos hlt := absurd hlt (Nat.not_lt_of_le hpos)

/-! ## Along a path -/

/-- A node that is left for its child is no leaf. -/
theorem GrownTo.child (h : t.GrownTo i) (hj : t.child? i c = some j) : t.GrownTo j where
  exists_parent := h.exists_parent
  isSome_value := by
    intro k hpos hlt _ hleaf
    refine h.isSome_value hpos hlt ?_ hleaf
    rintro rfl
    exact List.ne_nil_of_mem (AssocList.mem_of_lookup_eq_some hj) hleaf

/-- A new node hangs on the one at which the insertion stood, which is a leaf no longer. -/
theorem GrownTo.addChild (h : t.GrownTo i) (hi : i < t.nodes.size) :
    (t.addChild i c).GrownTo t.nodes.size where
  exists_parent := by
    intro k hpos hlt
    rw [nodes_size_addChild] at hlt
    rcases Nat.lt_succ_iff_lt_or_eq.mp hlt with hold | rfl
    · obtain ⟨parent, d, hedge⟩ := h.exists_parent hpos hold
      exact ⟨parent, d, (mem_children_addChild hi).mpr (.inr hedge)⟩
    · exact ⟨i, c, (mem_children_addChild hi).mpr (.inl ⟨rfl, rfl⟩)⟩
  isSome_value := by
    intro k hpos hlt hne hleaf
    rw [nodes_size_addChild] at hlt
    have hold : k < t.nodes.size := Nat.lt_of_le_of_ne (Nat.le_of_lt_succ hlt) hne
    have hki : k ≠ i := by
      rintro rfl
      have hmem : (c, t.nodes.size) ∈ ((t.addChild k c).node k).children :=
        (mem_children_addChild hi).mpr (.inl ⟨rfl, rfl⟩)
      exact List.ne_nil_of_mem hmem hleaf
    rw [node_addChild hi, if_neg hki] at hleaf
    rw [value_addChild hi]
    exact h.isSome_value hpos hold hki hleaf

theorem GrownTo.grow {path : List Char} (h : t.GrownTo i) (hi : i < t.nodes.size) :
    (t.grow i path).1.GrownTo (t.grow i path).2 := by
  fun_induction PrefixTrie.grow t i path with
  | case1 => exact h
  | case2 t i c path j hj ih =>
    exact ih (h.child hj) (lt_of_child?_eq_some hj).2
  | case3 t i c path _ ih => exact ih (h.addChild hi) (by simp)

/-! ## The end of an insertion -/

/-- The value goes to the node at which the insertion stands, so no leaf is left without one. -/
theorem GrownTo.setValue (h : t.GrownTo i) (hi : i < t.nodes.size) :
    (t.setValue i value).GrownTo 0 where
  exists_parent := by
    intro k hpos hlt
    rw [nodes_size_setValue] at hlt
    obtain ⟨parent, d, hedge⟩ := h.exists_parent hpos hlt
    exact ⟨parent, d, (children_setValue hi parent).symm ▸ hedge⟩
  isSome_value := by
    intro k hpos hlt _ hleaf
    rw [nodes_size_setValue] at hlt
    rw [children_setValue hi] at hleaf
    rw [node_setValue hi]
    split
    · rfl
    · rename_i hne
      exact h.isSome_value hpos hlt hne hleaf

theorem GrownTo.insert (h : t.GrownTo 0) : (t.insert key value).GrownTo 0 :=
  (h.grow t.nodes_pos).setValue (grow_lt t.nodes_pos)

theorem grownTo_ofList (entries : List (String × String)) : (ofList entries).GrownTo 0 :=
  ofList_induction (P := (GrownTo · 0)) grownTo_empty (fun _ _ _ h => h.insert) entries

/-! ## Paths from the root -/

/-- Following parents leads to the root, since a parent comes before its child. -/
theorem GrownTo.exists_path (htree : t.IsTree) (h : t.GrownTo i) {k : Nat}
    (hk : k < t.nodes.size) : ∃ path, t.follow? 0 path = some k := by
  induction k using Nat.strongRecOn with
  | ind k ih =>
    rcases Nat.eq_zero_or_pos k with rfl | hpos
    · exact ⟨[], rfl⟩
    · obtain ⟨parent, c, hedge⟩ := h.exists_parent hpos hk
      have hlt := (lt_child hedge).1
      obtain ⟨path, hpath⟩ := ih parent hlt (Nat.lt_trans hlt hk)
      exact ⟨path.concat c,
        follow?_concat_eq_some.mpr ⟨parent, hpath, htree.mem_children_iff.mpr hedge⟩⟩

theorem GrownTo.existsUnique_path (htree : t.IsTree) (h : t.GrownTo i) {k : Nat}
    (hk : k < t.nodes.size) : ∃! path, t.follow? 0 path = some k := by
  obtain ⟨path, hpath⟩ := h.exists_path htree hk
  exact ⟨path, hpath, fun other hother => htree.follow?_inj hother hpath⟩

/-! ## Strict trees -/

/-- An edge of an array of nodes: node `k` is the child of node `i` under `c`. -/
def Edge (nodes : Array Node) (i : Nat) (c : Char) (k : Nat) : Prop :=
  ∃ node, nodes[i]? = some node ∧ (c, k) ∈ node.children

theorem edge_iff {k : Nat} : Edge t.nodes i c k ↔ (c, k) ∈ (t.node i).children := by
  unfold Edge node
  cases t.nodes[i]? with
  | none => simp
  | some node => simp

/-- An array of nodes, of which nothing is promised, is a strict tree with the first node as its
root. -/
structure IsStrictTree (nodes : Array Node) : Prop where
  /-- There is a root. -/
  root : 0 < nodes.size
  /-- A child is a node that comes after its parent. -/
  child_mem_Ioo : ∀ i c k, Edge nodes i c k → i < k ∧ k < nodes.size
  /-- The children of a node are kept by increasing character, so each under one. -/
  sorted : ∀ (i : Nat) (node : Node), nodes[i]? = some node →
    node.children.Pairwise fun a b => a.1 < b.1
  /-- Every node but the root is the child of exactly one node, under exactly one character. -/
  existsUnique_parent : ∀ k, 0 < k → k < nodes.size →
    ∃! parent : Nat × Char, Edge nodes parent.1 parent.2 k
  /-- Every leaf but the root holds a value. -/
  isSome_value : ∀ (k : Nat) (node : Node), 0 < k → nodes[k]? = some node → node.children = [] →
    node.value.isSome = true

theorem node_of_getElem? {node : Node} (h : t.nodes[i]? = some node) : t.node i = node := by
  rw [PrefixTrie.node, h]
  rfl

theorem GrownTo.isStrictTree (htree : t.IsTree) (h : t.GrownTo 0) : IsStrictTree t.nodes where
  root := t.nodes_pos
  child_mem_Ioo i c k hedge := lt_child (edge_iff.mp hedge)
  sorted i node hnode := node_of_getElem? hnode ▸ htree.sorted i
  existsUnique_parent k hpos hlt := by
    obtain ⟨parent, c, hedge⟩ := h.exists_parent hpos hlt
    refine ⟨(parent, c), edge_iff.mpr hedge, fun other hother => ?_⟩
    obtain ⟨hparent, hc⟩ := htree.parent_unique (edge_iff.mp hother) hedge
    exact Prod.ext hparent hc
  isSome_value k node hpos hnode hleaf := by
    obtain ⟨hlt, -⟩ := Array.getElem?_eq_some_iff.mp hnode
    rw [← node_of_getElem? hnode] at hleaf ⊢
    exact h.isSome_value hpos hlt (Nat.ne_of_gt hpos) hleaf

end PrefixTrie

end CommandFront
