import CommandFront.Proofs.TrieArena
import CommandFront.Proofs.TrieGrowth

/-!
# The walk of a prefix trie, turn by turn

A turn of the walk takes one node from the stack and puts any number of children there, so the stack
says nothing about when the walk ends. That it ends, and takes no node twice, comes from the shape
of the nodes: a child comes after its parent, and the subtrees of two children share no node.

The definitions of the trie read an array with a default, so they say nothing about places out of
bounds. The programs on a bare array do: they fail there. That they run to their end and agree with
the definitions is what it means that no read leaves the array.

- `PrefixTrie.InSubtree`: the nodes that paths lead to from a given one.
- `PrefixTrie.SubtreesApart.turn`: what a turn keeps of the nodes on the stack.
- `PrefixTrie.mem_visit`, `PrefixTrie.nodup_visit`: the walk takes the nodes of the subtrees on its
  stack, each once.
- `PrefixTrie.Arena.turn`: one turn on a bare array, which fails where a place is out of bounds.
- `PrefixTrie.Arena.turns_eq`: on the nodes of a trie there are as many turns as nodes to take.
- `PrefixTrie.ofList_is_strict_tree`: after any insertions the nodes are a tree, and no look-up or
  walk leaves it.
-/

namespace CommandFront

namespace PrefixTrie

variable {t : PrefixTrie} {i k : Nat} {stack : List Nat}

/-! ## Subtrees -/

/-- A node is in the subtree of another if a path leads to it from there. -/
def InSubtree (t : PrefixTrie) (i k : Nat) : Prop :=
  ∃ path, t.follow? i path = some k

theorem inSubtree_refl : t.InSubtree i i :=
  ⟨[], rfl⟩

/-- A node of a subtree does not come before the node at its top. -/
theorem InSubtree.le (h : t.InSubtree i k) : i ≤ k := by
  obtain ⟨path, hpath⟩ := h
  exact le_of_follow?_eq_some hpath

/-- Along an edge, a path is followed from the child. -/
theorem IsTree.follow?_cons (h : t.IsTree) {j : Nat} {c : Char} {path : List Char}
    (hedge : (c, j) ∈ (t.node i).children) : t.follow? i (c :: path) = t.follow? j path := by
  show (t.child? i c).bind _ = _
  rw [h.mem_children_iff.mpr hedge]
  rfl

/-- A subtree is its root and the subtrees of the children. -/
theorem inSubtree_iff (h : t.IsTree) :
    t.InSubtree i k ↔ k = i ∨ ∃ c j, (c, j) ∈ (t.node i).children ∧ t.InSubtree j k := by
  constructor
  · rintro ⟨path, hpath⟩
    cases path with
    | nil => exact .inl (Option.some.inj hpath).symm
    | cons c path =>
      obtain ⟨j, hj, hrest⟩ := Option.bind_eq_some_iff.mp hpath
      exact .inr ⟨c, j, h.mem_children_iff.mp hj, path, hrest⟩
  · rintro (rfl | ⟨c, j, hedge, path, hpath⟩)
    · exact inSubtree_refl
    · exact ⟨c :: path, (h.follow?_cons hedge).trans hpath⟩

/-- Two children with one node below both are one child. -/
theorem IsTree.eq_of_inSubtree (h : t.IsTree) {a b : Nat} {c d : Char}
    (ha : (c, a) ∈ (t.node i).children) (hb : (d, b) ∈ (t.node i).children)
    (hak : t.InSubtree a k) (hbk : t.InSubtree b k) : c = d := by
  obtain ⟨p, hp⟩ := hak
  obtain ⟨q, hq⟩ := hbk
  have hpaths : c :: p = d :: q :=
    h.follow?_inj ((h.follow?_cons ha).trans hp) ((h.follow?_cons hb).trans hq)
  exact (List.cons.inj hpaths).1

/-! ## What a turn keeps -/

/-- The subtrees of the nodes on a stack share no node. -/
def SubtreesApart (t : PrefixTrie) (stack : List Nat) : Prop :=
  stack.Pairwise fun i j => ∀ k, t.InSubtree i k → ¬t.InSubtree j k

/-- After a turn, the children of the node that was taken wait before all others. -/
theorem mem_waiting {j : Nat} : j ∈ (t.node i).children.map Prod.snd ++ stack
    ↔ (∃ c, (c, j) ∈ (t.node i).children) ∨ j ∈ stack := by
  simp

/-- The subtrees of the children are parts of the one in whose place they come. -/
theorem SubtreesApart.turn (h : t.IsTree) (hs : t.SubtreesApart (i :: stack)) :
    t.SubtreesApart ((t.node i).children.map Prod.snd ++ stack) := by
  obtain ⟨hfirst, hrest⟩ := List.pairwise_cons.mp hs
  refine List.pairwise_append.mpr ⟨List.pairwise_map.mpr ?_, hrest, ?_⟩
  · refine (h.sorted i).imp_of_mem fun {a b} ha hb hlt k hak hbk => ?_
    have heq : a.1 = b.1 := h.eq_of_inSubtree ha hb hak hbk
    exact Char.lt_irrefl b.1 (heq ▸ hlt)
  · intro child hchild j hj k hk
    obtain ⟨edge, hedge, rfl⟩ := List.mem_map.mp hchild
    exact hfirst j hj k ((inSubtree_iff h).mpr (.inr ⟨edge.1, edge.2, hedge, hk⟩))

/-! ## A whole walk -/

/-- The walk takes exactly the nodes of the subtrees on its stack. -/
theorem mem_visit (h : t.IsTree) : k ∈ t.visit stack ↔ ∃ i ∈ stack, t.InSubtree i k := by
  fun_induction visit t stack with
  | case1 => simp
  | case2 i stack ih =>
    constructor
    · intro hk
      rcases List.mem_cons.mp hk with rfl | hlater
      · exact ⟨k, List.mem_cons_self, inSubtree_refl⟩
      · obtain ⟨j, hj, hjk⟩ := ih.mp hlater
        rcases mem_waiting.mp hj with ⟨c, hedge⟩ | hold
        · exact ⟨i, List.mem_cons_self, (inSubtree_iff h).mpr (.inr ⟨c, j, hedge, hjk⟩)⟩
        · exact ⟨j, List.mem_cons_of_mem _ hold, hjk⟩
    · rintro ⟨j, hj, hjk⟩
      rcases List.mem_cons.mp hj with rfl | hold
      · rcases (inSubtree_iff h).mp hjk with rfl | ⟨c, a, hedge, hak⟩
        · exact List.mem_cons_self
        · exact List.mem_cons_of_mem _ (ih.mpr ⟨a, mem_waiting.mpr (.inl ⟨c, hedge⟩), hak⟩)
      · exact List.mem_cons_of_mem _ (ih.mpr ⟨j, mem_waiting.mpr (.inr hold), hjk⟩)

/-- It takes none of them twice if the subtrees share no node. -/
theorem nodup_visit (h : t.IsTree) (hs : t.SubtreesApart stack) : (t.visit stack).Nodup := by
  fun_induction visit t stack with
  | case1 => exact List.nodup_nil
  | case2 i stack ih =>
    refine List.nodup_cons.mpr ⟨fun hmem => ?_, ih (hs.turn h)⟩
    -- to be taken again, a node would have to be below a child of its own or below another on
    -- the stack
    obtain ⟨j, hj, hji⟩ := (mem_visit h).mp hmem
    rcases mem_waiting.mp hj with ⟨c, hedge⟩ | hold
    · exact absurd (lt_child hedge).1 (Nat.not_lt_of_le hji.le)
    · exact (List.pairwise_cons.mp hs).1 j hold i inSubtree_refl hji

/-- A listing is the walk from the node of its beginning, if there is one. -/
theorem matching_eq (t : PrefixTrie) (start : String) :
    t.matching start = (t.visit (t.find? start).toList).filterMap fun j => (t.node j).value := by
  rw [matching]
  cases t.find? start with
  | none =>
    show [] = (t.visit []).filterMap _
    rw [visit]
    rfl
  | some i => rfl

/-! ## The loop on a bare array -/

namespace Arena

/-- The walk between two turns of its loop. -/
structure Walk where
  /-- The places that wait to be visited, the next one first. -/
  stack : List Nat
  /-- The places visited so far. -/
  visited : List Nat := []
  /-- The values found so far. -/
  found : List String := []
deriving DecidableEq, Repr

/-- The walk for a beginning, before the first turn. Nothing waits if the beginning has no node. -/
def enter (nodes : Array Node) (start : String) : Except Nat Walk := do
  return { stack := (← find nodes start).toList }

/-- One turn: the next place is visited, and the children of its node wait before all others. -/
def turn (nodes : Array Node) (walk : Walk) : Except Nat Walk :=
  match walk.stack with
  | [] => .ok walk
  | i :: stack => do
    let node ← read nodes i
    return {
      stack := node.children.map Prod.snd ++ stack
      visited := walk.visited ++ [i]
      found := walk.found ++ node.value.toList }

/-- The walk some turns later. -/
def turns (nodes : Array Node) : Nat → Walk → Except Nat Walk
  | 0, walk => .ok walk
  | n + 1, walk => turn nodes walk >>= turns nodes n

theorem enter_eq (t : PrefixTrie) (start : String) :
    enter t.nodes start = .ok { stack := (t.find? start).toList } := by
  rw [enter, find_eq]
  rfl

/-- One turn takes a node and its value and puts its children on the stack. -/
theorem turn_eq (hi : i < t.nodes.size) (visited : List Nat) (found : List String) :
    turn t.nodes { stack := i :: stack, visited := visited, found := found }
      = .ok {
          stack := (t.node i).children.map Prod.snd ++ stack
          visited := visited ++ [i]
          found := found ++ (t.node i).value.toList } := by
  show (read t.nodes i >>= fun node => _) = _
  rw [read_eq hi]
  rfl

/-- A walk over places of nodes is done after as many turns as there are nodes to take. -/
theorem turns_eq (hstack : ∀ i ∈ stack, i < t.nodes.size) (visited : List Nat)
    (found : List String) :
    turns t.nodes (t.visit stack).length
        { stack := stack, visited := visited, found := found }
      = .ok {
          stack := []
          visited := visited ++ t.visit stack
          found := found ++ (t.visit stack).filterMap fun j => (t.node j).value } := by
  fun_induction visit t stack generalizing visited found with
  | case1 => simp [turns]
  | case2 i stack ih =>
    have hbelow : ∀ j ∈ (t.node i).children.map Prod.snd ++ stack, j < t.nodes.size := by
      intro j hj
      rcases mem_waiting.mp hj with ⟨c, hedge⟩ | hold
      · exact (lt_child hedge).2
      · exact hstack j (List.mem_cons_of_mem _ hold)
    rw [List.length_cons, turns, turn_eq (hstack i List.mem_cons_self)]
    refine (ih hbelow _ _).trans ?_
    rw [List.filterMap_cons]
    cases (t.node i).value with
    | none => simp
    | some value => simp

/-- Of other arrays this does not hold: a child that is no node ends the walk with an error, and a
node that is its own child is taken again and again. -/
example : turns #[{ children := [('a', 1)] }] 2 { stack := [0] } = .error 1
    ∧ turns #[{ children := [('a', 0)] }] 3 { stack := [0] }
      = .ok { stack := [0], visited := [0, 0, 0] } := ⟨rfl, rfl⟩

/-- The walk for a beginning ends with the values listed for it. -/
theorem enter_turns_eq (t : PrefixTrie) (start : String) :
    (enter t.nodes start >>= turns t.nodes (t.visit (t.find? start).toList).length)
      = .ok
        { stack := [], visited := t.visit (t.find? start).toList, found := t.matching start } := by
  have hstack : ∀ i ∈ (t.find? start).toList, i < t.nodes.size := fun i hi =>
    follow?_lt t.nodes_pos (Option.mem_toList.mp hi)
  rw [enter_eq, matching_eq]
  exact turns_eq hstack [] []

end Arena

/-! ## After any insertions -/

/-- The walk for a beginning takes the nodes of the texts that have it. -/
theorem mem_visit_find? (h : t.IsTree) {start : String} :
    k ∈ t.visit (t.find? start).toList
      ↔ ∃ path : List Char, t.find? (start ++ String.ofList path) = some k := by
  rw [mem_visit h]
  simp only [find?_append, Option.bind_eq_some_iff, Option.mem_toList, InSubtree]
  constructor
  · rintro ⟨i, hi, path, hpath⟩
    exact ⟨path, i, hi, hpath⟩
  · rintro ⟨path, i, hi, hpath⟩
    exact ⟨i, hi, path, hpath⟩

/-- A single subtree shares no node with others. -/
theorem subtreesApart_toList (start : Option Nat) : t.SubtreesApart start.toList := by
  cases start with
  | none => exact List.Pairwise.nil
  | some i => exact List.pairwise_singleton _ _

/-- After any insertions, the nodes are a strict tree with the root at the first place: a child is a
node that comes after its parent, every node but the root is the child of one node under one
character, every leaf but the root holds a value, and each node is at the end of one path from the
root. So neither an insertion nor a look-up reads a place out of bounds, although nothing is
promised of the array; and the walk for a beginning is done after it has taken each node of the
subtree there once, one in each turn. -/
theorem ofList_is_strict_tree (entries : List (String × String)) :
    Arena.ofList entries = .ok (ofList entries).nodes
      ∧ IsStrictTree (ofList entries).nodes
      ∧ (∀ k < (ofList entries).nodes.size, ∃! path, (ofList entries).follow? 0 path = some k)
      ∧ (∀ text, Arena.find (ofList entries).nodes text = .ok ((ofList entries).find? text))
      ∧ (∀ key, Arena.get (ofList entries).nodes key = .ok ((ofList entries).get? key))
      ∧ ∀ start, ∃ visited : List Nat,
        (Arena.enter (ofList entries).nodes start
            >>= Arena.turns (ofList entries).nodes visited.length)
          = .ok { stack := [], visited := visited, found := (ofList entries).matching start }
        ∧ visited.Nodup
        ∧ ∀ k, k ∈ visited
          ↔ ∃ path : List Char, (ofList entries).find? (start ++ String.ofList path) = some k := by
  have htree := isTree_ofList entries
  have hgrown := grownTo_ofList entries
  refine ⟨Arena.ofList_eq entries, hgrown.isStrictTree htree,
    fun k hk => hgrown.existsUnique_path htree hk, Arena.find_eq _, Arena.get_eq _, fun start => ?_⟩
  exact ⟨(ofList entries).visit ((ofList entries).find? start).toList,
    Arena.enter_turns_eq _ start, nodup_visit htree (subtreesApart_toList _),
    fun k => mem_visit_find? htree⟩

/-- The node that ends `grün`, of two keys that part after their common beginning. -/
theorem strict_tree_of_shared_beginning :
    (ofList [("größe", "1"), ("grün", "2")]).find? "grün" = some 7
      ∧ 0 < 7 ∧ 7 < (ofList [("größe", "1"), ("grün", "2")]).nodes.size
      ∧ (∃! parent : Nat × Char,
          Edge (ofList [("größe", "1"), ("grün", "2")]).nodes parent.1 parent.2 7)
      ∧ (∃! path, (ofList [("größe", "1"), ("grün", "2")]).follow? 0 path = some 7)
      ∧ ∃ visited : List Nat, visited.Nodup ∧ 7 ∈ visited
        ∧ (Arena.enter (ofList [("größe", "1"), ("grün", "2")]).nodes "gr"
            >>= Arena.turns (ofList [("größe", "1"), ("grün", "2")]).nodes visited.length)
          = .ok {
              stack := []
              visited := visited
              found := (ofList [("größe", "1"), ("grün", "2")]).matching "gr" } := by
  obtain ⟨-, htree, hpath, -, -, hwalk⟩ := ofList_is_strict_tree [("größe", "1"), ("grün", "2")]
  obtain ⟨visited, hrun, hnodup, hmem⟩ := hwalk "gr"
  exact ⟨by decide, by decide, by decide, htree.existsUnique_parent 7 (by decide) (by decide),
    hpath 7 (by decide), visited, hnodup, (hmem 7).mpr ⟨['ü', 'n'], by decide⟩, hrun⟩

end PrefixTrie

end CommandFront
