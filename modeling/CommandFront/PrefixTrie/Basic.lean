/-!
# Prefix tries

A map from texts to texts that can list the values of all keys with a given beginning.

The nodes are kept in one array, and edges are places in it, so there are no pointers to follow and
none that could dangle. That a child comes after its parent is a part of the structure; the walk
over the nodes ends because of it. That the nodes form a tree is not demanded here. It is proved of
the tries that insertions lead to.

- `PrefixTrie`: the nodes of the trie in one array, the root first. A node names its children by
  their places in the array, and a child comes after its parent.
- `PrefixTrie.insert`: adds a key, or replaces its value.
- `PrefixTrie.get?`, `PrefixTrie.contains`: exact look-up.
- `PrefixTrie.visit`: the walk over the nodes below those on a stack, a node before its children
  and the children by increasing character.
- `PrefixTrie.matching`: the values of the keys with a given beginning, ordered by key.
-/

namespace CommandFront

/-- A node of a prefix trie. -/
structure PrefixTrie.Node where
  /-- The places of the children, by increasing character. -/
  children : List (Char × Nat) := []
  /-- The value of the key that ends here. -/
  value : Option String := none
deriving DecidableEq, Repr

/-- A map from texts to texts, as a tree whose edges are characters. -/
structure PrefixTrie where
  /-- The nodes, the root at the first place. -/
  nodes : Array PrefixTrie.Node
  /-- How many keys the trie holds. -/
  size : Nat
  /-- There is a root. -/
  nodes_pos : 0 < nodes.size
  /-- A child comes after its parent. -/
  child_mem_Ioo : ∀ i (h : i < nodes.size), ∀ edge ∈ nodes[i].children,
    i < edge.2 ∧ edge.2 < nodes.size

namespace PrefixTrie

/-- The trie without keys. -/
def empty : PrefixTrie where
  nodes := #[{}]
  size := 0
  nodes_pos := by decide
  child_mem_Ioo i h edge hedge := by
    have hi : i = 0 := by simpa using h
    subst hi
    simp at hedge

instance : EmptyCollection PrefixTrie :=
  ⟨empty⟩

instance : Inhabited PrefixTrie :=
  ⟨empty⟩

/-- The node at a place; past the end, a node without children and value. -/
def node (t : PrefixTrie) (i : Nat) : Node :=
  t.nodes[i]?.getD {}

theorem node_of_lt {t : PrefixTrie} {i : Nat} (h : i < t.nodes.size) : t.node i = t.nodes[i] := by
  simp [node, h]

/-- A child is a node that comes after its parent. -/
theorem lt_child {t : PrefixTrie} {i : Nat} {edge : Char × Nat}
    (h : edge ∈ (t.node i).children) : i < edge.2 ∧ edge.2 < t.nodes.size := by
  by_cases hi : i < t.nodes.size
  · rw [node_of_lt hi] at h
    exact t.child_mem_Ioo i hi edge h
  · simp [node, hi] at h

/-! ## Look-up -/

/-- The child of a node under a character. -/
def child? (t : PrefixTrie) (i : Nat) (c : Char) : Option Nat :=
  (t.node i).children.lookup c

/-- The node that a path leads to from a given one. -/
def follow? (t : PrefixTrie) : Nat → List Char → Option Nat
  | i, [] => some i
  | i, c :: path => (t.child? i c).bind fun j => t.follow? j path

/-- The node of a text: where the path of its characters leads from the root. -/
def find? (t : PrefixTrie) (text : String) : Option Nat :=
  t.follow? 0 text.toList

/-- The value of a key. -/
def get? (t : PrefixTrie) (key : String) : Option String :=
  (t.find? key).bind fun i => (t.node i).value

/-- Whether a key has been inserted. -/
def contains (t : PrefixTrie) (key : String) : Bool :=
  (t.get? key).isSome

/-- Whether no key has been inserted. -/
def isEmpty (t : PrefixTrie) : Bool :=
  t.size == 0

/-! ## Insertion -/

/-- Adds an edge to a list ordered by character. -/
def insertEdge (c : Char) (j : Nat) : List (Char × Nat) → List (Char × Nat)
  | [] => [(c, j)]
  | edge :: rest => if edge.1 < c then edge :: insertEdge c j rest else (c, j) :: edge :: rest

/-- An edge is put among the others. -/
theorem mem_insertEdge {c : Char} {j : Nat} {edges : List (Char × Nat)} {edge : Char × Nat} :
    edge ∈ insertEdge c j edges ↔ edge = (c, j) ∨ edge ∈ edges := by
  induction edges with
  | nil => simp [insertEdge]
  | cons e rest ih =>
    by_cases h : e.1 < c
    · simp [insertEdge, h, ih, or_left_comm]
    · simp [insertEdge, h]

/-- Adds a childless node at the end, as the child of node `i` under `c`. -/
def addChild (t : PrefixTrie) (i : Nat) (c : Char) : PrefixTrie where
  nodes := (t.nodes.modify i fun n =>
    { n with children := insertEdge c t.nodes.size n.children }).push {}
  size := t.size
  nodes_pos := by simp
  child_mem_Ioo k hk edge hedge := by
    have hsize : k < t.nodes.size + 1 := by simpa using hk
    rcases Nat.lt_succ_iff_lt_or_eq.1 hsize with hlt | rfl
    · rw [Array.getElem_push_lt (by simpa using hlt), Array.getElem_modify] at hedge
      split at hedge
      · subst i
        rcases mem_insertEdge.1 hedge with rfl | hold
        · exact ⟨hlt, by simp⟩
        · obtain ⟨h₁, h₂⟩ := t.child_mem_Ioo k hlt edge hold
          exact ⟨h₁, by simp; omega⟩
      · obtain ⟨h₁, h₂⟩ := t.child_mem_Ioo k hlt edge hedge
        exact ⟨h₁, by simp; omega⟩
    · simp [Array.getElem_push] at hedge

@[simp] theorem nodes_size_addChild {t : PrefixTrie} {i : Nat} {c : Char} :
    (t.addChild i c).nodes.size = t.nodes.size + 1 := by
  simp [addChild]

/-- Follows a path from a node and adds the nodes that are missing. -/
def grow (t : PrefixTrie) : Nat → List Char → PrefixTrie × Nat
  | i, [] => (t, i)
  | i, c :: path =>
    match t.child? i c with
    | some j => t.grow j path
    | none => (t.addChild i c).grow t.nodes.size path

/-- Gives a node a value. -/
def setValue (t : PrefixTrie) (i : Nat) (value : String) : PrefixTrie where
  nodes := t.nodes.modify i fun n => { n with value := some value }
  size := if (t.node i).value.isSome then t.size else t.size + 1
  nodes_pos := by simpa using t.nodes_pos
  child_mem_Ioo k hk edge hedge := by
    have hlt : k < t.nodes.size := by simpa using hk
    rw [Array.getElem_modify] at hedge
    split at hedge <;> simpa using t.child_mem_Ioo k hlt edge hedge

@[simp] theorem nodes_size_setValue {t : PrefixTrie} {i : Nat} {value : String} :
    (t.setValue i value).nodes.size = t.nodes.size := by
  simp [setValue]

/-- Adds a key with its value, or replaces the value of a key. -/
def insert (t : PrefixTrie) (key value : String) : PrefixTrie :=
  let grown := t.grow 0 key.toList
  grown.1.setValue grown.2 value

/-- The trie after a list of insertions. -/
def ofList (entries : List (String × String)) : PrefixTrie :=
  entries.foldl (fun t entry => t.insert entry.1 entry.2) empty

/-! ## The walk -/

/-- The nodes of the subtree below a node, the node first. There are finitely many, as a child comes
after its parent, and this is why the walk ends. -/
def below (t : PrefixTrie) (i : Nat) : List Nat :=
  i :: (t.node i).children.attach.flatMap fun edge => t.below edge.1.2
termination_by t.nodes.size - i
decreasing_by
  have := lt_child edge.2
  omega

/-- Below a place there is the node and what is below its children. -/
theorem below_eq (t : PrefixTrie) (i : Nat) :
    t.below i = i :: (t.node i).children.flatMap fun edge => t.below edge.2 := by
  rw [below, List.flatMap_def, List.attach_map_val (f := fun edge : Char × Nat => t.below edge.2),
    ← List.flatMap_def]

/-- The nodes below those on a stack, in the order in which they are taken from it: a node is
replaced by its children. -/
def visit (t : PrefixTrie) : List Nat → List Nat
  | [] => []
  | i :: stack => i :: t.visit ((t.node i).children.map Prod.snd ++ stack)
termination_by stack => (stack.flatMap t.below).length
decreasing_by
  rw [List.flatMap_append, List.flatMap_map, List.flatMap_cons, below_eq]
  exact Nat.lt_succ_self _

/-- The values of the keys that begin with `start`, ordered by key. -/
def matching (t : PrefixTrie) (start : String) : List String :=
  match t.find? start with
  | none => []
  | some i => (t.visit [i]).filterMap fun j => (t.node j).value

end PrefixTrie

end CommandFront
