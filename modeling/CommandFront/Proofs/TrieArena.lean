import CommandFront.Proofs.TrieTree

/-!
# Tries on bare arrays

The operations of a trie once more, on an array of nodes of which nothing is promised. They check
every place that they read, and a place where there is no node ends them. On the nodes of a trie
this never happens: the operations of a trie, where such a place reads as a node without children
and value, hide no failure.

A look-up follows the edges of one node to the next, and the places on these edges are places of
nodes. An insertion puts new nodes at the end of the array and edges to them, so the places stay
good while the array grows. Each operation is compared with that of the trie step by step, from a
place that is known to be good.

- `PrefixTrie.Arena.read`: the node at a place, or the place as an error.
- `PrefixTrie.Arena.find_eq`, `PrefixTrie.Arena.get_eq`: no look-up reads out of bounds.
- `PrefixTrie.Arena.ofList_eq`: nor does an insertion, and the nodes come out as those of the trie.
-/

namespace CommandFront

namespace PrefixTrie

namespace Arena

/-- The node at a place. The error is a place where there is none. -/
def read (nodes : Array Node) (i : Nat) : Except Nat Node :=
  match nodes[i]? with
  | some node => .ok node
  | none => .error i

/-- The node that a path leads to from a given one. -/
def follow (nodes : Array Node) : Nat → List Char → Except Nat (Option Nat)
  | i, [] => .ok (some i)
  | i, c :: path => do
    match (← read nodes i).children.lookup c with
    | some j => follow nodes j path
    | none => return none

/-- The node of a text. -/
def find (nodes : Array Node) (text : String) : Except Nat (Option Nat) :=
  follow nodes 0 text.toList

/-- The value of a key. -/
def get (nodes : Array Node) (key : String) : Except Nat (Option String) := do
  match ← find nodes key with
  | some i => return (← read nodes i).value
  | none => return none

/-- Follows a path from a node and adds the nodes that are missing. -/
def grow : Array Node → Nat → List Char → Except Nat (Array Node × Nat)
  | nodes, i, [] => .ok (nodes, i)
  | nodes, i, c :: path => do
    match (← read nodes i).children.lookup c with
    | some j => grow nodes j path
    | none =>
      let linked := nodes.modify i fun node =>
        { node with children := insertEdge c nodes.size node.children }
      grow (linked.push {}) nodes.size path

/-- Adds a key with its value, or replaces the value of a key. -/
def insert (nodes : Array Node) (key value : String) : Except Nat (Array Node) := do
  let (grown, i) ← grow nodes 0 key.toList
  let _ ← read grown i
  return grown.modify i fun node => { node with value := some value }

/-- The nodes after a list of insertions, the first into a root alone. -/
def ofList (entries : List (String × String)) : Except Nat (Array Node) :=
  entries.foldlM (fun nodes entry => insert nodes entry.1 entry.2) #[{}]

/-! ## On the nodes of a trie -/

section OfTrie

variable {t : PrefixTrie} {i : Nat}

/-- A place in the array is read as the trie reads it. -/
theorem read_eq (hi : i < t.nodes.size) : read t.nodes i = .ok (t.node i) := by
  rw [read, Array.getElem?_eq_getElem hi, node_of_lt hi]

/-- Edges lead from good places to good places. -/
theorem follow_eq {path : List Char} (hi : i < t.nodes.size) :
    follow t.nodes i path = .ok (t.follow? i path) := by
  induction path generalizing i with
  | nil => rfl
  | cons c path ih =>
    rw [follow, read_eq hi]
    show (match t.child? i c with
      | some j => follow t.nodes j path
      | none => .ok none) = .ok ((t.child? i c).bind fun j => t.follow? j path)
    cases hj : t.child? i c with
    | none => rfl
    | some j => exact ih (lt_of_child?_eq_some hj).2

theorem find_eq (t : PrefixTrie) (text : String) : find t.nodes text = .ok (t.find? text) :=
  follow_eq t.nodes_pos

theorem get_eq (t : PrefixTrie) (key : String) : get t.nodes key = .ok (t.get? key) := by
  rw [get, find_eq, PrefixTrie.get?]
  cases hi : t.find? key with
  | none => rfl
  | some i =>
    show (read t.nodes i >>= fun node => pure node.value) = .ok (t.node i).value
    rw [read_eq (follow?_lt t.nodes_pos hi)]
    rfl

/-- A path that grows reads no place out of bounds either. -/
theorem grow_eq {path : List Char} (hi : i < t.nodes.size) :
    grow t.nodes i path = .ok ((t.grow i path).1.nodes, (t.grow i path).2) := by
  fun_induction PrefixTrie.grow t i path with
  | case1 => rfl
  | case2 t i c path j hj ih =>
    rw [grow, read_eq hi]
    show (match t.child? i c with
      | some j => grow t.nodes j path
      | none => _) = _
    rw [hj]
    exact ih (lt_of_child?_eq_some hj).2
  | case3 t i c path hnone ih =>
    rw [grow, read_eq hi]
    show (match t.child? i c with
      | some j => grow t.nodes j path
      | none => grow (t.addChild i c).nodes t.nodes.size path) = _
    rw [hnone]
    exact ih (by simp)

theorem insert_eq (t : PrefixTrie) (key value : String) :
    insert t.nodes key value = .ok (t.insert key value).nodes := by
  rw [insert, grow_eq t.nodes_pos]
  show (read (t.grow 0 key.toList).1.nodes (t.grow 0 key.toList).2 >>= fun _ => pure _) = _
  rw [read_eq (grow_lt t.nodes_pos)]
  rfl

end OfTrie

theorem foldlM_insert_eq (t : PrefixTrie) (entries : List (String × String)) :
    entries.foldlM (fun nodes entry => insert nodes entry.1 entry.2) t.nodes
      = .ok (entries.foldl (fun t entry => t.insert entry.1 entry.2) t).nodes := by
  induction entries generalizing t with
  | nil => rfl
  | cons entry rest ih =>
    rw [List.foldlM_cons, insert_eq]
    exact ih (t.insert entry.1 entry.2)

/-- Insertions on a bare array never fail, and leave the nodes of the trie. -/
theorem ofList_eq (entries : List (String × String)) :
    ofList entries = .ok (PrefixTrie.ofList entries).nodes :=
  foldlM_insert_eq empty entries

end Arena

end PrefixTrie

end CommandFront
