import CommandFront.Command.Registry
import CommandFront.Proofs.TrieListing

/-!
# The three stores of a command registry

A command registry keeps its commands in a list, the places of their names in an index, and the
names in a trie. One registration writes to all three.

Each look-up asks one of the stores only: the index for a command, the trie for the names that begin
with a text, the list for all of them in order. That their answers agree is not visible in any one
of them. It holds as all writes are made by one function, after its check, and so it is enough to
follow the invariant through that function.

- `CommandRegistry.Consistent`: the stores hold the same names.
- `CommandRegistry.attempt`, `CommandRegistry.ofCalls`: registrations of which some may fail.
- `CommandRegistry.register_eq_ok_iff`, `CommandRegistry.register_eq_error_iff`: all that one
  registration can do.
- `CommandRegistry.consistent_ofCalls`: the stores agree after any registrations.
- `CommandRegistry.stores_agree`: so the ways to ask for a name give one answer, and it is decided
  by the first call under each usable name.
-/

namespace CommandFront

namespace CommandRegistry

variable {α : Type}

/-- The three stores hold the same names, each of them once. -/
structure Consistent (r : CommandRegistry α) : Prop where
  nodup : r.names.Nodup
  isName : ∀ name ∈ r.names, Text.IsName name
  index : ∀ name place, r.index.lookup name = some place ↔ r.names[place]? = some name
  trie_isTree : r.trie.IsTree
  trie : ∀ name, r.trie.get? name = if name ∈ r.names then some name else none
  trie_size : r.trie.size = r.size

/-- A registration that leaves the registry as it is when it fails. -/
def attempt (r : CommandRegistry α) (command : Command α) : CommandRegistry α :=
  match r.register command with
  | .ok extended => extended
  | .error _ => r

/-- The registry after a list of registrations, of which some may fail. -/
def ofCalls (calls : List (Command α)) : CommandRegistry α :=
  calls.foldl attempt ∅

/-- The registry with one more command. -/
def extend (r : CommandRegistry α) (command : Command α) : CommandRegistry α where
  commands := r.commands ++ [command]
  index := (command.name, r.commands.length) :: r.index
  trie := r.trie.insert command.name command.name

@[simp] theorem names_empty : (∅ : CommandRegistry α).names = [] := rfl

/-- A command is added behind the others. -/
@[simp] theorem names_extend {r : CommandRegistry α} {command : Command α} :
    (r.extend command).names = r.names ++ [command.name] := by
  simp [extend, names]

/-! ## Look-up in consistent stores -/

section Lookup

variable {r : CommandRegistry α}

/-- The index knows a name exactly if the list does. -/
theorem Consistent.contains_iff (h : r.Consistent) {name : String} :
    r.contains name = true ↔ name ∈ r.names := by
  rw [contains, Option.isSome_iff_exists, List.mem_iff_getElem?]
  exact exists_congr fun place => h.index name place

/-- A look-up finds the one command of the list that has the name. -/
theorem Consistent.get?_eq_some_iff (h : r.Consistent) {name : String} {command : Command α} :
    r.get? name = some command ↔ command ∈ r.commands ∧ command.name = name := by
  have hplace : ∀ place : Nat, r.names[place]? = some name
      ↔ ∃ c : Command α, r.commands[place]? = some c ∧ c.name = name := by
    intro place
    rw [names, List.getElem?_map, Option.map_eq_some_iff]
  rw [get?, Option.bind_eq_some_iff, List.mem_iff_getElem?]
  constructor
  · rintro ⟨place, hindex, hcommand⟩
    obtain ⟨c, hc, hname⟩ := (hplace place).mp ((h.index name place).mp hindex)
    obtain rfl : c = command := Option.some.inj (hc.symm.trans hcommand)
    exact ⟨⟨place, hcommand⟩, hname⟩
  · rintro ⟨⟨place, hcommand⟩, hname⟩
    exact ⟨place, (h.index name place).mpr ((hplace place).mpr ⟨command, hcommand, hname⟩),
      hcommand⟩

/-- A look-up finds something exactly under the names of the list. -/
theorem Consistent.get?_isSome_iff (h : r.Consistent) {name : String} :
    (r.get? name).isSome = true ↔ name ∈ r.names := by
  rw [Option.isSome_iff_exists, names, List.mem_map]
  exact exists_congr fun command => h.get?_eq_some_iff

/-- And nothing exactly under all others. -/
theorem Consistent.get?_eq_none_iff (h : r.Consistent) {name : String} :
    r.get? name = none ↔ name ∉ r.names := by
  rw [← h.get?_isSome_iff, Option.not_isSome_iff_eq_none]

/-- The trie knows a name exactly if the list does. -/
theorem Consistent.trie_contains_iff (h : r.Consistent) {name : String} :
    r.trie.contains name = true ↔ name ∈ r.names := by
  rw [PrefixTrie.contains, h.trie]
  split
  · rename_i hmem
    exact ⟨fun _ => hmem, fun _ => rfl⟩
  · rename_i hnot
    exact ⟨fun hsome => absurd hsome Bool.false_ne_true, fun hmem => absurd hmem hnot⟩

/-- The names with a given beginning are listed under themselves. -/
theorem Consistent.closest_eq (h : r.Consistent) (token : String) :
    r.closest token = r.trie.keysFrom token := by
  refine (List.map_inj_right fun _ _ => Option.some.inj).mp ?_
  rw [closest, PrefixTrie.map_some_matching h.trie_isTree]
  refine List.map_congr_left fun name hname => ?_
  -- a name that is listed has a value, and every value is its own key
  have hsome := ((PrefixTrie.mem_keysFrom h.trie_isTree).mp hname).2
  rw [h.trie, if_pos (h.trie_contains_iff.mp hsome)]

/-- The names that begin with a text are listed in order, each once. -/
theorem Consistent.sorted_closest (h : r.Consistent) (token : String) :
    (r.closest token).Pairwise (· < ·) := by
  rw [h.closest_eq]
  exact PrefixTrie.sorted_keysFrom h.trie_isTree

/-- They are the names of the list that begin with it. -/
theorem Consistent.mem_closest_iff (h : r.Consistent) {token name : String} :
    name ∈ r.closest token ↔ name ∈ r.names ∧ token.toList <+: name.toList := by
  rw [h.closest_eq, PrefixTrie.mem_keysFrom h.trie_isTree, ← h.trie_contains_iff, and_comm]
  rfl

end Lookup

/-! ## One registration -/

section Register

variable {r : CommandRegistry α} {command : Command α}

/-- A command is registered exactly if its name is usable and new. -/
theorem register_eq_ok_iff (h : r.Consistent) {extended : CommandRegistry α} :
    r.register command = .ok extended
      ↔ Text.IsName command.name ∧ command.name ∉ r.names ∧ extended = r.extend command := by
  rw [register, ← h.contains_iff]
  by_cases hname : Text.IsName command.name
  · by_cases htaken : r.contains command.name = true
    · simp [hname, htaken]
    · simp [hname, htaken, extend, eq_comm]
  · simp [hname]

/-- A registration fails if the name is none, and otherwise if it is taken. -/
theorem register_eq_error_iff (h : r.Consistent) {e : RegistrationError} :
    r.register command = .error e
      ↔ (¬Text.IsName command.name ∧ e = .invalidName command.name)
        ∨ (Text.IsName command.name ∧ command.name ∈ r.names
          ∧ e = .duplicateCommand command.name) := by
  rw [register, ← h.contains_iff]
  by_cases hname : Text.IsName command.name
  · by_cases htaken : r.contains command.name = true
    · simp [hname, htaken, eq_comm (a := e)]
    · simp [hname, htaken]
  · simp [hname, eq_comm (a := e)]

theorem attempt_eq_extend (h : r.Consistent) (hname : Text.IsName command.name)
    (hnew : command.name ∉ r.names) : r.attempt command = r.extend command := by
  rw [attempt, (register_eq_ok_iff h).mpr ⟨hname, hnew, rfl⟩]

theorem attempt_eq_self (h : r.Consistent)
    (hrefused : ¬(Text.IsName command.name ∧ command.name ∉ r.names)) :
    r.attempt command = r := by
  unfold attempt
  cases hres : r.register command with
  | error e => rfl
  | ok extended =>
    obtain ⟨hname, hnew, -⟩ := (register_eq_ok_iff h).mp hres
    exact absurd ⟨hname, hnew⟩ hrefused

/-- A call adds its command if the name is usable and new, and changes nothing otherwise. -/
theorem attempt_eq (h : r.Consistent) :
    r.attempt command = if Text.IsName command.name ∧ command.name ∉ r.names then
      r.extend command else r := by
  split
  · rename_i haccepted
    exact attempt_eq_extend h haccepted.1 haccepted.2
  · rename_i hrefused
    exact attempt_eq_self h hrefused

/-- The stores of an empty registry agree. -/
theorem consistent_empty : (∅ : CommandRegistry α).Consistent where
  nodup := List.nodup_nil
  isName name hname := absurd hname List.not_mem_nil
  index name place := by
    show none = some place ↔ ([] : List String)[place]? = some name
    simp
  trie_isTree := PrefixTrie.isTree_empty
  trie name := PrefixTrie.get?_empty
  trie_size := rfl

/-- They agree after a command with a usable new name. -/
theorem Consistent.extend (h : r.Consistent) (hname : Text.IsName command.name)
    (hnew : command.name ∉ r.names) : (r.extend command).Consistent where
  nodup := by
    rw [names_extend]
    refine List.nodup_append.mpr ⟨h.nodup, List.pairwise_singleton _ _, fun a ha b hb => ?_⟩
    rw [List.mem_singleton.mp hb]
    rintro rfl
    exact hnew ha
  isName name hmem := by
    rw [names_extend] at hmem
    rcases List.mem_append.mp hmem with hold | hlast
    · exact h.isName name hold
    · rw [List.mem_singleton.mp hlast]
      exact hname
  index name place := by
    have hlength : r.names.length = r.commands.length := List.length_map _
    show ((command.name, r.commands.length) :: r.index).lookup name = _ ↔ _
    rw [names_extend, AssocList.lookup_cons, getElem?_concat_eq_some_iff, hlength]
    by_cases hn : name = command.name
    · -- the new name is at the new place only
      have hnot : r.names[place]? ≠ some name := fun hplace =>
        hnew (hn ▸ List.mem_of_getElem? hplace)
      rw [if_pos hn, or_iff_right hnot, Option.some_inj]
      exact ⟨fun hplace => ⟨hplace.symm, hn.symm⟩, fun hplace => hplace.1.symm⟩
    · rw [if_neg hn, h.index, or_iff_left]
      exact fun hplace => hn hplace.2.symm
  trie_isTree := h.trie_isTree.insert
  trie name := by
    show (r.trie.insert command.name command.name).get? name = _
    rw [PrefixTrie.get?_insert h.trie_isTree, h.trie, names_extend]
    by_cases hn : name = command.name
    · simp [hn]
    · simp [hn]
  trie_size := by
    -- a name that is new to the list is new to the trie, so the sizes grow together
    have hfree : ¬r.trie.contains command.name = true := fun hmem =>
      hnew (h.trie_contains_iff.mp hmem)
    show (r.trie.insert command.name command.name).size = (r.commands ++ [command]).length
    rw [PrefixTrie.size_insert, if_neg hfree, h.trie_size, List.length_append]
    rfl

/-- They agree after any call, be it refused or not. -/
theorem Consistent.attempt (h : r.Consistent) : (r.attempt command).Consistent := by
  by_cases haccepted : Text.IsName command.name ∧ command.name ∉ r.names
  · rw [attempt_eq_extend h haccepted.1 haccepted.2]
    exact h.extend haccepted.1 haccepted.2
  · rw [attempt_eq_self h haccepted]
    exact h

end Register

/-! ## Any registrations -/

section OfCalls

variable {r : CommandRegistry α}

/-- They agree after any sequence of calls. -/
theorem consistent_foldl_attempt (h : r.Consistent) (calls : List (Command α)) :
    (calls.foldl attempt r).Consistent := by
  induction calls generalizing r with
  | nil => exact h
  | cons command rest ih => exact ih h.attempt

/-- The stores agree after any registrations. -/
theorem consistent_ofCalls (calls : List (Command α)) : (ofCalls calls).Consistent :=
  consistent_foldl_attempt consistent_empty calls

theorem get?_extend (h : r.Consistent) {command : Command α} (hname : Text.IsName command.name)
    (hnew : command.name ∉ r.names) (name : String) :
    (r.extend command).get? name
      = (r.get? name).or (if command.name = name then some command else none) := by
  refine Option.ext fun found => ?_
  rw [(h.extend hname hnew).get?_eq_some_iff]
  by_cases hn : command.name = name
  · have hnone : r.get? name = none := h.get?_eq_none_iff.mpr (hn ▸ hnew)
    rw [hnone, if_pos hn, Option.none_or, Option.some_inj]
    show found ∈ r.commands ++ [command] ∧ _ ↔ _
    rw [List.mem_append, List.mem_singleton]
    constructor
    · rintro ⟨hold | rfl, hfound⟩
      · exact absurd (hn ▸ hfound ▸ List.mem_map_of_mem hold) hnew
      · rfl
    · rintro rfl
      exact ⟨.inr rfl, hn⟩
  · rw [if_neg hn, Option.or_none, h.get?_eq_some_iff]
    show found ∈ r.commands ++ [command] ∧ _ ↔ _
    rw [List.mem_append, List.mem_singleton]
    constructor
    · rintro ⟨hold | rfl, hfound⟩
      · exact ⟨hold, hfound⟩
      · exact absurd hfound hn
    · exact fun hfound => ⟨.inl hfound.1, hfound.2⟩

/-- A call decides what is found under its name, unless an earlier one has done so. -/
theorem get?_attempt (h : r.Consistent) (command : Command α) (name : String) :
    (r.attempt command).get? name = (r.get? name).or
      (if command.name = name ∧ Text.IsName command.name then some command else none) := by
  by_cases haccepted : Text.IsName command.name ∧ command.name ∉ r.names
  · rw [attempt_eq_extend h haccepted.1 haccepted.2, get?_extend h haccepted.1 haccepted.2]
    simp [haccepted.1]
  · rw [attempt_eq_self h haccepted]
    split
    · rename_i hcall
      -- the call was refused because an earlier one has the name
      have htaken : command.name ∈ r.names :=
        Decidable.byContradiction fun hnew => haccepted ⟨hcall.2, hnew⟩
      obtain ⟨found, hfound⟩ := Option.isSome_iff_exists.mp (h.get?_isSome_iff.mpr htaken)
      rw [← hcall.1, hfound]
      rfl
    · rw [Option.or_none]

/-- Under a name, the first call with that name decides, if the name is usable. -/
theorem get?_foldl_attempt (h : r.Consistent) (calls : List (Command α)) (name : String) :
    (calls.foldl attempt r).get? name = (r.get? name).or
      (calls.find? fun command => decide (command.name = name ∧ Text.IsName command.name)) := by
  induction calls generalizing r with
  | nil => rw [List.find?_nil, Option.or_none]; rfl
  | cons command rest ih =>
    rw [List.foldl_cons, ih h.attempt, get?_attempt h, Option.or_assoc, List.find?_cons]
    by_cases hcall : command.name = name ∧ Text.IsName command.name
    · rw [if_pos hcall, decide_eq_true hcall]
      rfl
    · rw [if_neg hcall, decide_eq_false hcall, Option.none_or]

/-- After some calls the names are the usable ones of the calls, each at its first place. -/
theorem names_foldl_attempt (h : r.Consistent) (calls : List (Command α)) :
    (calls.foldl attempt r).names = r.names
      ++ (((calls.map Command.name).filter fun name => decide (Text.IsName name)).removeAll
        r.names).eraseDups := by
  induction calls generalizing r with
  | nil => simp [List.removeAll]
  | cons command rest ih =>
    rw [List.foldl_cons, ih h.attempt, List.map_cons, List.filter_cons]
    by_cases hname : Text.IsName command.name
    · rw [decide_eq_true hname, if_pos rfl, List.cons_removeAll]
      by_cases htaken : command.name ∈ r.names
      · rw [attempt_eq_self h (fun haccepted => haccepted.2 htaken)]
        simp [htaken]
      · rw [attempt_eq_extend h hname htaken, names_extend, removeAll_concat,
          if_pos (by simpa using htaken), List.eraseDups_cons, List.append_assoc]
        rfl
    · rw [attempt_eq_self h (fun haccepted => hname haccepted.1), decide_eq_false hname]
      rfl

end OfCalls

/-- After any registrations, failed ones among them, the three stores hold the same names. So all
ways to ask for a name agree, the first call under a usable name decides what it stands for, and a
registration is refused exactly when its name is none or is taken. -/
theorem stores_agree (calls : List (Command α)) :
    (ofCalls calls).Consistent
      ∧ (∀ name,
        ((ofCalls calls).contains name = true ↔ name ∈ (ofCalls calls).names)
          ∧ (((ofCalls calls).get? name).isSome = true ↔ name ∈ (ofCalls calls).names)
          ∧ ((ofCalls calls).trie.contains name = true ↔ name ∈ (ofCalls calls).names)
          ∧ (name ∈ (ofCalls calls).closest "" ↔ name ∈ (ofCalls calls).names)
          ∧ (ofCalls calls).get? name = calls.find? fun command =>
            decide (command.name = name ∧ Text.IsName command.name))
      ∧ (ofCalls calls).names
        = ((calls.map Command.name).filter fun name => decide (Text.IsName name)).eraseDups
      ∧ (ofCalls calls).size = (ofCalls calls).trie.size
      ∧ (∀ token, ((ofCalls calls).closest token).Pairwise (· < ·)
        ∧ ∀ name, name ∈ (ofCalls calls).closest token
          ↔ name ∈ (ofCalls calls).names ∧ token.toList <+: name.toList)
      ∧ ∀ command : Command α,
        (∀ e, (ofCalls calls).register command = .error e
          ↔ (¬Text.IsName command.name ∧ e = .invalidName command.name)
            ∨ (Text.IsName command.name ∧ command.name ∈ (ofCalls calls).names
              ∧ e = .duplicateCommand command.name))
          ∧ (ofCalls calls).attempt command
            = if Text.IsName command.name ∧ command.name ∉ (ofCalls calls).names then
                (ofCalls calls).extend command
              else ofCalls calls := by
  have h := consistent_ofCalls calls
  refine ⟨h, fun name => ⟨h.contains_iff, h.get?_isSome_iff, h.trie_contains_iff, ?_, ?_⟩, ?_,
    h.trie_size.symm, fun token => ⟨h.sorted_closest token, fun name => h.mem_closest_iff⟩,
    fun command => ⟨fun e => register_eq_error_iff h, attempt_eq h⟩⟩
  · rw [h.mem_closest_iff]
    exact and_iff_left List.nil_prefix
  · rw [ofCalls, get?_foldl_attempt consistent_empty]
    rfl
  · rw [ofCalls, names_foldl_attempt consistent_empty, names_empty, List.nil_append]
    simp [List.removeAll]

end CommandRegistry

end CommandFront
