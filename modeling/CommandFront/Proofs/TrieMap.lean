import CommandFront.Proofs.TrieTree
import Mathlib.Data.List.Induction

/-!
# Prefix tries as finite maps

A trie keeps its keys along the paths of one array of nodes, and the number of keys apart from them.
What it answers is what a map from keys to values answers.

A key may begin another one, or be empty, and the nodes on its path may be there already without a
value. None of this shows from outside. The count of keys is kept by hand: an insertion looks
whether the node at the end had a value, and counts only if it had none. So it follows the number of
distinct keys, which is shown by induction from the last insertion on.

- `PrefixTrie.lastValue?_eq_some_iff`: the value of a key is that of the last insertion under it.
- `PrefixTrie.size_ofList`: the counter tells how many distinct keys there are.
- `PrefixTrie.ofList_is_map`: after any insertions a trie maps each key to its last value.
-/

namespace CommandFront

namespace PrefixTrie

variable {entries : List (String × String)} {key value : String}

/-- No later insertion has the key. -/
theorem lastValue?_eq_some_iff : lastValue? entries key = some value
    ↔ ∃ before after, entries = before ++ (key, value) :: after ∧ key ∉ after.map Prod.fst := by
  rw [lastValue?, List.lookup_eq_some_iff]
  constructor
  · rintro ⟨front, back, heq, hfront⟩
    refine ⟨back.reverse, front.reverse, ?_, ?_⟩
    · simpa using congrArg List.reverse heq
    · rintro hmem
      obtain ⟨entry, hentry, rfl⟩ := List.mem_map.mp hmem
      exact absurd rfl (bne_iff_ne.mp (hfront entry (List.mem_reverse.mp hentry)))
  · rintro ⟨before, after, rfl, hafter⟩
    refine ⟨after.reverse, before.reverse, by simp, fun entry hentry => ?_⟩
    have hmem : entry.1 ∈ after.map Prod.fst :=
      List.mem_map_of_mem (List.mem_reverse.mp hentry)
    exact bne_iff_ne.mpr fun hkey => hafter (hkey ▸ hmem)

theorem lastValue?_eq_none_iff : lastValue? entries key = none ↔ key ∉ entries.map Prod.fst := by
  rw [← lastValue?_isSome_iff, Option.not_isSome_iff_eq_none]

/-! ## One more insertion -/

theorem ofList_concat (entries : List (String × String)) (key value : String) :
    ofList (entries ++ [(key, value)]) = (ofList entries).insert key value := by
  rw [ofList, List.foldl_append]
  rfl

theorem contains_ofList_iff :
    (ofList entries).contains key = true ↔ key ∈ entries.map Prod.fst := by
  rw [contains, get?_ofList, lastValue?_isSome_iff]

/-- A key that is there already is not counted again. -/
theorem length_eraseDups_concat {keys : List String} :
    (keys ++ [key]).eraseDups.length
      = if key ∈ keys then keys.eraseDups.length else keys.eraseDups.length + 1 := by
  rw [List.eraseDups_append, List.length_append, List.cons_removeAll]
  by_cases hmem : key ∈ keys
  · simp [hmem]
  · simp [hmem, List.eraseDups_cons]

/-! ## Any insertions -/

/-- The counter, which is kept apart from the nodes, follows the keys: an insertion under a key that
is there already does not move it. -/
theorem size_ofList (entries : List (String × String)) :
    (ofList entries).size = (entries.map Prod.fst).eraseDups.length := by
  induction entries using List.reverseRecOn with
  | nil => rfl
  | append_singleton entries entry ih =>
    rw [ofList_concat, size_insert, List.map_append, List.map_singleton, length_eraseDups_concat,
      ih]
    simp only [contains_ofList_iff]

/-- A trie is empty if it counts no keys. -/
theorem isEmpty_iff {t : PrefixTrie} : t.isEmpty = true ↔ t.size = 0 :=
  beq_iff_eq

/-- And it counts none only if nothing was inserted. -/
theorem size_ofList_eq_zero_iff : (ofList entries).size = 0 ↔ entries = [] := by
  rw [size_ofList]
  cases entries with
  | nil => simp
  | cons entry rest => simp [List.eraseDups_cons]

/-- After any insertions, a trie is the map from each key to the value that it was given last. It
holds nothing under a key that was not inserted, although the key may begin others or go on where
others end; it counts each key once; and one more insertion changes what is held under its own key
only. -/
theorem ofList_is_map (entries : List (String × String)) :
    (∀ key value, (ofList entries).get? key = some value
        ↔ ∃ before after, entries = before ++ (key, value) :: after ∧ key ∉ after.map Prod.fst)
      ∧ (∀ key, (ofList entries).get? key = none ↔ key ∉ entries.map Prod.fst)
      ∧ (∀ key, (ofList entries).contains key = true ↔ key ∈ entries.map Prod.fst)
      ∧ (ofList entries).size = (entries.map Prod.fst).eraseDups.length
      ∧ ((ofList entries).isEmpty = true ↔ (ofList entries).size = 0)
      ∧ ((ofList entries).isEmpty = true ↔ entries = [])
      ∧ ∀ key value other, ((ofList entries).insert key value).get? other
        = if other = key then some value else (ofList entries).get? other := by
  refine ⟨fun key value => ?_, fun key => ?_, fun key => contains_ofList_iff, size_ofList entries,
    isEmpty_iff, isEmpty_iff.trans size_ofList_eq_zero_iff, fun key value other => ?_⟩
  · rw [get?_ofList]
    exact lastValue?_eq_some_iff
  · rw [get?_ofList]
    exact lastValue?_eq_none_iff
  · exact get?_insert (isTree_ofList entries)

/-- A key that begins another, the empty key and a key that is given two values. -/
example : (ofList [("größe", "1"), ("", "2"), ("größe", "3")]).get? "größe" = some "3"
    ∧ (ofList [("größe", "1"), ("", "2"), ("größe", "3")]).get? "gr" = none
    ∧ (ofList [("größe", "1"), ("", "2"), ("größe", "3")]).size = 2 := by decide

end PrefixTrie

end CommandFront
