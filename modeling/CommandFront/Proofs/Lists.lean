/-!
# Lists of pairs, lists without repetitions, and successful computations

Look-up in a list of pairs serves for the edges of a trie, for an index and for what flags are
given.

- `AssocList.lookup_cons`: the first pair decides, if it has the key.
- `AssocList.lookup_eq_some_iff_mem`: if no key comes twice, the look-up finds every pair.
- `nodup_eraseDups`, `eq_of_sorted_of_mem_iff`: a list in which nothing comes twice, and one that
  is determined by its members and their order.
- `find?_eq_some_of_pairwise`, `countP_le_one_of_pairwise`: at most one element of a list has a
  property that excludes itself between any two.
- `exists_first`: the element with which a list comes to have a property.
- `bind_eq_ok_iff`, `map_eq_ok_iff`, `mapError_eq_ok_iff`: what a computation that succeeds has gone
  through.
- `bind_eq_error_iff`, `map_eq_error_iff`: which of two computations has failed.
- `foldlM_eq_error_iff`: where a fold that fails has given up.
-/

namespace CommandFront

namespace AssocList

variable {κ β : Type} [DecidableEq κ]

/-- The first pair decides if it has the key. -/
theorem lookup_cons {k : κ} {pair : κ × β} {rest : List (κ × β)} :
    (pair :: rest).lookup k = if k = pair.1 then some pair.2 else rest.lookup k := by
  rw [List.lookup_cons]
  by_cases h : k = pair.1
  · rw [if_pos h, beq_iff_eq.mpr h]
  · rw [if_neg h, beq_eq_false_iff_ne.mpr h]

/-- What a look-up finds is in the list. -/
theorem mem_of_lookup_eq_some {k : κ} {b : β} {pairs : List (κ × β)}
    (h : pairs.lookup k = some b) : (k, b) ∈ pairs := by
  obtain ⟨front, back, rfl, -⟩ := List.lookup_eq_some_iff.mp h
  exact List.mem_append_right _ List.mem_cons_self

/-- A look-up finds nothing exactly if no pair has the key. -/
theorem lookup_eq_none_iff {k : κ} {pairs : List (κ × β)} :
    pairs.lookup k = none ↔ k ∉ pairs.map Prod.fst := by
  rw [List.lookup_eq_none_iff, List.mem_map]
  constructor
  · rintro h ⟨pair, hmem, rfl⟩
    exact absurd rfl (bne_iff_ne.mp (h pair hmem))
  · intro h pair hmem
    exact bne_iff_ne.mpr fun hk => h ⟨pair, hmem, hk.symm⟩

/-- If no key comes twice, the look-up finds every pair. -/
theorem lookup_eq_some_iff_mem {pairs : List (κ × β)} (h : (pairs.map Prod.fst).Nodup) {k : κ}
    {b : β} : pairs.lookup k = some b ↔ (k, b) ∈ pairs := by
  refine ⟨mem_of_lookup_eq_some, fun hmem => ?_⟩
  induction pairs with
  | nil => exact absurd hmem List.not_mem_nil
  | cons pair rest ih =>
    obtain ⟨hfirst, hrest⟩ := List.nodup_cons.mp h
    rw [lookup_cons]
    rcases List.mem_cons.mp hmem with rfl | hmem
    · exact if_pos rfl
    · have hne : k ≠ pair.1 := fun hk => hfirst (hk ▸ List.mem_map_of_mem hmem)
      rw [if_neg hne]
      exact ih hrest hmem

end AssocList

/-- What stands at a place of a list with one more element. -/
theorem getElem?_concat_eq_some_iff {α : Type} {l : List α} {a b : α} {i : Nat} :
    (l ++ [a])[i]? = some b ↔ l[i]? = some b ∨ i = l.length ∧ a = b := by
  rcases Nat.lt_trichotomy i l.length with hlt | rfl | hgt
  · rw [List.getElem?_append_left hlt]
    exact (or_iff_left fun h => Nat.ne_of_lt hlt h.1).symm
  · simp
  · have hnone : l[i]? = none := List.getElem?_eq_none (Nat.le_of_lt hgt)
    rw [List.getElem?_eq_none (by simpa using Nat.succ_le_of_lt hgt), hnone]
    simp [Nat.ne_of_gt hgt]

theorem removeAll_concat {α : Type} [DecidableEq α] (l m : List α) (a : α) :
    l.removeAll (m ++ [a]) = (l.removeAll m).filter fun b => !b == a := by
  unfold List.removeAll
  rw [List.filter_filter]
  refine List.filter_congr fun b _ => ?_
  rw [Bool.eq_iff_iff]
  simp [and_comm]

/-- After its repetitions are dropped, a list has none. -/
theorem nodup_eraseDups {α : Type} [DecidableEq α] (l : List α) : l.eraseDups.Nodup := by
  match l with
  | [] => exact List.nodup_nil
  | a :: rest =>
    have hshorter : (rest.filter fun b => !b == a).length < rest.length + 1 :=
      Nat.lt_succ_of_le (List.length_filter_le _ rest)
    rw [List.eraseDups_cons]
    refine List.nodup_cons.mpr ⟨fun hmem => ?_, nodup_eraseDups _⟩
    simp at hmem
termination_by l.length

/-- Texts in strictly increasing order are determined by which they are. -/
theorem eq_of_sorted_of_mem_iff {l₁ l₂ : List String} (h₁ : l₁.Pairwise (· < ·))
    (h₂ : l₂.Pairwise (· < ·)) (hmem : ∀ s, s ∈ l₁ ↔ s ∈ l₂) : l₁ = l₂ := by
  have hperm : l₁.Perm l₂ :=
    (List.perm_ext_iff_of_nodup (h₁.imp String.ne_of_lt) (h₂.imp String.ne_of_lt)).mpr hmem
  exact hperm.eq_of_pairwise (fun a b _ _ hab hba => absurd hba (String.lt_asymm hab)) h₁ h₂

/-- A search by a property finds a member that has it. -/
theorem of_find?_eq_some {α : Type} {l : List α} {p : α → Prop} [DecidablePred p] {a : α}
    (h : (l.find? fun b => decide (p b)) = some a) : a ∈ l ∧ p a := by
  have ha := List.find?_some h
  exact ⟨List.mem_of_find?_eq_some h, of_decide_eq_true ha⟩

section Exclusive

variable {α : Type} {l : List α} {p : α → Bool}

/-- A search finds the one element that it may find. -/
theorem find?_eq_some_of_pairwise {R : α → α → Prop} (h : l.Pairwise fun a b => ¬R a b) {a : α}
    (hmem : a ∈ l) (ha : p a = true) (hR : ∀ b, p b = true → R b a) : l.find? p = some a := by
  obtain ⟨front, back, rfl⟩ := List.append_of_mem hmem
  refine List.find?_eq_some_iff_append.mpr ⟨ha, front, back, rfl, fun b hb => ?_⟩
  have hnot : ¬R b a := (List.pairwise_append.mp h).2.2 b hb a List.mem_cons_self
  rw [Bool.not_eq_true']
  exact Bool.eq_false_iff.mpr fun hpb => hnot (hR b hpb)

/-- A property that no two elements share is had by one of them at most. -/
theorem countP_le_one_of_pairwise (h : l.Pairwise fun a b => ¬(p a = true ∧ p b = true)) :
    l.countP p ≤ 1 := by
  induction l with
  | nil => exact Nat.zero_le 1
  | cons a rest ih =>
    obtain ⟨hfirst, hrest⟩ := List.pairwise_cons.mp h
    by_cases ha : p a = true
    · have hnone : rest.countP p = 0 :=
        List.countP_eq_zero.mpr fun b hb hpb => hfirst b hb ⟨ha, hpb⟩
      have hcount : (a :: rest).countP p = 1 := by rw [List.countP_cons_of_pos ha, hnone]
      exact Nat.le_of_eq hcount
    · rw [List.countP_cons_of_neg ha]
      exact ih hrest

end Exclusive

/-! ## The first front with a property -/

/-- If a list has a property and the empty list does not, then some element is the first one with
which the list has it. -/
theorem exists_first {β : Type} {P : List β → Prop} (hnil : ¬P []) {l : List β} (h : P l) :
    ∃ front a back, l = front ++ a :: back ∧ ¬P front ∧ P (front ++ [a]) := by
  induction l generalizing P with
  | nil => exact absurd h hnil
  | cons first others ih =>
    by_cases hfirst : P [first]
    · exact ⟨[], first, others, rfl, hnil, hfirst⟩
    · obtain ⟨front, a, back, rfl, hfront, ha⟩ := ih (P := fun m => P (first :: m)) hfirst h
      exact ⟨first :: front, a, back, rfl, hfront, ha⟩

/-! ## Successful computations -/

/-- Two computations succeed if the first does and then the second on what it gives. -/
theorem bind_eq_ok_iff {ε α β : Type} {x : Except ε α} {f : α → Except ε β} {b : β} :
    (x >>= f) = .ok b ↔ ∃ a, x = .ok a ∧ f a = .ok b := by
  cases x with
  | error e =>
    constructor
    · intro h
      cases h
    · rintro ⟨a, ha, -⟩
      cases ha
  | ok a =>
    constructor
    · exact fun h => ⟨a, rfl, h⟩
    · rintro ⟨_, ⟨⟩, h⟩
      exact h

/-- Two computations fail where the first one that fails does. -/
theorem bind_eq_error_iff {ε α β : Type} {x : Except ε α} {f : α → Except ε β} {e : ε} :
    (x >>= f) = .error e ↔ x = .error e ∨ ∃ a, x = .ok a ∧ f a = .error e := by
  cases x with
  | error found =>
    constructor
    · exact fun h => .inl (congrArg Except.error (Except.error.inj h))
    · rintro (h | ⟨a, ⟨⟩, -⟩)
      exact congrArg Except.error (Except.error.inj h)
  | ok a =>
    constructor
    · exact fun h => .inr ⟨a, rfl, h⟩
    · rintro (⟨⟨⟩⟩ | ⟨_, ⟨⟩, h⟩)
      exact h

theorem map_eq_ok_iff {ε α β : Type} {x : Except ε α} {f : α → β} {b : β} :
    f <$> x = .ok b ↔ ∃ a, x = .ok a ∧ f a = b := by
  cases x with
  | error e =>
    constructor
    · intro h
      cases h
    · rintro ⟨a, ha, -⟩
      cases ha
  | ok a =>
    constructor
    · exact fun h => ⟨a, rfl, Except.ok.inj h⟩
    · rintro ⟨_, ⟨⟩, rfl⟩
      rfl

theorem map_eq_error_iff {ε α β : Type} {x : Except ε α} {f : α → β} {e : ε} :
    f <$> x = .error e ↔ x = .error e := by
  cases x with
  | error found => exact ⟨fun h => congrArg _ (Except.error.inj h), fun h =>
      congrArg _ (Except.error.inj h)⟩
  | ok a => exact ⟨fun h => (nomatch h), fun h => (nomatch h)⟩

theorem mapError_eq_ok_iff {ε δ α : Type} {x : Except ε α} {f : ε → δ} {a : α} :
    x.mapError f = .ok a ↔ x = .ok a := by
  cases x with
  | error e => exact ⟨fun h => (nomatch h), fun h => (nomatch h)⟩
  | ok b => exact ⟨fun h => congrArg _ (Except.ok.inj h), fun h => congrArg _ (Except.ok.inj h)⟩

/-- A fold that fails has got through the elements before the one that its step refuses. -/
theorem foldlM_eq_error_iff {ε α β : Type} {step : β → α → Except ε β} {b : β} {l : List α}
    {e : ε} :
    l.foldlM step b = .error e ↔ ∃ front a back c, l = front ++ a :: back
      ∧ front.foldlM step b = .ok c ∧ step c a = .error e := by
  induction l generalizing b with
  | nil =>
    constructor
    · intro h
      cases h
    · rintro ⟨front, a, back, c, heq, -⟩
      cases front <;> cases heq
  | cons first rest ih =>
    rw [List.foldlM_cons]
    cases hfirst : step b first with
    | error found =>
      constructor
      · intro h
        exact ⟨[], first, rest, b, rfl, rfl, hfirst.trans h⟩
      · rintro ⟨front, a, back, c, heq, hfront, ha⟩
        cases front with
        | nil =>
          cases heq
          cases hfront
          exact hfirst.symm.trans ha
        | cons other front =>
          -- a longer front starts with the element that is refused
          cases heq
          rw [List.foldlM_cons, hfirst] at hfront
          cases hfront
    | ok next =>
      show rest.foldlM step next = _ ↔ _
      rw [ih]
      constructor
      · rintro ⟨front, a, back, c, rfl, hfront, ha⟩
        refine ⟨first :: front, a, back, c, rfl, ?_, ha⟩
        rw [List.foldlM_cons, hfirst]
        exact hfront
      · rintro ⟨front, a, back, c, heq, hfront, ha⟩
        cases front with
        | nil =>
          cases heq
          cases hfront
          rw [hfirst] at ha
          cases ha
        | cons other front =>
          cases heq
          rw [List.foldlM_cons, hfirst] at hfront
          exact ⟨front, a, back, c, rfl, hfront, ha⟩

end CommandFront
