import CommandFront.Proofs.Lists
import CommandFront.Toml.Document

/-!
# No key of a table comes twice

A document is read line by line into a draft: the table so far and the path of the header that is in
force. Each line may add a member, open a table at a path or put one more element into a list of
tables, and each of these refuses a key that is there already. So that the keys are distinct is an
invariant of the draft, at every depth that a path can reach. The decoder of the configuration
relies on it.

- `Toml.Members.Distinct`: no key comes twice.
- `Toml.Members.Distinct.get?_perm`: then their order does not matter for what is found.
- `Toml.Members.Distinct.set`, `Toml.Members.Distinct.erase`, `Toml.distinct_alter`: the changes
  that reading makes to a table keep its keys apart.
- `Toml.Draft.Sound`: what reading a line keeps of a document that has been read up to it.
- `Toml.distinct_parse?`: no key of a document comes twice.
-/

namespace CommandFront

namespace Toml

namespace Members

/-- No key comes twice. -/
def Distinct (members : Members) : Prop :=
  (members.map Prod.fst).Nodup

instance (members : Members) : Decidable members.Distinct :=
  inferInstanceAs (Decidable (members.map Prod.fst).Nodup)

variable {members : Members} {key : String} {value : Toml}

theorem distinct_nil : Distinct [] :=
  List.nodup_nil

/-- A key that is there keeps its place, and a new one comes last. -/
theorem map_fst_set : (members.set key value).map Prod.fst
    = if key ∈ members.map Prod.fst then members.map Prod.fst
      else members.map Prod.fst ++ [key] := by
  have hiff : (members.get? key).isSome = true ↔ key ∈ members.map Prod.fst := by
    rw [get?, Option.isSome_iff_ne_none, ne_eq, AssocList.lookup_eq_none_iff, Decidable.not_not]
  rw [set]
  simp only [hiff]
  split
  · rw [List.map_map]
    refine List.map_congr_left fun member _ => ?_
    by_cases hkey : member.1 = key
    · simp [hkey]
    · simp [hkey]
  · rw [List.map_append]
    rfl

/-- Setting a key keeps the keys distinct, whether it is there or not. -/
theorem Distinct.set (h : members.Distinct) : (members.set key value).Distinct := by
  unfold Distinct
  rw [map_fst_set]
  split
  · exact h
  · rename_i hnew
    refine List.nodup_append.mpr ⟨h, List.pairwise_singleton _ key, ?_⟩
    rintro k hk _ hkey rfl
    exact hnew (List.mem_singleton.mp hkey ▸ hk)

/-- So does leaving one out. -/
theorem Distinct.erase (h : members.Distinct) : (members.erase key).Distinct :=
  List.Nodup.sublist (List.filter_sublist.map Prod.fst) h

/-- If no key comes twice, each member is found under its key. -/
theorem Distinct.get?_eq_some_iff (h : members.Distinct) :
    members.get? key = some value ↔ (key, value) ∈ members :=
  AssocList.lookup_eq_some_iff_mem h

/-- If no key comes twice, the order of the keys does not matter for what is found. -/
theorem Distinct.get?_perm {others : Members} (h : members.Distinct) (hperm : others.Perm members)
    (key : String) : others.get? key = members.get? key := by
  have hothers : others.Distinct := (hperm.map Prod.fst).symm.nodup h
  refine Option.ext fun value => ?_
  rw [hothers.get?_eq_some_iff, h.get?_eq_some_iff, hperm.mem_iff]

end Members

/-! ## Changes -/

section Alter

variable {α : Type} {dotted : Bool} {change : Origin → Members → Option (Members × α)}
  {path : List String} {origin : Origin} {members : Members} {altered : Members × α}

/-- Of a table that is changed at the end of a longer path, one key gets another value. -/
theorem exists_eq_set_of_alter_cons {key : String}
    (h : alter dotted change (key :: path) origin members = some altered) :
    ∃ value, altered.1 = members.set key value := by
  rw [alter] at h
  split at h
  · obtain ⟨below, -, hresult⟩ := Option.bind_eq_some_iff.mp h
    cases hresult
    exact ⟨_, rfl⟩
  · split at h
    · cases h
    · obtain ⟨below, -, hresult⟩ := Option.bind_eq_some_iff.mp h
      cases hresult
      exact ⟨_, rfl⟩
  · obtain ⟨last, -, hlast⟩ := Option.bind_eq_some_iff.mp h
    obtain ⟨below, -, hresult⟩ := Option.bind_eq_some_iff.mp hlast
    cases hresult
    exact ⟨_, rfl⟩
  · cases h

/-- A change keeps the keys of a table apart if it does so at the end of its path. -/
theorem distinct_alter (hmembers : members.Distinct)
    (hchange : ∀ origin members altered, members.Distinct →
      change origin members = some altered → altered.1.Distinct)
    (h : alter dotted change path origin members = some altered) : altered.1.Distinct := by
  cases path with
  | nil => exact hchange origin members altered hmembers h
  | cons key path =>
    obtain ⟨value, hset⟩ := exists_eq_set_of_alter_cons h
    rw [hset]
    exact hmembers.set

end Alter

/-- So does a member that is added at its path. -/
theorem distinct_addMember {member : List String × Toml} {members added : Members}
    (h : members.Distinct) (hadded : addMember members member = some added) : added.Distinct := by
  obtain ⟨key, -, hadd⟩ := Option.bind_eq_some_iff.mp hadded
  rw [add] at hadd
  obtain ⟨altered, haltered, rfl⟩ := Option.map_eq_some_iff.mp hadd
  refine distinct_alter h (fun origin below altered hbelow hput => ?_) haltered
  split at hput
  · cases hput
  · cases hput
    exact hbelow.set

/-! ## Documents -/

namespace Draft

/-- No key comes twice in the tables of the headers before the last, and before the first header
none in the table that keys are being added to. -/
structure Sound (d : Draft) : Prop where
  root : d.root.Distinct
  current : d.path = [] → d.current.Distinct

variable {d next : Draft} {root members : Members} {path : List String}

/-- A sound draft ends as a table with distinct keys. -/
theorem Sound.finish (h : d.Sound) (hfinish : d.finish = some members) : members.Distinct := by
  unfold Draft.finish at hfinish
  split at hfinish
  · rename_i hpath
    cases hfinish
    exact h.current (List.getLast?_eq_none_iff.mp hpath)
  · obtain ⟨altered, haltered, rfl⟩ := Option.map_eq_some_iff.mp hfinish
    refine distinct_alter h.root (fun origin below altered hbelow hput => ?_) haltered
    -- whichever kind of table is put there, its key is given one value
    split at hput <;> cases hput <;> exact hbelow.set

theorem ne_nil_of_getLast? {key : String} (h : path.getLast? = some key) : path ≠ [] := by
  rintro rfl
  cases h

/-- A header that opens a table leaves a sound draft. -/
theorem sound_start (h : root.Distinct) (hstart : start root path = some next) : next.Sound := by
  obtain ⟨key, hkey, htake⟩ := Option.bind_eq_some_iff.mp hstart
  obtain ⟨altered, haltered, hnext⟩ := Option.bind_eq_some_iff.mp htake
  cases hnext
  refine ⟨?_, fun hnil => absurd hnil (ne_nil_of_getLast? hkey)⟩
  refine distinct_alter h (fun origin members altered hmembers htakeUp => ?_) haltered
  split at htakeUp
  · cases htakeUp
    exact hmembers
  · cases htakeUp
    exact hmembers.erase
  · cases htakeUp

/-- So does a header that opens an element of a list. -/
theorem sound_startElement (h : root.Distinct) (hstart : startElement root path = some next) :
    next.Sound := by
  obtain ⟨key, hkey, htake⟩ := Option.bind_eq_some_iff.mp hstart
  obtain ⟨altered, haltered, hnext⟩ := Option.bind_eq_some_iff.mp htake
  cases hnext
  refine ⟨?_, fun hnil => absurd hnil (ne_nil_of_getLast? hkey)⟩
  refine distinct_alter h (fun origin members altered hmembers hcheck => ?_) haltered
  split at hcheck
  · cases hcheck
    exact hmembers
  · cases hcheck
    exact hmembers
  · cases hcheck

end Draft

section Lines

variable {d : Draft} {s : List Char}

/-- A header puts away the table before it and starts another. -/
theorem sound_readHeader (h : d.Sound) {read : Draft × List Char}
    (hread : readHeader d s = some read) : read.1.Sound := by
  unfold readHeader at hread
  split at hread
  · obtain ⟨key, -, hread⟩ := Option.bind_eq_some_iff.mp hread
    obtain ⟨_, -, hread⟩ := Option.bind_eq_some_iff.mp hread
    obtain ⟨_, -, hread⟩ := Option.bind_eq_some_iff.mp hread
    obtain ⟨_, -, hread⟩ := Option.bind_eq_some_iff.mp hread
    obtain ⟨root, hroot, hread⟩ := Option.bind_eq_some_iff.mp hread
    obtain ⟨next, hnext, hread⟩ := Option.bind_eq_some_iff.mp hread
    cases hread
    exact Draft.sound_startElement (h.finish hroot) hnext
  · obtain ⟨key, -, hread⟩ := Option.bind_eq_some_iff.mp hread
    obtain ⟨_, -, hread⟩ := Option.bind_eq_some_iff.mp hread
    obtain ⟨_, -, hread⟩ := Option.bind_eq_some_iff.mp hread
    obtain ⟨root, hroot, hread⟩ := Option.bind_eq_some_iff.mp hread
    obtain ⟨next, hnext, hread⟩ := Option.bind_eq_some_iff.mp hread
    cases hread
    exact Draft.sound_start (h.finish hroot) hnext

/-- One line keeps the draft sound. -/
theorem sound_readLine (h : d.Sound) {read : Draft × List Char}
    (hread : readLine d s = some read) : read.1.Sound := by
  unfold readLine at hread
  split at hread
  · exact sound_readHeader h hread
  · obtain ⟨member, -, hread⟩ := Option.bind_eq_some_iff.mp hread
    obtain ⟨added, hadded, hread⟩ := Option.bind_eq_some_iff.mp hread
    obtain ⟨_, -, hread⟩ := Option.bind_eq_some_iff.mp hread
    cases hread
    exact ⟨h.root, fun hpath => distinct_addMember (h.current hpath) hadded⟩

/-- So does any number of lines. -/
theorem sound_readLines {lines : Nat} (h : d.Sound) {last : Draft}
    (hread : readLines lines d s = some last) : last.Sound := by
  induction lines generalizing d s with
  | zero => cases hread
  | succ lines ih =>
    rw [readLines] at hread
    split at hread
    · cases hread
      exact h
    · split at hread
      · exact ih h hread
      · obtain ⟨read, hline, hrest⟩ := Option.bind_eq_some_iff.mp hread
        exact ih (sound_readLine h hline) hrest

end Lines

/-- No key of a document comes twice. -/
theorem distinct_parse? {s : String} {members : Members} (h : parse? s = some members) :
    members.Distinct := by
  obtain ⟨last, hlast, hfinish⟩ := Option.bind_eq_some_iff.mp h
  have hempty : Draft.Sound {} := ⟨Members.distinct_nil, fun _ => Members.distinct_nil⟩
  exact (sound_readLines hempty hlast).finish hfinish

end Toml

end CommandFront
