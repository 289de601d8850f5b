import CommandFront.Config.Decode
import CommandFront.Proofs.TableKeys

/-!
# The configuration of a table

A table is decoded key by key over the defaults. Whether that succeeds does not depend on the order
of the keys, but which value is complained about does.

One decoder is run over all members of a table; a key that it does not know is passed over. What a
member does is therefore said by its key and the kind of its value, once for all keys. A table is
decoded by a fold that stops at the first offence, so success is a condition on each member for
itself, and the result is what the members say under each key and the default elsewhere. That no key
comes twice, which the reader of documents ensures, makes the order of the members irrelevant to it.

- `ServerConfig.kinds`: the keys of a configuration, with the kinds of values that they take.
- `ServerConfig.entry`: the value that a table with all settings has under a key.
- `ServerConfig.decodeMember_eq_error_iff`, `ServerConfig.entry_decodeMember`: what one key does.
- `ServerConfig.decode_eq_error_iff`, `ServerConfig.decode_eq_ok_iff`: what a table comes to.
- `ServerConfig.decode_filter`, `ServerConfig.decode_perm`: which changes to a table do not matter.
- `ServerConfig.decode_overlays_defaults`: the configuration of a table.
-/

namespace CommandFront

namespace ServerConfig

/-- The kinds of values that keys take. -/
inductive Kind where
  /-- A text, with what messages call it. -/
  | text (expected : String)
  /-- A truth value. -/
  | bool
  /-- A whole number that is not negative. -/
  | count
deriving DecidableEq, Repr

namespace Kind

/-- A value is of the kind. -/
def Admits : Kind → Toml → Prop
  | text _, value => ∃ s, value = .text s
  | bool, value => ∃ b, value = .bool b
  | count, value => ∃ n : Nat, value = .integer n

/-- What is told of a value that is not of the kind. -/
def mismatch : Kind → Toml → Mismatch
  | text expected, found => .type found expected
  | bool, found => .type found "a boolean"
  | count, .integer n => .value (.integer n) "usize"
  | count, found => .type found "usize"

end Kind

/-- The keys of a configuration, with the kinds of values that they take. -/
def kinds : List (String × Kind) :=
  [("address", .text "a string"), ("controller_address", .text "a string"),
    ("rpc_address", .text "a string"), ("anonymous", .bool), ("tls", .bool),
    ("cert_file", .text "path string"), ("key_file", .text "path string"), ("rate_limit", .count)]

/-- A key of a configuration. -/
def IsKnown (key : String) : Prop :=
  key ∈ kinds.map Prod.fst

instance (key : String) : Decidable (IsKnown key) :=
  inferInstanceAs (Decidable (_ ∈ _))

/-- If a key is known, its value is of the kind that it takes. -/
def Suits (member : String × Toml) : Prop :=
  ∀ kind, (member.1, kind) ∈ kinds → kind.Admits member.2

/-- The value that a table with all settings has under a key. -/
def entry (c : ServerConfig) : String → Option Toml
  | "address" => some (.text c.address)
  | "controller_address" => some (.text c.controllerAddress)
  | "rpc_address" => some (.text c.rpcAddress)
  | "anonymous" => some (.bool c.anonymous)
  | "tls" => some (.bool c.tls)
  | "cert_file" => c.certFile.map .text
  | "key_file" => c.keyFile.map .text
  | "rate_limit" => some (.integer c.rateLimit)
  | _ => none

variable {c d : ServerConfig} {key : String} {value : Toml} {e : Mismatch}

/-- A configuration is determined by the values under its keys. -/
theorem eq_of_entry_eq (h : ∀ key, IsKnown key → c.entry key = d.entry key) : c = d := by
  have haddress := h "address" (by decide)
  have hcontroller := h "controller_address" (by decide)
  have hrpc := h "rpc_address" (by decide)
  have hanonymous := h "anonymous" (by decide)
  have htls := h "tls" (by decide)
  have hcert := h "cert_file" (by decide)
  have hkey := h "key_file" (by decide)
  have hlimit := h "rate_limit" (by decide)
  have htext : ∀ a b : String, Toml.text a = Toml.text b → a = b := fun _ _ => Toml.text.inj
  obtain ⟨a₁, a₂, a₃, a₄, a₅, a₆, a₇, a₈⟩ := c
  obtain ⟨b₁, b₂, b₃, b₄, b₅, b₆, b₇, b₈⟩ := d
  obtain rfl : a₁ = b₁ := htext _ _ (Option.some.inj haddress)
  obtain rfl : a₂ = b₂ := htext _ _ (Option.some.inj hcontroller)
  obtain rfl : a₃ = b₃ := htext _ _ (Option.some.inj hrpc)
  obtain rfl : a₄ = b₄ := Toml.bool.inj (Option.some.inj hanonymous)
  obtain rfl : a₅ = b₅ := Toml.bool.inj (Option.some.inj htls)
  obtain rfl : a₆ = b₆ := Option.map_injective htext hcert
  obtain rfl : a₇ = b₇ := Option.map_injective htext hkey
  obtain rfl : a₈ = b₈ := Int.ofNat.inj (Toml.integer.inj (Option.some.inj hlimit))
  rfl

/-! ## One value -/

/-- A text is taken as it is. -/
theorem decodeText_eq_ok_iff {expected s : String} :
    decodeText expected value = .ok s ↔ value = .text s := by
  cases value <;> simp [decodeText]

/-- Whatever is no text is told as a mismatch. -/
theorem decodeText_eq_error_iff {expected : String} : decodeText expected value = .error e
    ↔ ¬(Kind.text expected).Admits value ∧ e = (Kind.text expected).mismatch value := by
  cases value <;> simp [decodeText, Kind.Admits, Kind.mismatch, eq_comm]

/-- A truth value is taken as it is. -/
theorem decodeBool_eq_ok_iff {b : Bool} : decodeBool value = .ok b ↔ value = .bool b := by
  cases value <;> simp [decodeBool]

theorem decodeBool_eq_error_iff : decodeBool value = .error e
    ↔ ¬Kind.bool.Admits value ∧ e = Kind.bool.mismatch value := by
  cases value <;> simp [decodeBool, Kind.Admits, Kind.mismatch, eq_comm]

/-- A whole number is taken exactly if it is not negative. -/
theorem decodeCount_eq_ok_iff {n : Nat} : decodeCount value = .ok n ↔ value = .integer n := by
  cases value with
  | integer m =>
    rw [decodeCount, Toml.integer.injEq]
    split
    · rw [Except.ok.injEq]
      omega
    · simp only [reduceCtorEq, false_iff]
      omega
  | _ => simp [decodeCount]

theorem decodeCount_eq_error_iff : decodeCount value = .error e
    ↔ ¬Kind.count.Admits value ∧ e = Kind.count.mismatch value := by
  cases value with
  | integer m =>
    have hadmits : Kind.count.Admits (.integer m) ↔ 0 ≤ m := by
      constructor
      · rintro ⟨n, ⟨⟩⟩
        exact Int.natCast_nonneg n
      · intro hm
        exact ⟨m.toNat, by rw [Int.toNat_of_nonneg hm]⟩
    rw [decodeCount, hadmits]
    by_cases hm : 0 ≤ m
    · simp [hm]
    · simp [hm, Kind.mismatch, eq_comm]
  | _ => simp [decodeCount, Kind.Admits, Kind.mismatch, eq_comm]

/-! ## One key -/

/-- Each key takes values of one kind. -/
theorem kind_unique {kind other : Kind} (h : (key, kind) ∈ kinds) (hother : (key, other) ∈ kinds) :
    kind = other := by
  have hdistinct : (kinds.map Prod.fst).Nodup := by decide
  have hlookup := (AssocList.lookup_eq_some_iff_mem hdistinct).mpr h
  rw [(AssocList.lookup_eq_some_iff_mem hdistinct).mpr hother] at hlookup
  exact (Option.some.inj hlookup).symm

/-- A member that is decoded by a reader for the kind of its key is refused if the reader refuses
its value. -/
theorem map_eq_error_iff_of_kind {α : Type} {kind : Kind} {x : Except Mismatch α}
    {f : α → ServerConfig} (hkind : (key, kind) ∈ kinds)
    (hx : x = .error e ↔ ¬kind.Admits value ∧ e = kind.mismatch value) :
    x.map f = .error e
      ↔ ∃ kind, (key, kind) ∈ kinds ∧ ¬kind.Admits value ∧ e = kind.mismatch value := by
  have hmap : x.map f = .error e ↔ x = .error e := map_eq_error_iff
  rw [hmap, hx]
  constructor
  · exact fun h => ⟨kind, hkind, h⟩
  · rintro ⟨other, hother, h⟩
    rw [kind_unique hkind hother]
    exact h

/-- A key refuses the values that are not of its kind, whatever came before. -/
theorem decodeMember_eq_error_iff : decodeMember c (key, value) = .error e
    ↔ ∃ kind, (key, kind) ∈ kinds ∧ ¬kind.Admits value ∧ e = kind.mismatch value := by
  unfold decodeMember
  dsimp only
  split
  · exact map_eq_error_iff_of_kind (by decide) decodeText_eq_error_iff
  · exact map_eq_error_iff_of_kind (by decide) decodeText_eq_error_iff
  · exact map_eq_error_iff_of_kind (by decide) decodeText_eq_error_iff
  · exact map_eq_error_iff_of_kind (by decide) decodeBool_eq_error_iff
  · exact map_eq_error_iff_of_kind (by decide) decodeBool_eq_error_iff
  · exact map_eq_error_iff_of_kind (by decide) decodeText_eq_error_iff
  · exact map_eq_error_iff_of_kind (by decide) decodeText_eq_error_iff
  · exact map_eq_error_iff_of_kind (by decide) decodeCount_eq_error_iff
  · simp_all [kinds]

/-- A key that is not known is passed over. -/
theorem decodeMember_of_not_isKnown (h : ¬IsKnown key) : decodeMember c (key, value) = .ok c := by
  unfold decodeMember
  dsimp only
  split
  case h_9 => rfl
  all_goals exact absurd (by decide) h

/-- One member is decoded exactly if its key is not known or takes values of its kind. -/
theorem exists_decodeMember_eq_ok_iff :
    (∃ d, decodeMember c (key, value) = .ok d) ↔ Suits (key, value) := by
  cases hresult : decodeMember c (key, value) with
  | ok d =>
    refine ⟨fun _ kind hkind => Classical.byContradiction fun hrefused => ?_, fun _ => ⟨d, rfl⟩⟩
    rw [decodeMember_eq_error_iff.mpr ⟨kind, hkind, hrefused, rfl⟩] at hresult
    cases hresult
  | error e =>
    obtain ⟨kind, hkind, hrefused, -⟩ := decodeMember_eq_error_iff.mp hresult
    refine ⟨?_, fun hsuits => absurd (hsuits kind hkind) hrefused⟩
    rintro ⟨d, ⟨⟩⟩

theorem entry_of_not_isKnown (h : ¬IsKnown key) : c.entry key = none := by
  unfold entry
  split
  case h_9 => rfl
  all_goals exact absurd (by decide) h

/-- A known key gets its value, and the others keep theirs. -/
theorem entry_decodeMember (h : decodeMember c (key, value) = .ok d) (hknown : IsKnown key)
    (other : String) : d.entry other = if other = key then some value else c.entry other := by
  by_cases hother : IsKnown other
  case neg =>
    have hne : other ≠ key := fun heq => hother (heq ▸ hknown)
    rw [if_neg hne, entry_of_not_isKnown hother, entry_of_not_isKnown hother]
  simp only [IsKnown, kinds, List.map_cons, List.map_nil, List.mem_cons, List.not_mem_nil,
    or_false] at hother
  unfold decodeMember at h
  dsimp only at h
  split at h
  case h_9 => simp_all [IsKnown, kinds]
  all_goals
    obtain ⟨found, hfound, rfl⟩ := map_eq_ok_iff.mp h
    simp only [decodeText_eq_ok_iff, decodeBool_eq_ok_iff, decodeCount_eq_ok_iff] at hfound
    subst hfound
    -- the changed setting against each of the eight
    rcases hother with rfl | rfl | rfl | rfl | rfl | rfl | rfl | rfl <;> rfl

/-! ## Tables -/

variable {members : Toml.Members}

/-- A table is decoded exactly if each of its members suits. -/
theorem exists_foldlM_eq_ok_iff :
    (∃ d, members.foldlM decodeMember c = .ok d) ↔ ∀ member ∈ members, Suits member := by
  induction members generalizing c with
  | nil => exact ⟨fun _ _ hmem => absurd hmem List.not_mem_nil, fun _ => ⟨c, rfl⟩⟩
  | cons member rest ih =>
    obtain ⟨key, value⟩ := member
    rw [List.forall_mem_cons, ← exists_decodeMember_eq_ok_iff (c := c)]
    constructor
    · rintro ⟨d, hd⟩
      rw [List.foldlM_cons, bind_eq_ok_iff] at hd
      obtain ⟨next, hnext, hrest⟩ := hd
      exact ⟨⟨next, hnext⟩, ih.mp ⟨d, hrest⟩⟩
    · rintro ⟨⟨next, hnext⟩, hsuit⟩
      obtain ⟨d, hd⟩ := ih.mpr hsuit
      refine ⟨d, ?_⟩
      rw [List.foldlM_cons, hnext]
      exact hd

/-- Where no key comes twice, a known key has its value in the end, or the one it had before. -/
theorem entry_foldlM (hdistinct : members.Distinct)
    (h : members.foldlM decodeMember c = .ok d) (hknown : IsKnown key) :
    d.entry key = (members.get? key).or (c.entry key) := by
  induction members generalizing c with
  | nil =>
    cases h
    rfl
  | cons member rest ih =>
    obtain ⟨first, value⟩ := member
    obtain ⟨hfresh, hrest⟩ := List.nodup_cons.mp hdistinct
    rw [List.foldlM_cons, bind_eq_ok_iff] at h
    obtain ⟨next, hnext, h⟩ := h
    have hnone : Toml.Members.get? rest first = none := AssocList.lookup_eq_none_iff.mpr hfresh
    rw [ih hrest h, Toml.Members.get?, Toml.Members.get?, AssocList.lookup_cons]
    by_cases hkey : key = first
    · subst hkey
      rw [entry_decodeMember hnext hknown, if_pos rfl, if_pos rfl]
      show (Toml.Members.get? rest key).or (some value) = _
      rw [hnone]
      rfl
    · rw [if_neg hkey]
      by_cases hfirst : IsKnown first
      · rw [entry_decodeMember hnext hfirst, if_neg hkey]
      · rw [decodeMember_of_not_isKnown hfirst] at hnext
        cases hnext
        rfl

/-- Each known key of a table gives its setting, and the other settings are the defaults. -/
def Reflects (c : ServerConfig) (members : Toml.Members) : Prop :=
  ∀ key, IsKnown key → c.entry key = (members.get? key).or (entry {} key)

/-- The first member whose value is not of the kind that its key takes, with what is told of it. -/
def FirstOffence (members : Toml.Members) (e : Mismatch) : Prop :=
  ∃ front key value back kind, members = front ++ (key, value) :: back
    ∧ (∀ member ∈ front, Suits member) ∧ (key, kind) ∈ kinds ∧ ¬kind.Admits value
    ∧ e = kind.mismatch value

/-- A table fails for the first member that offends. -/
theorem decode_eq_error_iff : decode members = .error e ↔ FirstOffence members e := by
  rw [decode, foldlM_eq_error_iff]
  constructor
  · rintro ⟨front, ⟨key, value⟩, back, c, hmembers, hfront, hrefused⟩
    obtain ⟨kind, hkind, hvalue, he⟩ := decodeMember_eq_error_iff.mp hrefused
    exact ⟨front, key, value, back, kind, hmembers, exists_foldlM_eq_ok_iff.mp ⟨c, hfront⟩, hkind,
      hvalue, he⟩
  · rintro ⟨front, key, value, back, kind, hmembers, hfront, hkind, hvalue, he⟩
    obtain ⟨c, hc⟩ := exists_foldlM_eq_ok_iff.mpr hfront
    exact ⟨front, (key, value), back, c, hmembers, hc,
      decodeMember_eq_error_iff.mpr ⟨kind, hkind, hvalue, he⟩⟩

/-- A table is decoded exactly if no member offends. -/
theorem exists_decode_eq_ok_iff :
    (∃ c, decode members = .ok c) ↔ ∀ member ∈ members, Suits member :=
  exists_foldlM_eq_ok_iff

/-- The settings are of the kinds that their keys take. -/
theorem admits_of_entry {kind : Kind} (hkind : (key, kind) ∈ kinds) (h : c.entry key = some value) :
    kind.Admits value := by
  simp only [kinds, List.mem_cons, Prod.mk.injEq, List.not_mem_nil, or_false] at hkind
  rcases hkind with ⟨rfl, rfl⟩ | ⟨rfl, rfl⟩ | ⟨rfl, rfl⟩ | ⟨rfl, rfl⟩ | ⟨rfl, rfl⟩ | ⟨rfl, rfl⟩
    | ⟨rfl, rfl⟩ | ⟨rfl, rfl⟩
  · exact ⟨_, (Option.some.inj h).symm⟩
  · exact ⟨_, (Option.some.inj h).symm⟩
  · exact ⟨_, (Option.some.inj h).symm⟩
  · exact ⟨_, (Option.some.inj h).symm⟩
  · exact ⟨_, (Option.some.inj h).symm⟩
  · obtain ⟨file, -, hfile⟩ := Option.map_eq_some_iff.mp h
    exact ⟨file, hfile.symm⟩
  · obtain ⟨file, -, hfile⟩ := Option.map_eq_some_iff.mp h
    exact ⟨file, hfile.symm⟩
  · exact ⟨_, (Option.some.inj h).symm⟩

/-- A table that a configuration reflects has no member that offends. -/
theorem Reflects.suits (h : c.Reflects members) (hdistinct : members.Distinct) :
    ∀ member ∈ members, Suits member := by
  rintro ⟨key, value⟩ hmem kind hkind
  have hentry := h key (List.mem_map_of_mem hkind)
  rw [hdistinct.get?_eq_some_iff.mpr hmem, Option.some_or] at hentry
  exact admits_of_entry hkind hentry

/-- What a table comes to is determined by the values of its known keys. -/
theorem decode_eq_ok_iff (hdistinct : members.Distinct) :
    decode members = .ok c ↔ c.Reflects members := by
  constructor
  · exact fun h key hknown => entry_foldlM hdistinct h hknown
  · intro h
    obtain ⟨d, hd⟩ := exists_decode_eq_ok_iff.mpr (h.suits hdistinct)
    have heq : d = c := eq_of_entry_eq fun key hknown =>
      (entry_foldlM hdistinct hd hknown).trans (h key hknown).symm
    rw [hd, heq]

/-- Keys that are not known do not matter, whatever their values are and wherever they stand. -/
theorem decode_filter (members : Toml.Members) :
    decode (members.filter fun member => decide (IsKnown member.1)) = decode members := by
  have hstep : (fun c (member : String × Toml) =>
      if decide (IsKnown member.1) = true then decodeMember c member else pure c)
        = decodeMember := by
    funext c member
    by_cases hknown : IsKnown member.1
    · rw [if_pos (decide_eq_true hknown)]
    · rw [if_neg (by simpa using hknown), decodeMember_of_not_isKnown hknown]
      rfl
  rw [decode, decode, List.foldlM_filter, hstep]

/-- Another order of the keys gives the same configuration. -/
theorem decode_perm {others : Toml.Members} (hdistinct : members.Distinct)
    (hperm : others.Perm members) : decode others = .ok c ↔ decode members = .ok c := by
  have hothers : others.Distinct := (hperm.map Prod.fst).symm.nodup hdistinct
  rw [decode_eq_ok_iff hothers, decode_eq_ok_iff hdistinct]
  unfold Reflects
  simp only [hdistinct.get?_perm hperm]

/-- Of a table in which no key comes twice, all members suit exactly if the known keys that are
there have values of their kinds. -/
theorem forall_suits_iff (hdistinct : members.Distinct) : (∀ member ∈ members, Suits member)
    ↔ ∀ key kind, (key, kind) ∈ kinds → ∀ value, members.get? key = some value →
      kind.Admits value := by
  constructor
  · intro h key kind hkind value hvalue
    exact h (key, value) (hdistinct.get?_eq_some_iff.mp hvalue) kind hkind
  · rintro h ⟨key, value⟩ hmem kind hkind
    exact h key kind hkind value (hdistinct.get?_eq_some_iff.mpr hmem)

/-- A table in which no key comes twice, as every document gives one, is decoded exactly if each of
the eight known keys that it has is of the kind that the key takes; each of them then gives its
setting, and the other settings are the defaults. Else the first member in the order of the table
whose value is of another kind is told. Keys that are not known change nothing, and another order of
the keys changes no configuration. -/
theorem decode_overlays_defaults :
    (∀ source members, Toml.parse? source = some members → members.Distinct)
    ∧ ∀ members : Toml.Members, members.Distinct →
      ((∃ c, decode members = .ok c) ↔ ∀ key kind, (key, kind) ∈ kinds → ∀ value,
        members.get? key = some value → kind.Admits value)
      ∧ (∀ c, decode members = .ok c ↔ c.Reflects members)
      ∧ (∀ e, decode members = .error e ↔ FirstOffence members e)
      ∧ decode (members.filter fun member => decide (IsKnown member.1)) = decode members
      ∧ ∀ others : Toml.Members, others.Perm members → ∀ c,
        decode others = .ok c ↔ decode members = .ok c := by
  refine ⟨fun _ _ => Toml.distinct_parse?, fun members hdistinct => ⟨?_, ?_, ?_, ?_, ?_⟩⟩
  · exact exists_decode_eq_ok_iff.trans (forall_suits_iff hdistinct)
  · exact fun c => decode_eq_ok_iff hdistinct
  · exact fun e => decode_eq_error_iff
  · exact decode_filter members
  · exact fun others hperm c => decode_perm hdistinct hperm

end ServerConfig

namespace Sample

open ServerConfig

/-- A table with one known key; the `tls` in the table below it is none. -/
def mixedTable : Toml.Members :=
  [("plan", .array [.integer 1]), ("rate_limit", .integer 64),
    ("extra", .table .header [("tls", .integer 1)])]

/-- Two values are of the wrong kind. -/
def faultyTable : Toml.Members :=
  [("plan", .array [.integer 1]), ("rate_limit", .text "many"), ("tls", .integer 1)]

/-- A document gives one setting, also when its keys come in another order, and of two faults the
first is told. -/
theorem mixed_table_decoded :
    (Toml.parse? "plan = [1]\nrate_limit = 64\n[extra]\ntls = 1\n"
        = some mixedTable
      ∧ mixedTable.reverse.Perm mixedTable
      ∧ decode mixedTable.reverse = .ok { rateLimit := 64 })
    ∧ faultyTable.Distinct ∧ FirstOffence faultyTable (.type (.text "many") "usize") := by
  have hparse : Toml.parse? "plan = [1]\nrate_limit = 64\n[extra]\ntls = 1\n"
      = some mixedTable := rfl
  have hperm : mixedTable.reverse.Perm mixedTable := List.reverse_perm mixedTable
  have hfaulty : faultyTable.Distinct := by decide
  obtain ⟨hdocument, htable⟩ := decode_overlays_defaults
  obtain ⟨-, -, -, -, hreorder⟩ := htable mixedTable (hdocument _ _ hparse)
  obtain ⟨-, -, herror, -⟩ := htable faultyTable hfaulty
  have hdecoded : decode mixedTable = .ok { rateLimit := 64 } := rfl
  have hrefused : decode faultyTable = .error (.type (.text "many") "usize") := rfl
  exact ⟨⟨hparse, hperm, (hreorder _ hperm _).mpr hdecoded⟩, hfaulty, (herror _).mp hrefused⟩

end Sample

end CommandFront
