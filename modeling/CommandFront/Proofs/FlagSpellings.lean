import CommandFront.Flag.Registry
import CommandFront.Proofs.Lists

/-!
# The spellings of registered flags

Registration checks a new flag against the registered ones only. Since collision is symmetric, that
keeps any two flags of a registry apart.

Two flags collide when their scopes overlap and they share a spelling. A flag of one command and a
flag of another never collide, so the same spelling may well be registered twice. What matters is
the view from one command: there, each spelling must have one owner. This is what the check of a new
flag preserves, although it looks at the owners one at a time and knows no command.

- `Flag.VisibleIn`: whether a flag is accepted where the flags of a scope are.
- `FlagRegistry.Separate`: no two flags collide, and every spelling is usable.
- `FlagRegistry.attempt`, `FlagRegistry.ofCalls`: registrations of which some may fail.
- `FlagRegistry.separate_ofCalls`: any registrations leave the flags apart.
- `FlagRegistry.spellings_apart`: so a spelling belongs to at most one of the flags that a command
  accepts, and a registration is refused exactly when the new flag would break that.
-/

namespace CommandFront

namespace Flag

/-- A flag is accepted where the flags of a scope are. -/
def VisibleIn (f : Flag) (scope : FlagScope) : Prop :=
  f.scope = .everywhere ∨ f.scope = scope

instance (f : Flag) (scope : FlagScope) : Decidable (f.VisibleIn scope) :=
  inferInstanceAs (Decidable (_ ∨ _))

/-- Some spelling of the flag is no name. -/
def IsMalformed (f : Flag) : Prop :=
  ∃ name ∈ f.longNames, ¬Text.IsName name

instance (f : Flag) : Decidable f.IsMalformed :=
  inferInstanceAs (Decidable (∃ name ∈ _, _))

/-- Flags that are visible in one scope have overlapping scopes. -/
theorem VisibleIn.overlaps {f g : Flag} {scope : FlagScope} (hf : f.VisibleIn scope)
    (hg : g.VisibleIn scope) : f.scope.Overlaps g.scope := by
  rcases hf with hf | hf
  · exact .inl hf
  · rcases hg with hg | hg
    · exact .inr (.inl hg)
    · exact .inr (.inr (hf.trans hg.symm))

/-- Where two flags do not collide and their scopes overlap, they have no long spelling in common.
-/
theorem not_mem_longNames_of_not_collides {f g : Flag} (h : ¬f.Collides g)
    (hscope : f.scope.Overlaps g.scope) {name : String} (hname : name ∈ f.longNames) :
    name ∉ g.longNames :=
  fun hg => h ⟨hscope, .inr ⟨name, hname, hg⟩⟩

/-- Nor do they have a letter in common. -/
theorem short_ne_of_not_collides {f g : Flag} (h : ¬f.Collides g)
    (hscope : f.scope.Overlaps g.scope) {c : Char} (hf : f.short = some c) : g.short ≠ some c := by
  intro hg
  refine h ⟨hscope, .inl ⟨?_, hf.trans hg.symm⟩⟩
  rw [hf]
  exact Option.some_ne_none c

end Flag

namespace FlagRegistry

/-- The flags of a registry can be told apart wherever two of them are accepted. -/
structure Separate (r : FlagRegistry) : Prop where
  apart : r.flags.Pairwise fun f g => ¬f.Collides g
  wellFormed : ∀ f ∈ r.flags, ¬f.IsMalformed
  unreserved : ∀ f ∈ r.flags, ¬f.IsReserved

/-- A registration that leaves the registry as it is when it fails. -/
def attempt (r : FlagRegistry) (flag : Flag) : FlagRegistry :=
  match r.register flag with
  | .ok extended => extended
  | .error _ => r

/-- The registry after a list of registrations, of which some may fail. -/
def ofCalls (calls : List Flag) : FlagRegistry :=
  calls.foldl attempt ∅

/-! ## One registration -/

section Register

variable {r : FlagRegistry} {flag : Flag}

/-- A flag collides with none of the registered ones. -/
def Fresh (r : FlagRegistry) (flag : Flag) : Prop :=
  ∀ g ∈ r.flags, ¬g.Collides flag

instance (r : FlagRegistry) (flag : Flag) : Decidable (r.Fresh flag) :=
  inferInstanceAs (Decidable (∀ g ∈ _, _))

theorem register_eq : r.register flag =
    if flag.IsMalformed then .error (.invalidName flag.name)
    else if flag.IsReserved then .error (.reservedFlag flag.name)
    else
      match r.flags.find? fun registered => decide (registered.Collides flag) with
      | some registered =>
        .error (.duplicateFlag flag.name (if flag.IsGlobal then registered.scope else flag.scope))
      | none => .ok ⟨r.flags ++ [flag]⟩ :=
  rfl

/-- The scope that is told of a collision is one in which both flags are visible: of two
overlapping scopes, the narrower one. -/
theorem visible_of_collides {g : Flag} (h : g.Collides flag) :
    flag.VisibleIn (if flag.IsGlobal then g.scope else flag.scope)
      ∧ g.VisibleIn (if flag.IsGlobal then g.scope else flag.scope) := by
  by_cases hglobal : flag.IsGlobal
  · rw [if_pos hglobal]
    exact ⟨.inl hglobal, .inr rfl⟩
  · rw [if_neg hglobal]
    refine ⟨.inr rfl, ?_⟩
    -- the new flag has a scope of its own, so the other one is global or has the same
    rcases h.1 with hg | hflag | heq
    · exact .inl hg
    · exact absurd hflag hglobal
    · exact .inr heq

/-- All that one registration can do. -/
inductive Outcome (r : FlagRegistry) (flag : Flag) : Prop where
  | malformed : flag.IsMalformed → r.register flag = .error (.invalidName flag.name) →
      Outcome r flag
  | reserved : ¬flag.IsMalformed → flag.IsReserved →
      r.register flag = .error (.reservedFlag flag.name) → Outcome r flag
  | collides (g : Flag) (scope : FlagScope) : ¬flag.IsMalformed → ¬flag.IsReserved →
      g ∈ r.flags → g.Collides flag → flag.VisibleIn scope → g.VisibleIn scope →
      r.register flag = .error (.duplicateFlag flag.name scope) → Outcome r flag
  | accepted : ¬flag.IsMalformed → ¬flag.IsReserved → r.Fresh flag →
      r.register flag = .ok ⟨r.flags ++ [flag]⟩ → Outcome r flag

/-- Each registration ends in one of four ways. -/
theorem outcome (r : FlagRegistry) (flag : Flag) : Outcome r flag := by
  by_cases hformed : flag.IsMalformed
  · exact .malformed hformed (if_pos hformed)
  by_cases hfree : flag.IsReserved
  · exact .reserved hformed hfree (by rw [register_eq, if_neg hformed, if_pos hfree])
  cases hfind : r.flags.find? fun registered => decide (registered.Collides flag) with
  | some g =>
    obtain ⟨hmem, hcollides⟩ := of_find?_eq_some hfind
    obtain ⟨hflag, hg⟩ := visible_of_collides hcollides
    refine .collides g _ hformed hfree hmem hcollides hflag hg ?_
    rw [register_eq, if_neg hformed, if_neg hfree, hfind]
  | none =>
    refine .accepted hformed hfree (fun g hg => ?_) ?_
    · exact of_decide_eq_false (Bool.eq_false_iff.mpr (List.find?_eq_none.mp hfind g hg))
    · rw [register_eq, if_neg hformed, if_neg hfree, hfind]

/-- The name is told as invalid exactly if the flag is malformed. -/
theorem register_eq_invalidName_iff :
    r.register flag = .error (.invalidName flag.name) ↔ flag.IsMalformed := by
  cases outcome r flag with
  | malformed hbad hres => simp [hres, hbad]
  | reserved hformed _ hres => simp [hres, hformed]
  | collides _ _ hformed _ _ _ _ _ hres => simp [hres, hformed]
  | accepted hformed _ _ hres => simp [hres, hformed]

/-- The flag is told as reserved exactly if it is well-formed and takes a spelling of help. -/
theorem register_eq_reservedFlag_iff :
    r.register flag = .error (.reservedFlag flag.name)
      ↔ ¬flag.IsMalformed ∧ flag.IsReserved := by
  cases outcome r flag with
  | malformed hbad hres => simp [hres, hbad]
  | reserved hformed hbad hres => simp [hres, hformed, hbad]
  | collides _ _ _ hfree _ _ _ _ hres => simp [hres, hfree]
  | accepted _ hfree _ hres => simp [hres, hfree]

/-- It is told as a duplicate exactly if nothing else is wrong and it collides with another flag. -/
theorem exists_register_eq_duplicateFlag_iff :
    (∃ scope, r.register flag = .error (.duplicateFlag flag.name scope))
      ↔ ¬flag.IsMalformed ∧ ¬flag.IsReserved ∧ ∃ g ∈ r.flags, g.Collides flag := by
  cases outcome r flag with
  | malformed hbad hres => simp [hres, hbad]
  | reserved _ hbad hres => simp [hres, hbad]
  | collides g scope hformed hfree hmem hcollides _ _ hres =>
    exact ⟨fun _ => ⟨hformed, hfree, g, hmem, hcollides⟩, fun _ => ⟨scope, hres⟩⟩
  | accepted _ _ hfresh hres =>
    constructor
    · rintro ⟨scope, herror⟩
      rw [hres] at herror
      cases herror
    · rintro ⟨-, -, g, hmem, hcollides⟩
      exact absurd hcollides (hfresh g hmem)

/-- The scope that is told is one in which both flags are visible. -/
theorem visible_of_register_eq_duplicateFlag {scope : FlagScope}
    (h : r.register flag = .error (.duplicateFlag flag.name scope)) :
    flag.VisibleIn scope ∧ ∃ g ∈ r.flags, g.Collides flag ∧ g.VisibleIn scope := by
  cases outcome r flag with
  | malformed _ hres => rw [hres] at h; cases h
  | reserved _ _ hres => rw [hres] at h; cases h
  | collides g _ _ _ hmem hcollides hflag hg hres =>
    rw [hres] at h
    cases h
    exact ⟨hflag, g, hmem, hcollides, hg⟩
  | accepted _ _ _ hres => rw [hres] at h; cases h

theorem not_fresh_iff : ¬r.Fresh flag ↔ ∃ g ∈ r.flags, g.Collides flag := by
  simp [Fresh]

/-- A flag is registered exactly if nothing is wrong with it, and then behind the others. -/
theorem register_eq_ok_iff {extended : FlagRegistry} :
    r.register flag = .ok extended
      ↔ (¬flag.IsMalformed ∧ ¬flag.IsReserved ∧ r.Fresh flag)
        ∧ extended = ⟨r.flags ++ [flag]⟩ := by
  cases outcome r flag with
  | malformed hbad hres => simp [hres, hbad]
  | reserved _ hbad hres => simp [hres, hbad]
  | collides g _ _ _ hmem hcollides _ _ hres =>
    have hstale : ¬r.Fresh flag := not_fresh_iff.mpr ⟨g, hmem, hcollides⟩
    simp [hres, hstale]
  | accepted hformed hfree hfresh hres => simp [hres, hformed, hfree, hfresh, eq_comm]

/-- A call adds its flag if nothing is wrong with it, and changes nothing otherwise. -/
theorem attempt_eq : r.attempt flag
    = if ¬flag.IsMalformed ∧ ¬flag.IsReserved ∧ r.Fresh flag then ⟨r.flags ++ [flag]⟩ else r := by
  unfold attempt
  cases hres : r.register flag with
  | ok extended =>
    obtain ⟨haccepted, rfl⟩ := register_eq_ok_iff.mp hres
    exact (if_pos haccepted).symm
  | error e =>
    refine (if_neg fun haccepted => ?_).symm
    rw [register_eq_ok_iff.mpr ⟨haccepted, rfl⟩] at hres
    cases hres

theorem separate_empty : (∅ : FlagRegistry).Separate where
  apart := List.Pairwise.nil
  wellFormed _ hf := absurd hf List.not_mem_nil
  unreserved _ hf := absurd hf List.not_mem_nil

/-- The flags stay apart when one is added that collides with none of them. -/
theorem Separate.extend (h : r.Separate) (hformed : ¬flag.IsMalformed) (hfree : ¬flag.IsReserved)
    (hfresh : r.Fresh flag) : Separate ⟨r.flags ++ [flag]⟩ where
  apart := by
    refine List.pairwise_append.mpr ⟨h.apart, List.pairwise_singleton _ _, fun g hg f hf => ?_⟩
    rw [List.mem_singleton.mp hf]
    exact hfresh g hg
  wellFormed f hf := by
    rcases List.mem_append.mp hf with hold | hlast
    · exact h.wellFormed f hold
    · rw [List.mem_singleton.mp hlast]
      exact hformed
  unreserved f hf := by
    rcases List.mem_append.mp hf with hold | hlast
    · exact h.unreserved f hold
    · rw [List.mem_singleton.mp hlast]
      exact hfree

theorem Separate.register (h : r.Separate) {extended : FlagRegistry}
    (hok : r.register flag = .ok extended) : extended.Separate := by
  obtain ⟨⟨hformed, hfree, hfresh⟩, rfl⟩ := register_eq_ok_iff.mp hok
  exact h.extend hformed hfree hfresh

/-- They stay apart after any call, be it refused or not. -/
theorem Separate.attempt (h : r.Separate) : (r.attempt flag).Separate := by
  unfold FlagRegistry.attempt
  cases hres : r.register flag with
  | ok extended => exact h.register hres
  | error e => exact h

end Register

/-! ## Any registrations -/

/-- They stay apart after any sequence of calls. -/
theorem separate_foldl_attempt {r : FlagRegistry} (h : r.Separate) (calls : List Flag) :
    (calls.foldl attempt r).Separate := by
  induction calls generalizing r with
  | nil => exact h
  | cons flag rest ih => exact ih h.attempt

/-- Any registrations leave the flags apart. -/
theorem separate_ofCalls (calls : List Flag) : (ofCalls calls).Separate :=
  separate_foldl_attempt separate_empty calls

/-! ## Look-up among separate flags -/

section Lookup

variable {r : FlagRegistry}

/-- The flags at two places do not collide, whichever comes first. -/
theorem Separate.not_collides (h : r.Separate) {i j : Nat} {f g : Flag} (hne : i ≠ j)
    (hf : r.flags[i]? = some f) (hg : r.flags[j]? = some g) : ¬f.Collides g := by
  obtain ⟨hi, rfl⟩ := List.getElem?_eq_some_iff.mp hf
  obtain ⟨hj, rfl⟩ := List.getElem?_eq_some_iff.mp hg
  have hpairs := List.pairwise_iff_getElem.mp h.apart
  rcases Nat.lt_or_gt_of_ne hne with hlt | hgt
  · exact hpairs i j hi hj hlt
  · exact fun hcollides => hpairs j i hj hi hgt hcollides.symm

/-- Of the flags that are visible in a scope, at most one has a property that no two colliding
flags share. -/
theorem Separate.countP_visible_le_one (h : r.Separate) (scope : FlagScope) (p : Flag → Prop)
    [DecidablePred p]
    (hp : ∀ f g : Flag, f.scope.Overlaps g.scope → p f → p g → f.Collides g) :
    (r.flags.countP fun f => decide (f.VisibleIn scope ∧ p f)) ≤ 1 := by
  refine countP_le_one_of_pairwise (h.apart.imp fun {f g} hapart hboth => ?_)
  obtain ⟨hf, hg⟩ := hboth
  obtain ⟨hvf, hpf⟩ := of_decide_eq_true hf
  obtain ⟨hvg, hpg⟩ := of_decide_eq_true hg
  exact hapart (hp f g (hvf.overlaps hvg) hpf hpg)

/-- A look-up finds the one flag of a scope that has the name. -/
theorem Separate.get?_eq_some_iff (h : r.Separate) {scope : FlagScope} {name : String}
    {f : Flag} : r.get? scope name = some f ↔ f ∈ r.flags ∧ f.scope = scope ∧ f.name = name := by
  constructor
  · exact fun hfind => of_find?_eq_some hfind
  · rintro ⟨hmem, hscope, hname⟩
    refine find?_eq_some_of_pairwise h.apart hmem (decide_eq_true ⟨hscope, hname⟩) ?_
    intro g hg
    -- another flag of this scope and name would collide with the flag
    obtain ⟨hgscope, hgname⟩ := of_decide_eq_true hg
    have hspelling : g.name ∈ f.longNames := by
      rw [hgname, ← hname]
      exact f.name_mem_longNames
    exact ⟨.inr (.inr (hgscope.trans hscope.symm)), .inr ⟨g.name, g.name_mem_longNames, hspelling⟩⟩

end Lookup

/-- After any registrations, failed ones among them, two flags whose scopes overlap share no
spelling and every spelling is usable. So a spelling belongs to at most one of the flags that a
command accepts. A flag is refused exactly when a spelling of it is no name, or else is reserved,
or else the flag collides with a registered one; then the registry stays as it is. -/
theorem spellings_apart (calls : List Flag) :
    (∀ (i j : Nat) (f g : Flag), i ≠ j → (ofCalls calls).flags[i]? = some f →
        (ofCalls calls).flags[j]? = some g → f.scope.Overlaps g.scope →
          (∀ name ∈ f.longNames, name ∉ g.longNames)
            ∧ ∀ c, f.short = some c → g.short ≠ some c)
      ∧ (∀ f ∈ (ofCalls calls).flags,
        (∀ name ∈ f.longNames, Text.IsName name ∧ name ≠ "help") ∧ f.short ≠ some 'h')
      ∧ (∀ command : String,
        (∀ name, ((ofCalls calls).flags.countP fun f =>
            decide (f.VisibleIn (.command command) ∧ name ∈ f.longNames)) ≤ 1)
          ∧ ∀ c, ((ofCalls calls).flags.countP fun f =>
            decide (f.VisibleIn (.command command) ∧ f.short = some c)) ≤ 1)
      ∧ (∀ scope name f, (ofCalls calls).get? scope name = some f
        ↔ f ∈ (ofCalls calls).flags ∧ f.scope = scope ∧ f.name = name)
      ∧ ∀ (r : FlagRegistry) (flag : Flag),
        (r.register flag = .error (.invalidName flag.name) ↔ flag.IsMalformed)
          ∧ (r.register flag = .error (.reservedFlag flag.name)
            ↔ ¬flag.IsMalformed ∧ flag.IsReserved)
          ∧ ((∃ scope, r.register flag = .error (.duplicateFlag flag.name scope))
            ↔ ¬flag.IsMalformed ∧ ¬flag.IsReserved ∧ ∃ g ∈ r.flags, g.Collides flag)
          ∧ (∀ scope, r.register flag = .error (.duplicateFlag flag.name scope) →
            flag.VisibleIn scope ∧ ∃ g ∈ r.flags, g.Collides flag ∧ g.VisibleIn scope)
          ∧ (∀ extended, r.register flag = .ok extended
            ↔ (¬flag.IsMalformed ∧ ¬flag.IsReserved ∧ ¬∃ g ∈ r.flags, g.Collides flag)
              ∧ extended = ⟨r.flags ++ [flag]⟩)
          ∧ r.attempt flag
            = if ¬flag.IsMalformed ∧ ¬flag.IsReserved ∧ ¬∃ g ∈ r.flags, g.Collides flag then
                ⟨r.flags ++ [flag]⟩
              else r := by
  have h := separate_ofCalls calls
  refine ⟨?_, ?_, ?_, fun scope name f => h.get?_eq_some_iff, ?_⟩
  · intro i j f g hne hf hg hscope
    have hapart := h.not_collides hne hf hg
    exact ⟨fun name => Flag.not_mem_longNames_of_not_collides hapart hscope,
      fun c => Flag.short_ne_of_not_collides hapart hscope⟩
  · intro f hf
    refine ⟨fun name hname => ⟨?_, ?_⟩, fun hshort => h.unreserved f hf (.inr hshort)⟩
    · exact Decidable.byContradiction fun hno => h.wellFormed f hf ⟨name, hname, hno⟩
    · rintro rfl
      exact h.unreserved f hf (.inl hname)
  · intro command
    constructor
    · intro name
      refine h.countP_visible_le_one _ _ fun f g hscope hf hg => ?_
      exact ⟨hscope, .inr ⟨name, hf, hg⟩⟩
    · intro c
      refine h.countP_visible_le_one _ _ fun f g hscope hf hg => ?_
      exact ⟨hscope, .inl ⟨by rw [hf]; exact Option.some_ne_none c, hf.trans hg.symm⟩⟩
  · intro r flag
    refine ⟨register_eq_invalidName_iff, register_eq_reservedFlag_iff,
      exists_register_eq_duplicateFlag_iff, fun scope => visible_of_register_eq_duplicateFlag,
      fun extended => ?_, ?_⟩
    · rw [register_eq_ok_iff, ← not_fresh_iff, Decidable.not_not]
    · rw [attempt_eq]
      simp only [← not_fresh_iff, Decidable.not_not]

/-- A command's flag that takes the name of a global one is refused; another one is accepted and
shares no spelling with it. -/
theorem spellings_apart_of_global_json :
    (ofCalls [Flag.switch "json" "", (Flag.value "json" "").forCommand "server",
        (Flag.value "address" "").forCommand "server"]).flags
      = [Flag.switch "json" "", (Flag.value "address" "").forCommand "server"]
    ∧ ∀ name ∈ (Flag.switch "json" "").longNames,
      name ∉ ((Flag.value "address" "").forCommand "server").longNames := by
  have hapart := (spellings_apart [Flag.switch "json" "",
    (Flag.value "json" "").forCommand "server",
    (Flag.value "address" "").forCommand "server"]).1 0 1
  exact ⟨by decide, (hapart _ _ (by decide) (by decide) (by decide) (by decide)).1⟩

end FlagRegistry

end CommandFront
