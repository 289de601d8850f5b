import CommandFront.Text.Blank

/-!
# Flags

A flag has a name, other long spellings and perhaps a letter. Under its name an action asks for it;
under all spellings a user gives it. Whether two flags get into each other's way depends on where
they are accepted: flags of two different commands never meet on a level, and may have the same
spellings.

- `FlagScope`: where a flag is accepted: everywhere, or on one command.
- `Flag`: a flag with its spellings and its help.
- `Flag.Collides`: two flags that could not be told apart on some command line.
- `Flag.synopsis`, `Flag.helpLine`: the two columns of a flag in a help text.
-/

namespace CommandFront

/-- Where a flag is accepted. -/
inductive FlagScope where
  /-- On every level. -/
  | everywhere
  /-- After the name of one command. -/
  | command (name : String)
deriving DecidableEq, Repr

namespace FlagScope

/-- Two scopes overlap when some level accepts the flags of both. -/
def Overlaps (a b : FlagScope) : Prop :=
  a = everywhere ∨ b = everywhere ∨ a = b

instance (a b : FlagScope) : Decidable (a.Overlaps b) :=
  inferInstanceAs (Decidable (_ ∨ _ ∨ _))

theorem Overlaps.symm {a b : FlagScope} (h : a.Overlaps b) : b.Overlaps a := by
  rcases h with h | h | h
  · exact .inr (.inl h)
  · exact .inl h
  · exact .inr (.inr h.symm)

/-- The scope in words. -/
def text : FlagScope → String
  | everywhere => "global scope"
  | command name => "command '" ++ name ++ "'"

end FlagScope

/-- What a flag takes. -/
inductive FlagKind where
  /-- Nothing: it is on or off. -/
  | switch
  /-- A value. -/
  | value
deriving DecidableEq, Repr

/-- A flag of the command line. -/
structure Flag where
  /-- The name, which is also the first long spelling. -/
  name : String
  /-- What the help says of it. -/
  description : String
  /-- What it takes. -/
  kind : FlagKind
  /-- The letter of the short spelling. -/
  short : Option Char := none
  /-- The other long spellings. -/
  aliases : List String := []
  /-- The value that holds when none is given. -/
  default : Option String := none
  /-- Where it is accepted. -/
  scope : FlagScope := .everywhere
  /-- What the help calls its value. -/
  valueName : Option String := none
  /-- Whether the help leaves it out. -/
  hidden : Bool := false
deriving DecidableEq, Repr

namespace Flag

/-- A flag that is on or off, accepted everywhere. -/
def switch (name description : String) : Flag where
  name := name
  description := description
  kind := .switch

/-- A flag with a value, accepted everywhere. -/
def value (name description : String) : Flag where
  name := name
  description := description
  kind := .value

/-- The same flag on one command only. -/
def forCommand (f : Flag) (command : String) : Flag :=
  { f with scope := .command command }

/-- The same flag with a default value. -/
def withDefault (f : Flag) (text : String) : Flag :=
  { f with default := some text }

/-- The same flag with a name for its value. -/
def withValueName (f : Flag) (name : String) : Flag :=
  { f with valueName := some name }

/-- A flag is global when it is accepted everywhere. -/
def IsGlobal (f : Flag) : Prop :=
  f.scope = .everywhere

instance (f : Flag) : Decidable f.IsGlobal :=
  inferInstanceAs (Decidable (_ = _))

/-- The long spellings, the name first. -/
def longNames (f : Flag) : List String :=
  f.name :: f.aliases

@[simp] theorem name_mem_longNames (f : Flag) : f.name ∈ f.longNames := by
  simp [longNames]

/-- Two flags collide when their scopes overlap and they share a spelling. -/
def Collides (f g : Flag) : Prop :=
  f.scope.Overlaps g.scope ∧
    ((f.short ≠ none ∧ f.short = g.short) ∨ ∃ name ∈ f.longNames, name ∈ g.longNames)

instance (f g : Flag) : Decidable (f.Collides g) :=
  inferInstanceAs (Decidable (_ ∧ _))

theorem Collides.symm {f g : Flag} (h : f.Collides g) : g.Collides f := by
  obtain ⟨hscope, ⟨hne, heq⟩ | ⟨name, hf, hg⟩⟩ := h
  · exact ⟨hscope.symm, .inl ⟨heq ▸ hne, heq.symm⟩⟩
  · exact ⟨hscope.symm, .inr ⟨name, hg, hf⟩⟩

/-- A flag is reserved when it takes a spelling of the built-in help flag. -/
def IsReserved (f : Flag) : Prop :=
  "help" ∈ f.longNames ∨ f.short = some 'h'

instance (f : Flag) : Decidable f.IsReserved :=
  inferInstanceAs (Decidable (_ ∨ _))

/-- The built-in help flag. -/
def help : Flag :=
  { switch "help" "show help" with short := some 'h' }

/-! ## Help -/

/-- What the help calls the value of a flag, if the flag takes one. -/
def placeholder? (f : Flag) : Option String :=
  match f.kind with
  | .switch => none
  | .value => some (f.valueName.getD "value")

/-- All spellings, each with the placeholder of the value. -/
def synopsis (f : Flag) : String :=
  let tail := (f.placeholder?.map (" " ++ ·)).getD ""
  let long := f.longNames.map fun name => "--" ++ name ++ tail
  let short := f.short.toList.map fun c => "-" ++ String.singleton c ++ tail
  ", ".intercalate (long ++ short)

/-- The description, with the default value if there is one. -/
def helpLine (f : Flag) : String :=
  match f.default with
  | some text => f.description ++ " (default: \"" ++ text ++ "\")"
  | none => f.description

/-- The name as error messages show it. -/
def signature (f : Flag) : String :=
  match f.placeholder? with
  | some name => "--" ++ f.name ++ " <" ++ name ++ ">"
  | none => "--" ++ f.name

end Flag

end CommandFront
