import CommandFront.ErrorChain

/-!
# Who runs the program

- `Identity`: a user. A user without an id is never elevated.
- `Identity.lookUp`: finds the user of an id in the user database.
-/

namespace CommandFront

/-- The user who runs the program. -/
structure Identity where
  /-- The name. -/
  name : String
  /-- The id, where there are ids. -/
  uid : Option Nat
  /-- The home directory. -/
  home : Option String := none
deriving DecidableEq, Repr

namespace Identity

/-- A user who may do everything. -/
def IsElevated (user : Identity) : Prop :=
  user.uid = some 0

instance (user : Identity) : Decidable user.IsElevated :=
  inferInstanceAs (Decidable (_ = _))

/-- The user of an id, from a database of users. -/
def lookUp (users : List Identity) (uid : Nat) : Except ErrorChain Identity :=
  match users.find? fun user => decide (user.uid = some uid) with
  | some user => .ok user
  | none => .error (.ofMessage ("no user entry for uid " ++ toString uid))

end Identity

end CommandFront
