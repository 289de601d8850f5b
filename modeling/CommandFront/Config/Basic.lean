import CommandFront.ErrorChain
import CommandFront.FileSystem
import CommandFront.Toml.Basic

/-!
# The configuration of a server

A setting has a default, and a file or the command line may make it. Whether the server is encrypted
is no setting of that kind: it follows from the two files for it, whatever the configuration says.
The invariants are checked in a fixed order, and the first one that is broken is told.

- `ServerConfig`: the settings, with their defaults.
- `ServerConfig.fault?`: the first invariant that a configuration breaks.
- `ServerConfig.finalize`: turns encryption on when both files for it are named, and checks the
  invariants.
- `ConfigError`: everything that can be wrong with a configuration, with its wording.
-/

namespace CommandFront

/-- The settings of a server. -/
structure ServerConfig where
  /-- Where clients connect. -/
  address : String := ":9000"
  /-- Where the controller listens. -/
  controllerAddress : String := ":9001"
  /-- Where peers connect. -/
  rpcAddress : String := ":9002"
  /-- Whether clients need no credentials. -/
  anonymous : Bool := false
  /-- Whether connections are encrypted. -/
  tls : Bool := false
  /-- The file of the certificate. -/
  certFile : Option String := none
  /-- The file of the private key. -/
  keyFile : Option String := none
  /-- How many requests are served at once. -/
  rateLimit : Nat := 16
deriving DecidableEq, Repr

/-- What is wrong with a count that is given as text. -/
inductive CountFault where
  /-- There are no digits. -/
  | empty
  /-- Something is no digit. -/
  | invalidDigit
  /-- The count does not fit into a machine word. -/
  | tooLarge
deriving DecidableEq, Repr

/-- The fault in words. -/
def CountFault.message : CountFault → String
  | empty => "cannot parse integer from empty string"
  | invalidDigit => "invalid digit found in string"
  | tooLarge => "number too large to fit in target type"

/-- A value that does not suit its key. -/
inductive Mismatch where
  /-- The value is of another type. -/
  | type (found : Toml) (expected : String)
  /-- The value is of the right type, but out of range. -/
  | value (found : Toml) (expected : String)

/-- Everything that can be wrong with a configuration. -/
inductive ConfigError where
  /-- The file cannot be read. -/
  | unreadable (path : Path) (cause : FileError)
  /-- The file breaks the grammar. -/
  | malformed (path : Path)
  /-- A value in the file does not suit its key. -/
  | mismatch (path : Path) (cause : Mismatch)
  /-- The limit on the command line is no count. -/
  | rateLimit (given : String) (cause : CountFault)
  /-- No request could be served. -/
  | noRequests
  /-- One of the two files for encryption is missing. -/
  | halfEncrypted
  /-- An address is not of the form `HOST:PORT`. -/
  | noPort (which given : String)

namespace ServerConfig

/-- An address counts as of the form `HOST:PORT` when it holds a colon. -/
def HasPort (address : String) : Prop :=
  ':' ∈ address.toList

instance (address : String) : Decidable (HasPort address) :=
  inferInstanceAs (Decidable (_ ∈ _))

/-- The addresses with their names. -/
def addresses (c : ServerConfig) : List (String × String) :=
  [("address", c.address), ("controller address", c.controllerAddress),
    ("rpc address", c.rpcAddress)]

/-- The first invariant that is broken. -/
def fault? (c : ServerConfig) : Option ConfigError :=
  if c.rateLimit = 0 then some .noRequests
  else if c.certFile.isSome ≠ c.keyFile.isSome then some .halfEncrypted
  else
    (c.addresses.find? fun entry => decide (¬HasPort entry.2)).map fun entry =>
      .noPort entry.1 entry.2

/-- Checks the invariants. -/
def validate (c : ServerConfig) : Except ConfigError Unit :=
  match c.fault? with
  | some e => .error e
  | none => .ok ()

/-- The same settings, encrypted when both files for it are named. -/
def withEncryption (c : ServerConfig) : ServerConfig :=
  { c with tls := c.certFile.isSome && c.keyFile.isSome }

/-- Decides on encryption and checks the invariants. -/
def finalize (c : ServerConfig) : Except ConfigError ServerConfig := do
  c.withEncryption.validate
  return c.withEncryption

/-! ## Counts -/

/-- Reads the digits of a count after those whose value is known. -/
def readCount (value : Nat) : List Char → Except CountFault Nat
  | [] => .ok value
  | c :: rest =>
    if ¬c.isDigit then .error .invalidDigit
    else
      let next := 10 * value + (c.toNat - '0'.toNat)
      if next < Nat.pow 2 64 then readCount next rest else .error .tooLarge

/-- Reads a count, which may have a plus before it. -/
def parseCount (s : String) : Except CountFault Nat :=
  match s.toList with
  | [] => .error .empty
  | ['+'] => .error .invalidDigit
  | '+' :: digits => readCount 0 digits
  | digits => readCount 0 digits

end ServerConfig

end CommandFront
