import CommandFront.Config.Basic
import CommandFront.Numeric.Shortest
import CommandFront.Text.Quoted

/-!
# Configurations from tables

The decoder goes through the members of the table in their order and changes the defaults one by
one. A mismatch is told with the value that was found and what was expected in its place.

- `ServerConfig.decode`: the configuration of a table. Keys that are not known are passed over; of
  the values that do not suit their keys, the first one is told.
- `ConfigError.chain`: an error in words.
-/

namespace CommandFront

/-- A value as error messages show it. -/
def Toml.outline : Toml → String
  | .text s => "string " ++ Text.quote s
  | .integer n => "integer \x60" ++ toString n ++ "\x60"
  | .real x => "floating point \x60" ++ x.positional ++ "\x60"
  | .bool b => "boolean \x60" ++ toString b ++ "\x60"
  | .moment => "map"
  | .array _ => "sequence"
  | .table .. => "map"
  | .tables _ => "sequence"

/-- The mismatch in words. -/
def Mismatch.message : Mismatch → String
  | type found expected => "invalid type: " ++ found.outline ++ ", expected " ++ expected
  | value found expected => "invalid value: " ++ found.outline ++ ", expected " ++ expected

/-- The error in words. -/
def ConfigError.chain : ConfigError → ErrorChain
  | unreadable path cause => ⟨"failed to read config file " ++ path.lossy, [cause.message]⟩
  | malformed path => ⟨"failed to parse config file " ++ path.lossy, ["syntax"]⟩
  | mismatch path cause => ⟨"failed to parse config file " ++ path.lossy, [cause.message]⟩
  | rateLimit given cause => ⟨"invalid --ratelimit value '" ++ given ++ "'", [cause.message]⟩
  | noRequests => .ofMessage "rate limit must be greater than zero"
  | halfEncrypted =>
    .ofMessage "both a certificate and a key file are required to enable TLS"
  | noPort which given =>
    .ofMessage (which ++ " '" ++ given ++ "' must be in HOST:PORT or :PORT form")

namespace ServerConfig

/-- A text. -/
def decodeText (expected : String) : Toml → Except Mismatch String
  | .text s => .ok s
  | found => .error (.type found expected)

/-- A truth value. -/
def decodeBool : Toml → Except Mismatch Bool
  | .bool b => .ok b
  | found => .error (.type found "a boolean")

/-- A count. -/
def decodeCount : Toml → Except Mismatch Nat
  | .integer n => if 0 ≤ n then .ok n.toNat else .error (.value (.integer n) "usize")
  | found => .error (.type found "usize")

/-- The configuration after one more key. -/
def decodeMember (c : ServerConfig) (member : String × Toml) : Except Mismatch ServerConfig :=
  match member.1 with
  | "address" => (decodeText "a string" member.2).map fun s => { c with address := s }
  | "controller_address" =>
    (decodeText "a string" member.2).map fun s => { c with controllerAddress := s }
  | "rpc_address" => (decodeText "a string" member.2).map fun s => { c with rpcAddress := s }
  | "anonymous" => (decodeBool member.2).map fun b => { c with anonymous := b }
  | "tls" => (decodeBool member.2).map fun b => { c with tls := b }
  | "cert_file" => (decodeText "path string" member.2).map fun s => { c with certFile := some s }
  | "key_file" => (decodeText "path string" member.2).map fun s => { c with keyFile := some s }
  | "rate_limit" => (decodeCount member.2).map fun n => { c with rateLimit := n }
  | _ => .ok c

/-- The configuration of a table. -/
def decode (members : Toml.Members) : Except Mismatch ServerConfig :=
  members.foldlM decodeMember {}

end ServerConfig

end CommandFront
