import CommandFront.Build
import CommandFront.Config.Load
import CommandFront.Services.Output

/-!
# Reports of the services

The services themselves run elsewhere; their commands find the configuration and report it.

- `Service`: a service that the program configures.
- `Service.resolve`: the configuration of a service: what the command line gives, over what the
  file gives, over the defaults.
- `Service.report`: writes the configuration of a service.
- `versionReport`: writes the version of the program and a snapshot of the machine.
-/

namespace CommandFront

/-- A service that the program configures. -/
inductive Service where
  /-- The store of objects. -/
  | server
  /-- The front of stores elsewhere. -/
  | gateway
  /-- The manager of many stores. -/
  | controller
deriving DecidableEq, Repr

/-- The configuration as JSON. -/
def ServerConfig.toJson (c : ServerConfig) : Json :=
  .object
    [("address", .text c.address), ("controller_address", .text c.controllerAddress),
      ("rpc_address", .text c.rpcAddress), ("anonymous", .bool c.anonymous), ("tls", .bool c.tls),
      ("cert_file", Json.ofOption c.certFile), ("key_file", Json.ofOption c.keyFile),
      ("rate_limit", .integer c.rateLimit)]

namespace ServerConfig

/-- A setting for which a text may be given in its place. -/
def orGiven (setting : String) (given : Option String) : String :=
  given.getD setting

/-- A limit for which another one may be given as text in its place. -/
def limitOrGiven (limit : Nat) : Option String → Except ConfigError Nat
  | none => .ok limit
  | some given => (parseCount given).mapError (.rateLimit given)

/-- The configuration with what the command line gives. -/
def overlay (c : ServerConfig) (inv : Invocation) : Except ConfigError ServerConfig := do
  let rateLimit ← limitOrGiven c.rateLimit (inv.explicitValue? "ratelimit")
  return {
    address := orGiven c.address (inv.explicitValue? "address")
    controllerAddress := orGiven c.controllerAddress (inv.explicitValue? "address-controller")
    rpcAddress := orGiven c.rpcAddress (inv.explicitValue? "address-server-rpc")
    anonymous := c.anonymous || inv.switch "anonymous"
    tls := c.tls
    certFile := (inv.explicitValue? "cert").or c.certFile
    keyFile := (inv.explicitValue? "key").or c.keyFile
    rateLimit }

end ServerConfig

namespace Service

/-- The name of the service, which is also that of its command. -/
def name : Service → String
  | server => "server"
  | gateway => "gateway"
  | controller => "controller"

/-- Where the service is reached. -/
def endpoint (s : Service) (c : ServerConfig) : String :=
  match s with
  | server => c.address
  | gateway => c.address
  | controller => c.controllerAddress

/-- The configuration for an invocation. -/
def resolve (around : Surroundings) (inv : Invocation) : Journal ConfigError ServerConfig := do
  let base ← ServerConfig.load around ((inv.value? "config").map OsText.ofString)
  let config ← Journal.ofExcept (base.overlay inv)
  Journal.ofExcept config.finalize

/-- A switch in words. -/
def onOff (b : Bool) : String :=
  if b then "on" else "off"

/-- The configuration of a service on one line. -/
def row (s : Service) (c : ServerConfig) : String :=
  s.name ++ ": endpoint " ++ s.endpoint c ++ " | rate limit " ++ toString c.rateLimit
    ++ " | anonymous " ++ onOff c.anonymous ++ " | tls " ++ onOff c.tls

/-- The configuration of a service as JSON. -/
def toJson (s : Service) (c : ServerConfig) : Json :=
  .object [("service", .text s.name), ("endpoint", .text (s.endpoint c)), ("config", c.toJson)]

/-- The record of a service that has been configured. -/
def configured (s : Service) (c : ServerConfig) : LogRecord where
  level := .info
  target := "strata::commands"
  message := s.name ++ " configured on " ++ s.endpoint c

/-- Writes the configuration of a service. -/
def report (s : Service) (json : Bool) (c : ServerConfig) : Journal ErrorChain Unit := do
  Journal.log (s.configured c)
  Output.printOne json (s.toJson c) (s.row c)

/-- The action of the command of a service. -/
def action (around : Surroundings) (s : Service) : Action := fun inv => do
  let config ← (resolve around inv).mapError ConfigError.chain
  s.report (inv.switch "json") config

end Service

/-- The version of the program and a snapshot of the machine as JSON. -/
def versionJson (build : Build) (snapshot : Snapshot) : Json :=
  .object
    [("version", .text build.version), ("releaseTag", .text build.releaseTag),
      ("commitId", .text build.commitId), ("buildTimestamp", .text build.timestamp),
      ("diagnostics", .object (snapshot.entries.map fun entry => (entry.1, .text entry.2)))]

/-- The lines on the version of the program. -/
def versionLines (build : Build) : List String :=
  ["Version: " ++ build.version, "Release-Tag: " ++ build.releaseTag,
    "Commit-ID: " ++ build.commitId, "Build-Time: " ++ build.timestamp, ""]

/-- Writes the version of the program and a snapshot of the machine. -/
def versionReport (build : Build) : Action := fun inv => do
  let snapshot ← inv.takeSnapshot
  if inv.switch "json" then Output.printJson (versionJson build snapshot)
  else do
    (versionLines build).forM Action.printLine
    Action.print snapshot.sections

end CommandFront
