import CommandFront.Command.Basic
import CommandFront.Flag.Basic
import CommandFront.Services.Report

/-!
# The commands and flags of the program

- `Catalog.commands`, `Catalog.flags`: in the order in which the help shows them.
-/

namespace CommandFront

namespace Catalog

/-- The name of the program. -/
def appName : String :=
  "strata"

/-- One line on what the program is. -/
def appUsage : String :=
  "Strata Cloud Storage"

/-- What the help of the program says beyond that line. -/
def appDescription : String :=
  "This build of Strata uses the XL distributed erasure code backend. XL erasure codes each data "
    ++ "block with 8 data and 8 parity blocks and is designed for immutable objects."

/-- The commands. -/
def commands (build : Build) (around : Surroundings) : List (Command Action) :=
  [{ name := "server"
     usage := "Start object storage server."
     description := "Serve objects from the local erasure-coded backend on the given address, "
       ++ "with a separate listener for peer RPC."
     action := Service.server.action around },
   { name := "gateway"
     usage := "Start object storage gateway."
     description := "Expose the object API in front of remote storage servers."
     action := Service.gateway.action around },
   { name := "controller"
     usage := "Start management controller."
     description := "Run the controller that manages a fleet of storage servers."
     action := Service.controller.action around },
   { name := "version"
     usage := "Print version."
     action := versionReport build }]

/-- The address that clients connect to. -/
def addressFlag : Flag :=
  (Flag.value "address" "Bind to a specific IP:PORT.").withDefault ":9000"

/-- The limit on requests. -/
def rateLimitFlag : Flag :=
  Flag.value "ratelimit" "Limit for total concurrent requests."
    |>.withValueName "count" |>.withDefault "16"

/-- The flags. -/
def flags : List Flag :=
  [addressFlag.forCommand "server",
   ((Flag.value "address-server-rpc" "Bind the RPC service to a specific IP:PORT.").withDefault
     ":9002").forCommand "server",
   rateLimitFlag.forCommand "server",
   (Flag.switch "anonymous"
     "Make server run in anonymous mode where all client connections are accepted.").forCommand
     "server",
   ((Flag.value "cert" "Provide your domain certificate.").withValueName "path").forCommand
     "server",
   ((Flag.value "key" "Provide your domain private key.").withValueName "path").forCommand
     "server",
   addressFlag.forCommand "gateway",
   rateLimitFlag.forCommand "gateway",
   ((Flag.value "address-controller" "Bind the controller to a specific IP:PORT.").withDefault
     ":9001").forCommand "controller",
   Flag.switch "json" "Enable json formatted output.",
   (Flag.value "config" "Path to a TOML configuration file.").withValueName "path",
   Flag.switch "debug" "Enable debug logging."]

end Catalog

end CommandFront
