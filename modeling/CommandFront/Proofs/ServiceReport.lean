import CommandFront.Proofs.Admission
import CommandFront.Proofs.ConfigChecks
import CommandFront.Proofs.Escape
import CommandFront.Proofs.JsonReading
import CommandFront.Services.Catalog

/-!
# What the commands of the services report

A setting comes from three layers: the defaults, the file above them, and above that the flags that
the command line gives. The three commands have different flags, and the code asks for the same
flags in all of them, so it has to be shown that a flag which a command does not have shows nothing
there. The default of a flag is never taken, as only what is given counts.

A report is said in full: the line word for word, and the document as what a reader of JSON makes of
it.

- `ServerConfig.Overlays`: a configuration takes each setting from the command line, else from the
  one below it.
- `Service.flagNames`: the flags that the command of a service has for itself.
- `Service.Takes`: a service takes from the command line what its own flags are given.
- `Service.result_resolve_eq_ok_iff`: which configurations a service comes to.
- `Service.rendering_eq_line`, `Service.read?_rendering`: what a report says in words, and what a
  report in JSON is read as.
- `App.service_reports_what_it_takes`: the command of a service reports the configuration that it
  takes, if that one is in order, and nothing otherwise.
-/

namespace CommandFront

/-! ## Settings from the command line -/

namespace ServerConfig

/-- A count is the one that is given, if one is, else the one below it. -/
def TakesCount (given : Option String) (below n : Nat) : Prop :=
  match given with
  | none => n = below
  | some text => IsCount text n

/-- A configuration takes the settings that are given under the names of some flags, and the others
from the one below it. It is encrypted when both files for it are named. -/
structure Overlays (given : String → Option String) (isOn : String → Bool)
    (base c : ServerConfig) : Prop where
  address : c.address = (given "address").getD base.address
  controllerAddress : c.controllerAddress = (given "address-controller").getD base.controllerAddress
  rpcAddress : c.rpcAddress = (given "address-server-rpc").getD base.rpcAddress
  anonymous : c.anonymous = (base.anonymous || isOn "anonymous")
  tls : c.tls = (c.certFile.isSome && c.keyFile.isSome)
  certFile : c.certFile = (given "cert").or base.certFile
  keyFile : c.keyFile = (given "key").or base.keyFile
  rateLimit : TakesCount (given "ratelimit") base.rateLimit c.rateLimit

variable {base c : ServerConfig} {inv : Invocation}

/-- The limit on requests is the one given, if it is a count, else the one below. -/
theorem limitOrGiven_eq_ok_iff {below n : Nat} {given : Option String} :
    limitOrGiven below given = .ok n ↔ TakesCount given below n := by
  cases given with
  | none =>
    constructor
    · rintro ⟨⟩
      rfl
    · rintro rfl
      rfl
  | some text =>
    show (parseCount text).mapError _ = _ ↔ IsCount text n
    rw [mapError_eq_ok_iff, parseCount_eq_ok_iff]

/-- The encryption is decided on later; until then it is that of the configuration below. -/
theorem overlay_eq_ok_iff :
    base.overlay inv = .ok c
      ↔ c.tls = base.tls ∧ Overlays inv.explicitValue? inv.switch base c.withEncryption := by
  rw [overlay, bind_eq_ok_iff]
  constructor
  · rintro ⟨n, hcount, ⟨⟩⟩
    exact ⟨rfl, rfl, rfl, rfl, rfl, rfl, rfl, rfl, limitOrGiven_eq_ok_iff.mp hcount⟩
  · rintro ⟨htls, h⟩
    refine ⟨c.rateLimit, limitOrGiven_eq_ok_iff.mpr h.rateLimit, ?_⟩
    obtain ⟨address, controllerAddress, rpcAddress, anonymous, tls, certFile, keyFile, limit⟩ := c
    obtain ⟨rfl, rfl, rfl, rfl, -, rfl, rfl, -⟩ := h
    cases htls
    rfl

/-- A configuration is reached exactly if it takes its settings as it should and is in order. -/
theorem overlay_finalize_eq_ok_iff :
    (base.overlay inv >>= finalize) = .ok c
      ↔ Overlays inv.explicitValue? inv.switch base c ∧ c.Sound := by
  simp only [bind_eq_ok_iff, overlay_eq_ok_iff, finalize_eq_ok_iff]
  constructor
  · rintro ⟨mid, ⟨-, h⟩, rfl, hsound⟩
    exact ⟨h, hsound⟩
  · rintro ⟨h, hsound⟩
    have hencrypted : c = { c with tls := base.tls }.withEncryption := by
      show c = { c with tls := _ }
      rw [← h.tls]
    refine ⟨{ c with tls := base.tls }, ⟨rfl, ?_⟩, hencrypted, hsound⟩
    rw [← hencrypted]
    exact h

end ServerConfig

/-! ## Services -/

namespace Service

/-- The flags that the command of a service has for itself. -/
def flagNames : Service → List String
  | server => ["address", "address-server-rpc", "ratelimit", "anonymous", "cert", "key"]
  | gateway => ["address", "ratelimit"]
  | controller => ["address-controller"]

/-- The flags of a service are those that the catalog has under its name. -/
theorem flagNames_eq (s : Service) :
    s.flagNames
      = (Catalog.flags.filter fun f => decide (f.scope = .command s.name)).map Flag.name := by
  cases s <;> decide

/-- What a flag of the service is given. -/
def given? (s : Service) (inv : Invocation) (name : String) : Option String :=
  if name ∈ s.flagNames then inv.explicitValue? name else none

/-- Whether a switch of the service is on. -/
def isOn (s : Service) (inv : Invocation) (name : String) : Bool :=
  decide (name ∈ s.flagNames) && inv.switch name

/-- A service takes from the command line what its own flags are given. -/
def Takes (s : Service) (inv : Invocation) (base c : ServerConfig) : Prop :=
  base.Overlays (s.given? inv) (s.isOn inv) c

variable {s : Service} {build : Build} {around : Surroundings} {inv : Invocation}
  {c : ServerConfig}

/-- What a configuration takes depends on the flags of services alone. -/
theorem overlays_of_agree {given given' : String → Option String} {isOn isOn' : String → Bool}
    {base : ServerConfig} (h : base.Overlays given isOn c)
    (hagree : ∀ t : Service, ∀ name ∈ t.flagNames,
      given' name = given name ∧ isOn' name = isOn name) : base.Overlays given' isOn' c where
  address := by
    rw [(hagree server "address" (by decide)).1]
    exact h.address
  controllerAddress := by
    rw [(hagree controller "address-controller" (by decide)).1]
    exact h.controllerAddress
  rpcAddress := by
    rw [(hagree server "address-server-rpc" (by decide)).1]
    exact h.rpcAddress
  anonymous := by
    rw [(hagree server "anonymous" (by decide)).2]
    exact h.anonymous
  tls := h.tls
  certFile := by
    rw [(hagree server "cert" (by decide)).1]
    exact h.certFile
  keyFile := by
    rw [(hagree server "key" (by decide)).1]
    exact h.keyFile
  rateLimit := by
    rw [(hagree server "ratelimit" (by decide)).1]
    exact h.rateLimit

/-- The names of the flags of services are those of no other flag. -/
theorem ne_of_mem_flagNames {name : String} (h : name ∈ s.flagNames) :
    name ≠ "" ∧ name ≠ Flag.help.name ∧ ∀ f ∈ Catalog.flags, f.IsGlobal → f.name ≠ name := by
  have hall : ∀ s : Service, ∀ name ∈ s.flagNames,
      name ≠ "" ∧ name ≠ Flag.help.name ∧ ∀ f ∈ Catalog.flags, f.IsGlobal → f.name ≠ name := by
    intro s
    cases s <;> decide
  exact hall s name h

/-! ## The action of a service -/

theorem silent_loadFile (path : Path) : (ServerConfig.loadFile around path).Silent :=
  (Journal.silent_ofExcept _).bind fun _ =>
    (Journal.silent_log _).bind fun _ => Journal.silent_pure _

/-- Looking for the configuration writes nothing, wherever it is found. -/
theorem silent_load (path : Option Path) : (ServerConfig.load around path).Silent := by
  cases path with
  | some path => exact silent_loadFile path
  | none =>
    unfold ServerConfig.load
    dsimp only
    split
    · exact silent_loadFile around.configPath
    · exact (Journal.silent_log _).bind fun _ => Journal.silent_pure _

/-- Coming to a configuration writes nothing, whether it succeeds or not. -/
theorem silent_resolve : (resolve around inv).Silent :=
  (silent_load _).bind fun _ =>
    (Journal.silent_ofExcept _).bind fun _ => Journal.silent_ofExcept _

/-- A service comes to what its flags make of the configuration that is loaded. -/
theorem result_resolve_eq_ok_iff :
    (resolve around inv).result = .ok c
      ↔ ∃ base, (ServerConfig.load around ((inv.value? "config").map OsText.ofString)).result
          = .ok base
        ∧ base.Overlays inv.explicitValue? inv.switch c ∧ c.Sound := by
  rw [resolve, Journal.result_bind, bind_eq_ok_iff]
  refine exists_congr fun base => and_congr_right fun _ => ?_
  rw [Journal.result_bind]
  exact ServerConfig.overlay_finalize_eq_ok_iff

/-- The configuration of a service in words, or as the result of an action in JSON. -/
def rendering (s : Service) (json : Bool) (c : ServerConfig) : String :=
  if json then (Output.envelope (s.toJson c)).pretty else s.row c

/-- In words, a report is one line. -/
theorem rendering_eq_line (s : Service) (c : ServerConfig) :
    s.rendering false c
      = s.name ++ ": endpoint " ++ s.endpoint c ++ " | rate limit " ++ toString c.rateLimit
        ++ " | anonymous " ++ (if c.anonymous then "on" else "off") ++ " | tls "
        ++ (if c.tls then "on" else "off") := rfl

/-- A service is reached at its address, but the controller has one for itself. -/
theorem endpoint_eq (s : Service) (c : ServerConfig) :
    s.endpoint c = if s = .controller then c.controllerAddress else c.address := by
  cases s <;> rfl

/-- A configuration has no numbers of the format binary64. -/
theorem plain_toJson (s : Service) (c : ServerConfig) : (s.toJson c).Plain := by
  have hconfig : c.toJson.Plain := by
    refine .object _ ?_
    simp only [List.forall_mem_cons]
    exact ⟨.text _, .text _, .text _, .bool _, .bool _, Json.plain_ofOption _,
      Json.plain_ofOption _, .integer _, List.forall_mem_nil _⟩
  refine .object _ ?_
  simp only [List.forall_mem_cons]
  exact ⟨.text _, .text _, hconfig, List.forall_mem_nil _⟩

/-- A report in JSON is read as what it reports. -/
theorem read?_rendering (s : Service) (c : ServerConfig) :
    Json.read? (s.rendering true c) = some (Output.envelope (s.toJson c)) := by
  refine Json.Plain.read?_pretty (.object _ ?_)
  simp only [List.forall_mem_cons]
  exact ⟨.bool true, s.plain_toJson c, List.forall_mem_nil _⟩

/-- A report is one text, and it goes well where that is taken. -/
theorem report_effects (json : Bool) :
    (s.report json c).result = .ok () ∧ (s.report json c).texts = [s.rendering json c ++ "\n"] := by
  cases json <;> exact ⟨rfl, rfl⟩

/-- Where there is a configuration, the action reports it. -/
theorem action_of_ok (h : (resolve around inv).result = .ok c) :
    (s.action around inv).result = .ok ()
      ∧ (s.action around inv).texts = [s.rendering (inv.switch "json") c ++ "\n"] := by
  obtain ⟨hresult, htexts⟩ := report_effects (s := s) (c := c) (inv.switch "json")
  have hok : ((resolve around inv).mapError ConfigError.chain).result = .ok c := by
    rw [Journal.result_mapError, h]
    rfl
  have hsilent : ((resolve around inv).mapError ConfigError.chain).texts = [] :=
    silent_resolve.mapError _
  unfold action
  constructor
  · rw [Journal.result_bind, hok]
    exact hresult
  · rw [Journal.texts_bind_of_ok hok, hsilent]
    exact htexts

/-- Where there is none, the action fails for that and writes nothing. -/
theorem action_of_error {e : ConfigError} (h : (resolve around inv).result = .error e) :
    (s.action around inv).result = .error e.chain ∧ (s.action around inv).texts = [] := by
  have herror : ((resolve around inv).mapError ConfigError.chain).result = .error e.chain := by
    rw [Journal.result_mapError, h]
    rfl
  have hsilent : ((resolve around inv).mapError ConfigError.chain).texts = [] :=
    silent_resolve.mapError _
  unfold action
  constructor
  · rw [Journal.result_bind, herror]
    rfl
  · rw [Journal.texts_bind_of_error herror, hsilent]

end Service

/-! ## The commands of services -/

namespace Catalog

/-- Each service has a command in the catalog. -/
theorem exists_command (build : Build) (around : Surroundings) (s : Service) :
    ∃ command ∈ commands build around,
      command.name = s.name ∧ command.action = s.action around := by
  cases s <;> simp [commands, Service.name]

/-- The location of the configuration is given on the command line or not at all. -/
theorem exists_config :
    ∃ f ∈ flags, f.name = "config" ∧ f.kind = .value ∧ f.default = none ∧ f.IsGlobal := by
  decide

end Catalog

namespace App

variable {app : App} {args : List OsText} {command : Command Action} {inv : Invocation}

/-- A command line that runs an action writes what the action writes and ends as it ends. -/
theorem Dispatches.effects (h : app.Dispatches args command inv) :
    (app.run args).texts = (command.action inv).texts
      ∧ (app.run args).result = (command.action inv).result.mapError .action := by
  rw [h.run_eq]
  exact ⟨Journal.texts_mapError _ _, Journal.result_mapError _ _⟩

section Catalog

variable {build : Build} {around : Surroundings} {s : Service}
  (hregistry : (Registry.registerAll (Catalog.commands build around) Catalog.flags).result
    = .ok app.registry)
  (hrun : app.Dispatches args command inv) (hname : command.name = s.name)

include hregistry

/-- The application has the commands of the catalog and no others. -/
theorem commands_eq_of_registerAll :
    app.registry.commands.commands = Catalog.commands build around := by
  obtain ⟨-, heq⟩ := Registry.result_registerAll_eq_ok_iff.mp hregistry
  rw [heq, Registry.commands_ofLists]

theorem flags_eq_of_registerAll : app.registry.flags.flags = Catalog.flags := by
  obtain ⟨-, heq⟩ := Registry.result_registerAll_eq_ok_iff.mp hregistry
  rw [heq]
  rfl

include hrun

/-- The location of the configuration has no default. -/
theorem Dispatches.value?_config : inv.value? "config" = inv.explicitValue? "config" := by
  have h := Registry.reachable_of_registerAll hregistry
  obtain ⟨f, hf, hconfig, hkind, hdefault, hglobal⟩ := Catalog.exists_config
  have hroot : f ∈ app.registry.rootLevel := by
    refine Registry.mem_rootLevel_iff.mpr (.inr ⟨?_, hglobal⟩)
    rw [flags_eq_of_registerAll hregistry]
    exact hf
  obtain ⟨content, hholds, hsuits⟩ := hrun.holds_of_mem_rootLevel h hroot
  have hvalue := hholds.value?_eq_of_value hsuits hkind
  rw [hdefault, Option.or_none, ← hholds.explicitValue?_eq, hconfig] at hvalue
  exact hvalue

include hname

/-- The command that runs under the name of a service has its action. -/
theorem Dispatches.action_eq : command.action = s.action around := by
  have h := Registry.reachable_of_registerAll hregistry
  obtain ⟨service, hmem, hservice, haction⟩ := Catalog.exists_command build around s
  have hget := hrun.get?_eq h
  rw [hname] at hget
  -- no other command is registered under the name
  have hsame : app.registry.commands.get? s.name = some service := by
    refine h.consistent.get?_eq_some_iff.mpr ⟨?_, hservice⟩
    rw [commands_eq_of_registerAll hregistry]
    exact hmem
  obtain rfl : service = command := Option.some.inj (hsame.symm.trans hget)
  exact haction

/-- A flag that is another service's shows nothing. -/
theorem Dispatches.shows_nothing_of_foreign {t : Service} {name : String} (h : name ∈ t.flagNames)
    (hforeign : name ∉ s.flagNames) :
    inv.explicitValue? name = none ∧ inv.switch name = false := by
  obtain ⟨hne, hhelp, hglobal⟩ := Service.ne_of_mem_flagNames h
  have hlevel : ∀ f ∈ app.registry.commandLevel command.name, f.name ≠ name := by
    intro f hf
    rcases Registry.mem_commandLevel_iff.mp hf with rfl | ⟨hmem, hvisible⟩
    · exact hhelp.symm
    rw [flags_eq_of_registerAll hregistry] at hmem
    rcases hvisible with hall | hscope
    · exact hglobal f hmem hall
    · rintro rfl
      rw [hname] at hscope
      rw [Service.flagNames_eq] at hforeign
      refine hforeign (List.mem_map_of_mem (List.mem_filter.mpr ⟨hmem, ?_⟩))
      exact decide_eq_true hscope
  have hnothing := hrun.shows_nothing (Registry.reachable_of_registerAll hregistry) hne hlevel
  exact ⟨hnothing.2.1, hnothing.2.2⟩

/-- The action asks for the flags of all services, and those of other services are not given. -/
theorem Dispatches.given?_eq {t : Service} {name : String} (h : name ∈ t.flagNames) :
    s.given? inv name = inv.explicitValue? name ∧ s.isOn inv name = inv.switch name := by
  unfold Service.given? Service.isOn
  by_cases hown : name ∈ s.flagNames
  · simp [hown]
  · obtain ⟨hvalue, hswitch⟩ := hrun.shows_nothing_of_foreign hregistry hname h hown
    simp [hown, hvalue, hswitch]

/-- What the action looks up is what its own flags are given. -/
theorem Dispatches.takes_iff {base c : ServerConfig} :
    s.Takes inv base c ↔ base.Overlays inv.explicitValue? inv.switch c := by
  have hagree : ∀ t : Service, ∀ name ∈ t.flagNames,
      s.given? inv name = inv.explicitValue? name ∧ s.isOn inv name = inv.switch name :=
    fun _ _ h => hrun.given?_eq hregistry hname h
  constructor
  · intro htakes
    exact Service.overlays_of_agree htakes fun t name h =>
      ⟨(hagree t name h).1.symm, (hagree t name h).2.symm⟩
  · intro hoverlays
    exact Service.overlays_of_agree hoverlays hagree

/-- The configuration that the action comes to, by what the command line gives. -/
theorem Dispatches.resolve_eq_ok_iff {c : ServerConfig} :
    (Service.resolve around inv).result = .ok c
      ↔ ∃ base, (ServerConfig.load around
            ((inv.explicitValue? "config").map OsText.ofString)).result = .ok base
          ∧ s.Takes inv base c ∧ c.Sound := by
  rw [Service.result_resolve_eq_ok_iff, hrun.value?_config hregistry]
  simp only [hrun.takes_iff hregistry hname]

section Delivery

variable {sink : Sink} (hsink : sink.capacity = none)

include hsink

/-- The run of a service that comes to a configuration succeeds and writes its report. -/
theorem Dispatches.deliver_of_resolve_eq_ok {c : ServerConfig}
    (h : (Service.resolve around inv).result = .ok c) :
    ((app.run args).deliver sink).result = .ok ()
      ∧ ((app.run args).deliver sink).written
        = Journal.encode (s.rendering (inv.switch "json") c ++ "\n") := by
  obtain ⟨hwritten, -, hresult⟩ := Journal.deliver_of_unlimited hsink (app.run args)
  obtain ⟨htexts, hended⟩ := hrun.effects
  obtain ⟨hdone, hreport⟩ := Service.action_of_ok (s := s) h
  rw [hrun.action_eq hregistry hname] at htexts hended
  rw [hresult, hended, hdone, hwritten, htexts, hreport]
  exact ⟨rfl, List.flatMap_singleton _ _⟩

/-- The run of a service that comes to none fails and writes nothing. -/
theorem Dispatches.deliver_of_resolve_eq_error {e : ConfigError}
    (h : (Service.resolve around inv).result = .error e) :
    ((app.run args).deliver sink).result = .error (.action e.chain)
      ∧ ((app.run args).deliver sink).written = [] := by
  obtain ⟨hwritten, -, hresult⟩ := Journal.deliver_of_unlimited hsink (app.run args)
  obtain ⟨htexts, hended⟩ := hrun.effects
  obtain ⟨hfailed, hsilent⟩ := Service.action_of_error (s := s) h
  rw [hrun.action_eq hregistry hname] at htexts hended
  rw [hresult, hended, hfailed, hwritten, htexts, hsilent]
  exact ⟨rfl, rfl⟩

end Delivery

end Catalog

end App

/-- Whatever files there are, and on whichever command line that runs the command of a service: let
the configuration below be the one in the file that `--config` gives, else the one at the default
place, else the defaults. The run succeeds exactly if there is one, the service takes a
configuration over it, and that one is in order: requests are let in, of the two files for
encryption both or neither are named, and each address has a port. Then the configuration is
reported, with the address where the service is reached: on one line, or as a document in JSON that
holds all of it. Otherwise the action fails and nothing is written. -/
theorem App.service_reports_what_it_takes {app : App} {build : Build} {around : Surroundings}
    (hregistry : (Registry.registerAll (Catalog.commands build around) Catalog.flags).result
      = .ok app.registry)
    {args : List OsText} {command : Command Action} {inv : Invocation}
    (hrun : app.Dispatches args command inv) {s : Service} (hname : command.name = s.name)
    {sink : Sink} (hsink : sink.capacity = none) :
    let path := (inv.explicitValue? "config").map OsText.ofString
    let loaded := (ServerConfig.load around path).result
    let delivery := (app.run args).deliver sink
    (delivery.result = .ok () ↔ ∃ base c, loaded = .ok base ∧ s.Takes inv base c ∧ c.Sound)
      ∧ (∀ base c, loaded = .ok base → s.Takes inv base c → c.Sound →
        let endpoint := if s = .controller then c.controllerAddress else c.address
        (inv.switch "json" = false →
          delivery.written = Journal.encode (s.name ++ ": endpoint " ++ endpoint
            ++ " | rate limit " ++ toString c.rateLimit ++ " | anonymous "
            ++ (if c.anonymous then "on" else "off") ++ " | tls " ++ (if c.tls then "on" else "off")
            ++ "\n"))
        ∧ (inv.switch "json" = true →
          ∃ document, delivery.written = Journal.encode (document ++ "\n")
            ∧ Json.read? document = some (.object
              [("ok", .bool true),
                ("data", .object
                  [("service", .text s.name), ("endpoint", .text endpoint),
                    ("config", .object
                      [("address", .text c.address),
                        ("controller_address", .text c.controllerAddress),
                        ("rpc_address", .text c.rpcAddress), ("anonymous", .bool c.anonymous),
                        ("tls", .bool c.tls), ("cert_file", c.certFile.elim .null .text),
                        ("key_file", c.keyFile.elim .null .text),
                        ("rate_limit", .integer c.rateLimit)])])])))
      ∧ ∀ e, delivery.result = .error e →
        (∃ chain, e = .action chain) ∧ delivery.written = [] := by
  intro path loaded delivery
  have hresolve : ∀ c, (Service.resolve around inv).result = .ok c
      ↔ ∃ base, loaded = .ok base ∧ s.Takes inv base c ∧ c.Sound :=
    fun c => hrun.resolve_eq_ok_iff hregistry hname
  cases hconfig : (Service.resolve around inv).result with
  | error e =>
    obtain ⟨hfailed, hempty⟩ := hrun.deliver_of_resolve_eq_error hregistry hname hsink hconfig
    have hnone : ∀ base c, loaded = .ok base → s.Takes inv base c → ¬c.Sound := by
      intro base c hbase htakes hsound
      have hok := (hresolve c).mpr ⟨base, hbase, htakes, hsound⟩
      rw [hconfig] at hok
      cases hok
    refine ⟨?_, ?_, ?_⟩
    · constructor
      · intro hok
        rw [hfailed] at hok
        cases hok
      · rintro ⟨base, c, hbase, htakes, hsound⟩
        exact absurd hsound (hnone base c hbase htakes)
    · exact fun base c hbase htakes hsound => absurd hsound (hnone base c hbase htakes)
    · intro found hfound
      rw [hfailed] at hfound
      cases hfound
      exact ⟨⟨_, rfl⟩, hempty⟩
  | ok config =>
    obtain ⟨hdone, hwritten⟩ := hrun.deliver_of_resolve_eq_ok hregistry hname hsink hconfig
    obtain ⟨base, hbase, htakes, hsound⟩ := (hresolve config).mp hconfig
    refine ⟨?_, ?_, ?_⟩
    · exact ⟨fun _ => ⟨base, config, hbase, htakes, hsound⟩, fun _ => hdone⟩
    · intro base' c hbase' htakes' hsound' endpoint
      have hok := (hresolve c).mpr ⟨base', hbase', htakes', hsound'⟩
      obtain rfl : config = c := Except.ok.inj (hconfig.symm.trans hok)
      have hendpoint : s.endpoint config = endpoint := s.endpoint_eq config
      constructor
      · intro hjson
        rw [hwritten, hjson, Service.rendering_eq_line, hendpoint]
      · intro hjson
        refine ⟨s.rendering true config, ?_, ?_⟩
        · rw [hwritten, hjson]
        · rw [Service.read?_rendering, Service.toJson, hendpoint, ServerConfig.toJson]
          simp only [Json.ofOption_eq_elim]
          rfl
    · intro e hfailed
      rw [hdone] at hfailed
      cases hfailed

namespace Sample

/-- One file, in which two settings are made. -/
def configured : Surroundings where
  read path :=
    if path = OsText.ofString "a.toml" then .ok "address = \":7000\"\nrate_limit = 4\n"
    else .error .notFound

/-- An application of the commands and the flags of the program. -/
def services : App :=
  App.ofRegistry "strata" "1.0.0"
    (Registry.ofLists (Catalog.commands {} configured) Catalog.flags) app.readings

/-- A command line with one of the settings and another one. -/
def serverArgs : List OsText :=
  ["strata", "--config", "a.toml", "server", "--address", ":7100", "--anonymous"].map
    OsText.ofString

/-- The address that is given beats the one in the file. The limit in the file is kept, although the
flag for it has a default. -/
theorem server_reports_flags_over_file :
    ∃ command inv, services.Dispatches serverArgs command inv ∧ command.name = Service.server.name
      ∧ ((services.run serverArgs).deliver {}).result = .ok ()
      ∧ ((services.run serverArgs).deliver {}).written
        = Journal.encode "server: endpoint :7100 | rate limit 4 | anonymous on | tls off\n" := by
  have hregistry : (Registry.registerAll (Catalog.commands {} configured) Catalog.flags).result
      = .ok services.registry := Registry.result_registerAll_eq_ok_iff.mpr ⟨by decide, rfl⟩
  obtain ⟨command, inv, hrun, hname, hshown⟩ : ∃ command inv,
      services.Dispatches serverArgs command inv ∧ command.name = Service.server.name
        ∧ inv.explicitValue? "config" = some "a.toml" ∧ inv.switch "json" = false
        ∧ ServerConfig.Overlays (Service.server.given? inv) (Service.server.isOn inv)
          { address := ":7000", rateLimit := 4 }
          { address := ":7100", anonymous := true, rateLimit := 4 } :=
    ⟨_, _, ⟨_, _, _, rfl, rfl, rfl⟩, rfl, rfl, rfl, ⟨rfl, rfl, rfl, rfl, rfl, rfl, rfl, rfl⟩⟩
  obtain ⟨hconfig, hjson, htakes⟩ := hshown
  have hloaded : (ServerConfig.load configured ((some "a.toml").map OsText.ofString)).result
      = .ok { address := ":7000", rateLimit := 4 } := by rfl
  obtain ⟨hok, hwritten, -⟩ := App.service_reports_what_it_takes hregistry hrun hname
    (rfl : ({} : Sink).capacity = none)
  rw [hconfig] at hok hwritten
  refine ⟨command, inv, hrun, hname, hok.mpr ⟨_, _, hloaded, htakes, by decide⟩, ?_⟩
  rw [(hwritten _ _ hloaded htakes (by decide)).1 hjson]
  exact congrArg Journal.encode (by decide)

end Sample

end CommandFront
