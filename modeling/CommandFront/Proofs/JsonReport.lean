import CommandFront.Proofs.LeadingSwitch
import CommandFront.Proofs.ServiceReport

/-!
# Reports in JSON

The switch for JSON changes how the configuration of a service is reported, and nothing else.

The switch is put in front of a command line that does not have it. By what is known of a switch in
front, the same command runs and its action sees the same under all other names. What the
configuration is made of is looked up by name, and none of these names is that of the switch. So the
two runs come to one configuration or fail alike, and what is left to compare are the two ways to
write it.

- `Service.resolve_congr`: the configuration depends on no other flag than those it is made of.
- `App.json_changes_rendering_alone`: the same command line with the switch and without it.
-/

namespace CommandFront

namespace Service

/-- The configuration does not depend on the switch for JSON. -/
theorem resolve_congr {inv inv' : Invocation} (h : ∀ name, name ≠ "json" →
    inv'.root name = inv.root name ∧ inv'.own name = inv.own name) (around : Surroundings) :
    resolve around inv' = resolve around inv := by
  have hvalue : inv'.value? "config" = inv.value? "config" :=
    (Invocation.lookups_congr (h _ (by decide))).1
  have hexplicit : ∀ name, name ≠ "json" → inv'.explicitValue? name = inv.explicitValue? name :=
    fun name hname => (Invocation.lookups_congr (h name hname)).2.1
  have hswitch : inv'.switch "anonymous" = inv.switch "anonymous" :=
    (Invocation.lookups_congr (h _ (by decide))).2.2
  have hoverlay : ∀ base : ServerConfig, base.overlay inv' = base.overlay inv := by
    intro base
    unfold ServerConfig.overlay
    rw [hswitch, hexplicit "ratelimit" (by decide), hexplicit "address" (by decide),
      hexplicit "address-controller" (by decide), hexplicit "address-server-rpc" (by decide),
      hexplicit "cert" (by decide), hexplicit "key" (by decide)]
  unfold resolve
  simp only [hvalue, hoverlay]

end Service

namespace Catalog

/-- The switch for JSON. -/
def jsonSwitch : Flag :=
  Flag.switch "json" "Enable json formatted output."

theorem names_head? (build : Build) (around : Surroundings) :
    ∀ command ∈ commands build around, command.name.toList.head? ≠ some '-' := by
  simp only [commands, List.forall_mem_cons]
  decide

end Catalog

namespace App

variable {app : App} {build : Build} {around : Surroundings}
  (hregistry : (Registry.registerAll (Catalog.commands build around) Catalog.flags).result
    = .ok app.registry)

include hregistry

theorem plainSwitch_json : app.registry.PlainSwitch Catalog.jsonSwitch where
  mem := by
    rw [Registry.mem_rootLevel_iff, flags_eq_of_registerAll hregistry]
    exact .inr (by decide)
  kind := rfl
  short := rfl
  aliases := rfl
  no_equals := by decide

/-- For the commands and flags of the program and whatever files there are: let a command line
without the switch for JSON run the command of a service. The same command line with the switch
right after the name of the program runs the same action with the same configuration. The two runs
fail with the same error and write nothing, or both succeed. Then the first one writes the
configuration on one line, and the other one a JSON document and a line break. Read, the document is
the service, where it is reached and the whole configuration, whatever texts there are in it. -/
theorem json_changes_rendering_alone {program : OsText} {rest : List OsText}
    (hnew : .ofString "--json" ∉ CommandLine.front rest) {command : Command Action}
    {inv : Invocation} (hrun : app.Dispatches (program :: rest) command inv) {s : Service}
    (hname : command.name = s.name) {sink : Sink} (hsink : sink.capacity = none) :
    let plain := (app.run (program :: rest)).deliver sink
    let json := (app.run (program :: .ofString "--json" :: rest)).deliver sink
    ∃ inv', app.Dispatches (program :: .ofString "--json" :: rest) command inv'
      ∧ command.action = s.action around
      ∧ Service.resolve around inv' = Service.resolve around inv
      ∧ ((∃ chain, plain.result = .error (.action chain) ∧ json.result = .error (.action chain)
          ∧ plain.written = [] ∧ json.written = [])
        ∨ ∃ c, (Service.resolve around inv).result = .ok c
          ∧ plain.result = .ok () ∧ json.result = .ok ()
          ∧ plain.written = Journal.encode (s.name ++ ": endpoint " ++ s.endpoint c
            ++ " | rate limit " ++ toString c.rateLimit ++ " | anonymous "
            ++ (if c.anonymous then "on" else "off") ++ " | tls " ++ (if c.tls then "on" else "off")
            ++ "\n")
          ∧ ∃ document, json.written = Journal.encode (document ++ "\n")
            ∧ Json.read? document = some (.object
              [("ok", .bool true),
                ("data", .object
                  [("service", .text s.name), ("endpoint", .text (s.endpoint c)),
                    ("config", .object
                      [("address", .text c.address),
                        ("controller_address", .text c.controllerAddress),
                        ("rpc_address", .text c.rpcAddress), ("anonymous", .bool c.anonymous),
                        ("tls", .bool c.tls), ("cert_file", .ofOption c.certFile),
                        ("key_file", .ofOption c.keyFile),
                        ("rate_limit", .integer c.rateLimit)])])])) := by
  intro plain json
  have h := Registry.reachable_of_registerAll hregistry
  have hnames : ∀ name ∈ app.registry.commands.names, name.toList.head? ≠ some '-' := by
    intro name hmem
    obtain ⟨c, hc, rfl⟩ := List.mem_map.mp hmem
    rw [commands_eq_of_registerAll hregistry] at hc
    exact Catalog.names_head? build around c hc
  have hjson := plainSwitch_json hregistry
  have hspelling : OsText.ofString "--json" = (Phrase.ofName Catalog.jsonSwitch).word := by decide
  rw [hspelling] at hnew
  have hoff : inv.switch "json" = false :=
    Bool.eq_false_iff.mpr (mt (hrun.switch_iff_word_mem h hnames hjson).mp hnew)
  obtain ⟨inv', hled, hon, hsame⟩ := hrun.exists_leadBy h hnames hjson (by decide) hnew
  rw [← hspelling] at hled
  have hresolve := Service.resolve_congr hsame around
  refine ⟨inv', hled, hrun.action_eq hregistry hname, hresolve, ?_⟩
  cases hconfig : (Service.resolve around inv).result with
  | error e =>
    have hconfig' : (Service.resolve around inv').result = .error e := by rw [hresolve, hconfig]
    obtain ⟨hplain, hempty⟩ := hrun.deliver_of_resolve_eq_error hregistry hname hsink hconfig
    obtain ⟨hjson, hempty'⟩ := hled.deliver_of_resolve_eq_error hregistry hname hsink hconfig'
    exact .inl ⟨e.chain, hplain, hjson, hempty, hempty'⟩
  | ok c =>
    have hconfig' : (Service.resolve around inv').result = .ok c := by rw [hresolve, hconfig]
    obtain ⟨hplain, hrow⟩ := hrun.deliver_of_resolve_eq_ok hregistry hname hsink hconfig
    obtain ⟨hjson, hdocument⟩ := hled.deliver_of_resolve_eq_ok hregistry hname hsink hconfig'
    have hon' : inv'.switch "json" = true := hon
    rw [hoff] at hrow
    rw [hon'] at hdocument
    exact .inr ⟨c, rfl, hplain, hjson, hrow, _, hdocument, s.read?_rendering c⟩

end App

namespace Sample

/-- A command line with a quote and a line break in a value. -/
def certArgs : List OsText :=
  ["--config", "a.toml", "server", "--cert", "c\"\n.pem", "--key", "k.pem"].map OsText.ofString

/-- With the switch in front, the value is read as it was given. -/
theorem server_reports_json :
    ∃ document,
      ((services.run (.ofString "strata" :: .ofString "--json" :: certArgs)).deliver {}).written
        = Journal.encode (document ++ "\n")
      ∧ Json.read? document = some (.object
        [("ok", .bool true),
          ("data", .object
            [("service", .text "server"), ("endpoint", .text ":7000"),
              ("config", .object
                [("address", .text ":7000"), ("controller_address", .text ":9001"),
                  ("rpc_address", .text ":9002"), ("anonymous", .bool false), ("tls", .bool true),
                  ("cert_file", .text "c\"\n.pem"), ("key_file", .text "k.pem"),
                  ("rate_limit", .integer 4)])])]) := by
  have hregistry : (Registry.registerAll (Catalog.commands {} configured) Catalog.flags).result
      = .ok services.registry := Registry.result_registerAll_eq_ok_iff.mpr ⟨by decide, rfl⟩
  obtain ⟨command, inv, hrun, hname, hresolve⟩ : ∃ command inv,
      services.Dispatches (.ofString "strata" :: certArgs) command inv
        ∧ command.name = Service.server.name
        ∧ (Service.resolve configured inv).result
          = .ok { address := ":7000", tls := true, certFile := some "c\"\n.pem",
                  keyFile := some "k.pem", rateLimit := 4 } :=
    ⟨_, _, ⟨_, _, _, rfl, rfl, rfl⟩, rfl, rfl⟩
  have hnew : OsText.ofString "--json" ∉ CommandLine.front certArgs := by decide
  obtain ⟨inv', -, -, -, hfailed | ⟨c, hc, -, -, -, hdocument⟩⟩ :=
    App.json_changes_rendering_alone hregistry hnew hrun hname (rfl : ({} : Sink).capacity = none)
  · obtain ⟨chain, hfailed, -⟩ := hfailed
    obtain ⟨hok, -⟩ := hrun.deliver_of_resolve_eq_ok hregistry hname
      (rfl : ({} : Sink).capacity = none) hresolve
    cases hfailed.symm.trans hok
  · obtain rfl := Except.ok.inj (hc.symm.trans hresolve)
    exact hdocument

end Sample

end CommandFront
