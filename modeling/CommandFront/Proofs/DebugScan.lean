import CommandFront.Launch
import CommandFront.Proofs.FrontTokens
import CommandFront.Proofs.ServiceReport

/-!
# The scan for the flag of the log

Before the arguments are parsed, they are looked through for a flag that makes the log talkative.
The scan knows the separator and nothing else of what arguments mean.

For all that the scan knows, what it finds may as well be a value or the name of a command. That it
is neither is up to the parser: a value in a token of its own does not look like a flag, one that
looks like a flag is joined to its spelling in one token, and the names of the commands do not begin
with a hyphen. After the separator both look no further.

- `App.Dispatches.switch_iff_mem_front`: on a run, a global switch with one spelling is on exactly
  if that spelling is one of the tokens in front of the separator.
- `App.debug_requested_iff_switch`: hence the scan agrees with the action.
-/

namespace CommandFront

namespace App

variable {app : App} {args : List OsText} {command : Command Action} {inv : Invocation}

/-- On a run, a switch that is accepted everywhere and has one spelling is on exactly if that is one
of the tokens in front of the separator. Neither a value nor the name of the command may be taken
for it. -/
theorem Dispatches.switch_iff_mem_front (hrun : app.Dispatches args command inv)
    (h : app.registry.Reachable) (hcommand : Joint.apart.Fits command.name) {f : Flag}
    (hf : f ∈ app.registry.rootLevel) (hkind : f.kind = .switch) (hshort : f.short = none)
    (haliases : f.aliases = []) (hequals : '=' ∉ f.name.toList) :
    inv.switch f.name = true
      ↔ Token.toText (.long (.ofString f.name) none) ∈ CommandLine.front (args.drop 1) := by
  have hlevel := h.distinct_rootLevel
  have hspelling := Phrase.ofText_longName hlevel hf f.name_mem_longNames hequals
  have hcommandSpelling := Joint.ne_of_fits hcommand hspelling fun _ => Token.noConfusion
  obtain ⟨w, closed, hw, hname, htokens, honce, rfl⟩ | ⟨e, he, -, htokens, honce, rfl⟩ :=
    hrun.exists_route h
  · have hown := h.distinct_commandLevel w.command
    have hmem := Registry.mem_commandLevel_of_mem_rootLevel hf w.command
    have hbefore : ∀ p ∈ w.before, p.Valid app.registry.rootLevel := fun p hp => (hw.before p hp).1
    have hseparator := hw.separator_not_mem_tokens h (hname ▸ hcommand)
    have hholds := hw.invocation_holds h honce command hmem
    obtain ⟨hswitch, -⟩ := hholds.switch_eq_of_switch (fun c hc => hw.suits hc) hkind
    rw [hswitch, hw.isSome_given?_iff hmem hkind, ← htokens,
      CommandLine.front_append_ending hseparator, Sentence.tokens, hname, List.mem_append,
      List.mem_cons, or_iff_right hcommandSpelling, or_comm,
      Phrase.turnsOn_iff_mem_written hlevel hbefore hf hkind hshort haliases hequals,
      Phrase.turnsOn_iff_mem_written hown hw.after hmem hkind hshort haliases hequals]
  · -- after the separator, neither the scan nor the parser looks for flags
    have hbefore : ∀ p ∈ e.before, p.Valid app.registry.rootLevel := fun p hp => (he.before p hp).1
    have hseparator := Phrase.separator_not_mem_written hlevel hbefore
    have hholds := he.invocation_holds h honce command hf
    obtain ⟨hswitch, -⟩ := hholds.switch_eq_of_switch (fun c hc => he.suits hc) hkind
    rw [hswitch, ← htokens, Escape.tokens, CommandLine.front_append_separator hseparator,
      Phrase.isSome_lookup_iff_turnsOn hbefore hkind,
      Phrase.turnsOn_iff_mem_written hlevel hbefore hf hkind hshort haliases hequals]

/-- On every run of a command of the program, whatever the arguments, the scan finds the flag
exactly if the action sees it. -/
theorem debug_requested_iff_switch {build : Build} {around : Surroundings}
    (hregistry : (Registry.registerAll (Catalog.commands build around) Catalog.flags).result
      = .ok app.registry)
    (hrun : app.Dispatches args command inv) :
    Launch.debugRequested args = inv.switch "debug" := by
  have h := Registry.reachable_of_registerAll hregistry
  let debug : Flag := Flag.switch "debug" "Enable debug logging."
  have hdebug : debug ∈ app.registry.rootLevel := by
    rw [Registry.mem_rootLevel_iff, flags_eq_of_registerAll hregistry]
    exact .inr (by decide)
  have hcommand : Joint.apart.Fits command.name := by
    have hnames : ∀ c ∈ Catalog.commands build around, Joint.apart.Fits c.name := by
      simp only [Catalog.commands, List.forall_mem_cons]
      decide
    have hmem := (h.consistent.get?_eq_some_iff.mp (hrun.get?_eq h)).1
    rw [commands_eq_of_registerAll hregistry] at hmem
    exact hnames command hmem
  have hscan : Launch.debugRequested args = true
      ↔ Launch.debugFlag ∈ CommandLine.front (args.drop 1) := by
    rw [Launch.debugRequested, List.any_beq', List.contains_iff_mem]
    rfl
  have hspelling : Launch.debugFlag = Token.toText (.long (.ofString debug.name) none) := by decide
  rw [hspelling] at hscan
  have hswitch := hrun.switch_iff_mem_front h hcommand hdebug rfl rfl rfl (by decide)
  exact Bool.eq_iff_iff.mpr (hscan.trans hswitch.symm)

end App

namespace Sample

/-- A command line with the spelling of the flag in a value and as an operand. -/
def debugArgs : List OsText :=
  ["strata", "--config=--debug", "--", "version", "--debug"].map OsText.ofString

/-- Neither of them counts, for the scan as for the action. -/
theorem debug_not_requested_by_values :
    ∃ command inv, services.Dispatches debugArgs command inv
      ∧ Launch.debugRequested debugArgs = false ∧ inv.switch "debug" = false := by
  have hregistry : (Registry.registerAll (Catalog.commands {} configured) Catalog.flags).result
      = .ok services.registry := Registry.result_registerAll_eq_ok_iff.mpr ⟨by decide, rfl⟩
  obtain ⟨command, inv, hrun⟩ : ∃ command inv, services.Dispatches debugArgs command inv :=
    ⟨_, _, _, _, _, rfl, rfl, rfl⟩
  have hscan : Launch.debugRequested debugArgs = false := by decide
  have hagree := App.debug_requested_iff_switch hregistry hrun
  exact ⟨command, inv, hrun, hscan, hagree.symm.trans hscan⟩

end Sample

end CommandFront
