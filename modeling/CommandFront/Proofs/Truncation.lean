import CommandFront.Proofs.RunOutcome
import CommandFront.Proofs.ServiceReport

/-!
# Output that is cut

What a run of the program writes to a sink that is full before all is written.

A run writes its output in several ways: a help text at once, a document in JSON with its line
break, or a report line by line with a snapshot after it. Each of them could go on after a text that
was refused, and none does. So whichever text is cut, the run fails.

- `Action.givesUp_print`, `Output.givesUp_printOne`: what writes one text gives up where it is
  refused.
- `Service.givesUp_action`, `givesUp_versionReport`: so do the commands of the program.
- `Catalog.givesUp_action`: all that a command of the program writes is refused in one way.
- `App.silent_or_writes`: a run writes nothing, or it was asked for a help text or runs a command.
- `App.wholly_written_or_failed`: a run whose output is cut fails.
-/

namespace CommandFront

/-! ## What the commands write -/

/-- Writing a text gives up where it is refused, with a failure without causes. -/
theorem Action.givesUp_print (text : String) : (print text).GivesUp ErrorChain.ofMessage :=
  Journal.givesUp_write ErrorChain.ofMessage text

theorem Action.givesUp_printLine (text : String) :
    (printLine text).GivesUp ErrorChain.ofMessage :=
  givesUp_print (text ++ "\n")

theorem Output.givesUp_printJson (data : Json) : (printJson data).GivesUp ErrorChain.ofMessage :=
  Action.givesUp_printLine (envelope data).pretty

theorem Output.givesUp_printOne (json : Bool) (data : Json) (row : String) :
    (printOne json data row).GivesUp ErrorChain.ofMessage := by
  cases json with
  | true => exact givesUp_printJson data
  | false => exact Action.givesUp_printLine row

/-- The report of a service gives up where it is refused. What comes before it writes nothing. -/
theorem Service.givesUp_action (around : Surroundings) (s : Service) (inv : Invocation) :
    (s.action around inv).GivesUp ErrorChain.ofMessage := by
  have hresolve : (resolve around inv).Silent := silent_resolve
  refine ((hresolve.mapError ConfigError.chain).givesUp _).bind fun config => ?_
  have hlog := (Journal.silent_log (ε := ErrorChain) (s.configured config)).givesUp
    ErrorChain.ofMessage
  exact hlog.bind fun _ => Output.givesUp_printOne _ _ _

/-- The report of the version gives up at the first of its lines that is refused. -/
theorem givesUp_versionReport (build : Build) (inv : Invocation) :
    (versionReport build inv).GivesUp ErrorChain.ofMessage := by
  have hsnapshot : (inv.takeSnapshot : Journal ErrorChain Snapshot).Silent :=
    (Journal.takeSnapshot_effects inv.readings).1
  refine (hsnapshot.givesUp _).bind fun snapshot => ?_
  split
  · exact Output.givesUp_printJson _
  · have hlines := Journal.GivesUp.forM Action.givesUp_printLine (versionLines build)
    exact hlines.bind fun _ => Action.givesUp_print snapshot.sections

/-- Each command of the program gives up at the first text that is refused. -/
theorem Catalog.givesUp_action {build : Build} {around : Surroundings} {command : Command Action}
    (h : command ∈ commands build around) (inv : Invocation) :
    (command.action inv).GivesUp ErrorChain.ofMessage := by
  have hall : ∀ c ∈ commands build around, (c.action inv).GivesUp ErrorChain.ofMessage := by
    simp only [commands, List.forall_mem_cons]
    exact ⟨Service.givesUp_action around .server inv, Service.givesUp_action around .gateway inv,
      Service.givesUp_action around .controller inv, givesUp_versionReport build inv,
      List.forall_mem_nil _⟩
  exact hall command h

/-! ## The run -/

namespace App

variable {app : App} {args : List OsText}

/-- A run writes nothing, or it was asked for a help text, or it runs a command. -/
theorem silent_or_writes (hhook : ∀ token, (app.notFound token).Silent) (args : List OsText) :
    (app.run args).Silent ∨ app.AsksForText args
      ∨ ∃ command inv, app.Dispatches args command inv := by
  obtain ⟨cause, hrun, -⟩ | ⟨request, hasks⟩ := app.cases_of_run args
  · rw [hrun]
    exact .inl rfl
  cases request with
  | overview => exact .inr (.inl (.inl hasks))
  | describe command => exact .inr (.inl (.inr ⟨command, hasks⟩))
  | invoke command root own =>
    exact .inr (.inr ⟨command, _, dispatches_iff_asks.mpr ⟨root, own, hasks, rfl⟩⟩)
  | unknown token =>
    -- the hook has nothing to write to
    rw [hasks.run_eq]
    exact .inl ((hhook token).bind fun e => Journal.silent_ofExcept (.error e))
  | topicIsNoText name =>
    rw [hasks.run_eq]
    exact .inl rfl

/-- For the commands and flags of the program, with a hook for unknown commands that writes nothing,
and whatever the arguments and the files are: a sink with a limit takes what a sink without one
would take, up to its limit. If that is all, the run ends as it does without a limit. Otherwise it
fails with status 1: as output that cannot be written where a help text was asked for, and as a
failure of the action where a command runs. -/
theorem wholly_written_or_failed {build : Build} {around : Surroundings}
    (hregistry : (Registry.registerAll (Catalog.commands build around) Catalog.flags).result
      = .ok app.registry)
    (hhook : ∀ token, (app.notFound token).Silent) (args : List OsText) {endless : Sink}
    (hendless : endless.capacity = none) (n : Nat) (reason : String) :
    let whole := (app.run args).deliver endless
    let cut := (app.run args).deliver { capacity := some n, reason := reason }
    cut.written = whole.written.take (min n whole.written.length)
      ∧ (whole.written.length ≤ n → cut.result = whole.result)
      ∧ (n < whole.written.length →
        (exitStatus cut.result).1 = 1
          ∧ (app.AsksForText args ∨ ∃ command inv, app.Dispatches args command inv)
          ∧ (app.AsksForText args → cut.result = .error (.write reason))
          ∧ ∀ command inv, app.Dispatches args command inv →
            cut.result = .error (.action ⟨reason, []⟩)) := by
  intro whole cut
  obtain ⟨hwhole, -, hresult⟩ := Journal.deliver_of_unlimited hendless (app.run args)
  have hlength : whole.written = (app.run args).texts.flatMap Journal.encode := hwhole
  have hlimit : ({ capacity := some n, reason := reason } : Sink).capacity = some n := rfl
  have hcommand : ∀ command inv, app.Dispatches args command inv →
      (app.run args).GivesUp fun reason => .action (.ofMessage reason) := by
    intro command inv hrun
    have hregistered : command ∈ Catalog.commands build around := by
      rw [← commands_eq_of_registerAll hregistry]
      exact hrun.mem_commands (Registry.reachable_of_registerAll hregistry)
    exact hrun.givesUp (Catalog.givesUp_action hregistered inv)
  have hways := silent_or_writes hhook args
  obtain ⟨refusal, hgivesUp⟩ : ∃ refusal, (app.run args).GivesUp refusal := by
    rcases hways with hsilent | hasks | ⟨command, inv, hrun⟩
    · exact ⟨.write, hsilent.givesUp .write⟩
    · exact ⟨.write, hasks.givesUp.1⟩
    · exact ⟨_, hcommand command inv hrun⟩
  obtain ⟨htaken, hfits, -⟩ := hgivesUp.deliver_of_limited hlimit
  rw [← hlength] at htaken hfits
  refine ⟨?_, fun hn => (hfits hn).trans hresult.symm, fun hn => ?_⟩
  · rw [← List.take_eq_take_min]
    exact htaken
  rw [hlength] at hn
  have htext : app.AsksForText args → cut.result = .error (.write reason) := fun hasks =>
    (hasks.givesUp.1.deliver_of_limited hlimit).2.2 hn
  have haction : ∀ command inv, app.Dispatches args command inv →
      cut.result = .error (.action ⟨reason, []⟩) := fun command inv hrun =>
    ((hcommand command inv hrun).deliver_of_limited hlimit).2.2 hn
  rcases hways with hsilent | hasks | ⟨command, inv, hrun⟩
  · have hnone : (app.run args).texts = [] := hsilent
    rw [hnone] at hn
    cases hn
  · refine ⟨?_, .inl hasks, htext, haction⟩
    rw [htext hasks]
    rfl
  · refine ⟨?_, .inr ⟨command, inv, hrun⟩, htext, haction⟩
    rw [haction command inv hrun]
    rfl

end App

namespace Sample

/-- A sink with room for the first letters of the report makes the action fail. -/
theorem server_report_cut :
    ((services.run serverArgs).deliver { capacity := some 6 }).written = Journal.encode "server"
      ∧ (exitStatus ((services.run serverArgs).deliver { capacity := some 6 }).result).1 = 1
      ∧ ((services.run serverArgs).deliver { capacity := some 6 }).result
        = .error (.action ⟨"sink is full", []⟩) := by
  have hregistry : (Registry.registerAll (Catalog.commands {} configured) Catalog.flags).result
      = .ok services.registry := Registry.result_registerAll_eq_ok_iff.mpr ⟨by decide, rfl⟩
  obtain ⟨command, inv, hrun, hname, hresolve, hjson⟩ : ∃ command inv,
      services.Dispatches serverArgs command inv ∧ command.name = Service.server.name
        ∧ (Service.resolve configured inv).result
          = .ok { address := ":7100", anonymous := true, rateLimit := 4 }
        ∧ inv.switch "json" = false :=
    ⟨_, _, ⟨_, _, _, rfl, rfl, rfl⟩, rfl, rfl, rfl⟩
  have hunlimited : ({} : Sink).capacity = none := rfl
  obtain ⟨-, hwhole⟩ := hrun.deliver_of_resolve_eq_ok hregistry hname hunlimited hresolve
  obtain ⟨htaken, -, hcut⟩ := App.wholly_written_or_failed hregistry (fun _ => rfl) serverArgs
    hunlimited 6 "sink is full"
  rw [hwhole, hjson] at htaken hcut
  obtain ⟨hstatus, -, -, hcommand⟩ := hcut (by decide +kernel)
  exact ⟨htaken.trans (by decide +kernel), hstatus, hcommand command inv hrun⟩

end Sample

end CommandFront
