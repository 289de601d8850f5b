import CommandFront.Proofs.Delivery
import CommandFront.Proofs.HelpTopic

/-!
# What arguments ask for

A run refuses its arguments or serves what they ask for.

A run parses its arguments, decides what they ask for, and does that. The first two write nothing
and depend on nothing but the arguments and the registry, so what a run does is known from the
request. There is at most one request, and an action is run for one kind of request alone. All that
is said of runs is said of one of these cases.

- `App.Asks`: arguments are accepted and ask for something.
- `App.cases_of_run`: the arguments are refused, or there is one thing that they ask for.
- `App.dispatches_iff_asks`: a command runs exactly where the arguments ask for it.
- `App.AsksForText`: arguments ask for a help text.
- `App.AsksForText.givesUp`, `App.Dispatches.givesUp`: what a run does where a text is refused.
-/

namespace CommandFront

namespace App

variable {app : App} {args : List OsText} {command : Command Action} {inv : Invocation}
  {request : Request}

/-- The arguments are accepted and ask for something. -/
def Asks (app : App) (args : List OsText) (request : Request) : Prop :=
  ∃ line, CommandLine.parse app.registry (args.drop 1) = .ok line ∧ app.request line = request

/-- What is asked for is served. -/
theorem Asks.run_eq (h : app.Asks args request) : app.run args = app.serve request := by
  obtain ⟨line, hparse, rfl⟩ := h
  exact run_of_parse_eq_ok hparse

theorem Asks.unique {other : Request} (h : app.Asks args request) (h' : app.Asks args other) :
    request = other := by
  obtain ⟨line, hparse, rfl⟩ := h
  obtain ⟨line', hparse', rfl⟩ := h'
  rw [Except.ok.inj (hparse.symm.trans hparse')]

/-- The arguments are refused, or there is one thing that they ask for. -/
theorem cases_of_run (app : App) (args : List OsText) :
    (∃ cause, app.run args = Journal.fail (.arguments cause) ∧ ∀ request, ¬app.Asks args request)
      ∨ ∃ request, app.Asks args request := by
  cases hparse : CommandLine.parse app.registry (args.drop 1) with
  | ok line => exact .inr ⟨app.request line, line, hparse, rfl⟩
  | error cause =>
    refine .inl ⟨cause, run_of_parse_eq_error hparse, ?_⟩
    rintro request ⟨line, hline, -⟩
    cases hparse.symm.trans hline

theorem dispatches_iff_asks : app.Dispatches args command inv
    ↔ ∃ root own, app.Asks args (.invoke command root own)
      ∧ inv = app.invocation command root own := by
  constructor
  · rintro ⟨line, root, own, hparse, hrequest, hinv⟩
    exact ⟨root, own, ⟨line, hparse, hrequest⟩, hinv⟩
  · rintro ⟨root, own, ⟨line, hparse, hrequest⟩, hinv⟩
    exact ⟨line, root, own, hparse, hrequest, hinv⟩

/-- Arguments that ask for something else run no command. -/
theorem Asks.not_dispatches (h : app.Asks args request)
    (hother : ∀ command root own, request ≠ .invoke command root own) :
    ¬app.Dispatches args command inv := by
  intro hrun
  obtain ⟨root, own, hasks, -⟩ := dispatches_iff_asks.mp hrun
  exact hother command root own (h.unique hasks)

/-! ## Help texts -/

/-- The arguments ask for the help of the application or of a command. -/
def AsksForText (app : App) (args : List OsText) : Prop :=
  app.Asks args .overview ∨ ∃ command, app.Asks args (.describe command)

theorem snapshots_deliver_renderHelp (app : App) (sink : Sink) :
    (app.renderHelp.deliver sink).snapshots = 1 := by
  let taken : Journal RunError Snapshot := app.readings.takeSnapshot
  obtain ⟨hsilent, hcount, hok⟩ : taken.Silent ∧ taken.snapshots = 1
      ∧ taken.result = .ok app.readings.snapshot := Journal.takeSnapshot_effects app.readings
  show ((taken >>= _).deliver sink).snapshots = 1
  rw [hsilent.snapshots_deliver_bind hok, hcount, Journal.snapshots_deliver_write]

/-- Where a help text is refused, the run gives up as one whose output cannot be written. -/
theorem AsksForText.givesUp (h : app.AsksForText args) :
    (app.run args).GivesUp .write ∧ (app.run args).result = .ok () := by
  rcases h with hasks | ⟨command, hasks⟩
  · have hsilent : (app.readings.takeSnapshot : Journal RunError Snapshot).Silent :=
      (Journal.takeSnapshot_effects app.readings).1
    rw [hasks.run_eq]
    refine ⟨(hsilent.givesUp .write).bind fun _ => Journal.givesUp_write RunError.write _, ?_⟩
    exact app.helpOn_none.2.2
  · rw [hasks.run_eq]
    exact ⟨Journal.givesUp_write RunError.write (app.commandHelp command), rfl⟩

/-- A run gives up where its action does, with the failure of the action. -/
theorem Dispatches.givesUp {refusal : String → ErrorChain} (hrun : app.Dispatches args command inv)
    (h : (command.action inv).GivesUp refusal) :
    (app.run args).GivesUp fun reason => .action (refusal reason) := by
  have hlog := (Journal.silent_log (ε := RunError) (dispatchRecord command)).givesUp
    fun reason => .action (refusal reason)
  rw [hrun.run_eq]
  exact hlog.bind fun _ => h.mapError RunError.action

end App

end CommandFront
