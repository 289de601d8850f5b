import CommandFront.Log.Record

/-!
# Journals

What a computation does to the world outside, as a value.

- `Journal ε α`: what a computation does, step by step, and how it ends. It writes log records and
  takes diagnostics snapshots, which always goes well, and it offers texts to its output, which may
  refuse them. What it does next may depend on that.
- `Journal.attempt`, `Journal.write`: offers a text, and either hands on what came of it or fails
  where it was refused. Only the second one is used by the program; that each of its outputs gives
  up at a refused text is proved of the program and is not a law of journals.
- `Journal.result`, `Journal.records`: how a computation ends, and what it logs, where the output
  takes all texts.
- `Sink`: where the text goes; it may have room for a number of bytes only.
- `Journal.deliver`: what comes of a computation at a sink. A text that does not fit is cut, and
  from there on the sink takes nothing more.
-/

namespace CommandFront

/-- What a computation does to the world outside, and how it ends. -/
inductive Journal (ε α : Type) where
  /-- The computation ends. -/
  | ended (result : Except ε α)
  /-- A record goes to the log. -/
  | logged (record : LogRecord) (next : Journal ε α)
  /-- A diagnostics snapshot is taken. -/
  | snapped (next : Journal ε α)
  /-- A text is offered to the output, which takes it or refuses it for a reason. -/
  | offered (text : String) (taken : Journal ε α) (refused : String → Journal ε α)

namespace Journal

variable {ε δ α β : Type}

/-! ## One computation after another -/

/-- One computation after another, unless the first one fails. -/
def andThen : Journal ε α → (α → Journal ε β) → Journal ε β
  | ended (.ok a), f => f a
  | ended (.error e), _ => ended (.error e)
  | logged record next, f => logged record (next.andThen f)
  | snapped next, f => snapped (next.andThen f)
  | offered text taken refused, f =>
    offered text (taken.andThen f) fun reason => (refused reason).andThen f

instance : Monad (Journal ε) where
  pure a := ended (.ok a)
  bind := andThen

/-- To return what a computation has come to changes nothing. -/
theorem andThen_pure (j : Journal ε α) : j.andThen pure = j := by
  induction j with
  | ended result => cases result <;> rfl
  | logged _ _ ih => rw [andThen, ih]
  | snapped _ ih => rw [andThen, ih]
  | offered _ _ _ ihtaken ihrefused => simp only [andThen, ihtaken, ihrefused]

/-- Of three computations one after another, it does not matter which two are taken together. -/
theorem andThen_assoc {γ : Type} (j : Journal ε α) (f : α → Journal ε β) (g : β → Journal ε γ) :
    (j.andThen f).andThen g = j.andThen fun a => (f a).andThen g := by
  induction j with
  | ended result => cases result <;> rfl
  | logged _ _ ih => simp only [andThen, ih]
  | snapped _ ih => simp only [andThen, ih]
  | offered _ _ _ ihtaken ihrefused => simp only [andThen, ihtaken, ihrefused]

instance : LawfulMonad (Journal ε) :=
  LawfulMonad.mk' (Journal ε) andThen_pure (fun _ _ => rfl) andThen_assoc

/-- A computation that writes one record to the log. -/
def log (record : LogRecord) : Journal ε Unit :=
  logged record (pure ())

/-- A computation that fails. -/
def fail (e : ε) : Journal ε α :=
  ended (.error e)

/-- A computation that ends at once. -/
def ofExcept (result : Except ε α) : Journal ε α :=
  ended result

/-- Offers one text, and hands on whether it was taken. -/
def attempt (text : String) : Journal ε (Except String Unit) :=
  offered text (pure (.ok ())) fun reason => pure (.error reason)

/-- Fails where a text was refused. -/
def orFail (refusal : String → ε) : Except String Unit → Journal ε Unit
  | .ok () => pure ()
  | .error reason => fail (refusal reason)

/-- A computation that writes one text, and fails where it is refused. -/
def write (refusal : String → ε) (text : String) : Journal ε Unit := do
  let outcome ← attempt text
  orFail refusal outcome

/-! ## How a computation ends -/

/-- The same computation with its failures told in other words. -/
def mapError (f : ε → δ) : Journal ε α → Journal δ α
  | ended result => ended (result.mapError f)
  | logged record next => logged record (next.mapError f)
  | snapped next => snapped (next.mapError f)
  | offered text taken refused =>
    offered text (taken.mapError f) fun reason => (refused reason).mapError f

/-- The same computation, which hands on how it ends. -/
def outcome : Journal ε α → Journal ε (Except ε α)
  | ended result => pure result
  | logged record next => logged record next.outcome
  | snapped next => snapped next.outcome
  | offered text taken refused => offered text taken.outcome fun reason => (refused reason).outcome

/-- How the computation ends if all texts are taken. -/
def result : Journal ε α → Except ε α
  | ended result => result
  | logged _ next => next.result
  | snapped next => next.result
  | offered _ taken _ => taken.result

/-- Where the output takes all texts, computations end as their results do one after another. -/
@[simp] theorem result_bind (j : Journal ε α) (f : α → Journal ε β) :
    (j >>= f).result = j.result >>= fun a => (f a).result := by
  induction j with
  | ended result => cases result <;> rfl
  | logged _ _ ih => exact ih
  | snapped _ ih => exact ih
  | offered _ _ _ ih => exact ih

@[simp] theorem result_map (f : α → β) (j : Journal ε α) :
    (f <$> j).result = j.result.map f := by
  refine (result_bind j _).trans ?_
  cases j.result <;> rfl

@[simp] theorem result_mapError (f : ε → δ) (j : Journal ε α) :
    (j.mapError f).result = j.result.mapError f := by
  induction j with
  | ended result => rfl
  | logged _ _ ih => exact ih
  | snapped _ ih => exact ih
  | offered _ _ _ ih => exact ih

/-- A computation whose end is handed on does not fail. -/
@[simp] theorem result_outcome (j : Journal ε α) : j.outcome.result = .ok j.result := by
  induction j with
  | ended result => rfl
  | logged _ _ ih => exact ih
  | snapped _ ih => exact ih
  | offered _ _ _ ih => exact ih

/-- The log records if all texts are taken. -/
def records : Journal ε α → List LogRecord
  | ended _ => []
  | logged record next => record :: next.records
  | snapped next => next.records
  | offered _ taken _ => taken.records

end Journal

/-! ## Delivery -/

/-- Where the text of a computation goes. -/
structure Sink where
  /-- How many bytes it takes, if there is a limit. -/
  capacity : Option Nat := none
  /-- What it says when it is full. -/
  reason : String := "sink is full"
deriving DecidableEq, Repr

/-- What comes of a computation at a sink. -/
structure Delivery (ε α : Type) where
  /-- The bytes that the sink took. -/
  written : List UInt8
  /-- The log records. -/
  records : List LogRecord
  /-- How many snapshots were taken. -/
  snapshots : Nat
  /-- How the computation ended. -/
  result : Except ε α

namespace Journal

variable {ε α : Type}

/-- The bytes of a text. -/
def encode (text : String) : List UInt8 :=
  text.toUTF8.toList

/-- What comes of a computation at a sink with a given room. -/
def deliverFrom (reason : String) : Option Nat → Journal ε α → Delivery ε α
  | _, ended result => ⟨[], [], 0, result⟩
  | room, logged record next =>
    let d := deliverFrom reason room next
    { d with records := record :: d.records }
  | room, snapped next =>
    let d := deliverFrom reason room next
    { d with snapshots := d.snapshots + 1 }
  | none, offered text taken _ =>
    let d := deliverFrom reason none taken
    { d with written := encode text ++ d.written }
  | some room, offered text taken refused =>
    if (encode text).length ≤ room then
      let d := deliverFrom reason (some (room - (encode text).length)) taken
      { d with written := encode text ++ d.written }
    else
      -- the computation goes on, and finds a sink without room
      let d := deliverFrom reason (some 0) (refused reason)
      { d with written := (encode text).take room ++ d.written }

/-- What comes of a computation at a sink. -/
def deliver (sink : Sink) (j : Journal ε α) : Delivery ε α :=
  deliverFrom sink.reason sink.capacity j

end Journal

end CommandFront
