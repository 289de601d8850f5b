import CommandFront.Diagnostics
import CommandFront.Proofs.Lists

/-!
# What a computation writes

What a computation does where its output takes all that is offered. Then it goes one way only, and
that way is made of the ways of its parts, one after the other.

The texts are listed and the snapshots counted along the path on which every text is taken. A
computation that ends in a failure has written what it wrote before, so what two computations write
one after the other depends on how the first one ends. Logging and failing write nothing, and most
parts of a start or a run do nothing else; for them it is enough to say that they are silent.

- `Journal.texts`, `Journal.snapshots`: the texts that are written, and how many snapshots there
  are.
- `Journal.texts_bind_of_ok`, `Journal.texts_bind_of_error`: the texts of one computation after
  another.
- `Journal.Silent`: a computation writes nothing.
- `Journal.takeSnapshot_effects`: a snapshot writes nothing.
- `Journal.result_foldlM`: how a loop ends, with what it does on the way left out.
- `Journal.deliver_of_unlimited`: a sink without a limit takes all that is written.
-/

namespace CommandFront

namespace Journal

variable {ε δ α β : Type}

/-- The texts that are written if all of them are taken. -/
def texts : Journal ε α → List String
  | ended _ => []
  | logged _ next => next.texts
  | snapped next => next.texts
  | offered text taken _ => text :: taken.texts

/-- How many snapshots are taken if all texts are. -/
def snapshots : Journal ε α → Nat
  | ended _ => 0
  | logged _ next => next.snapshots
  | snapped next => next.snapshots + 1
  | offered _ taken _ => taken.snapshots

/-! ## One computation after another -/

section Bind

variable {j : Journal ε α} {f : α → Journal ε β}

/-- What comes after a computation that goes well is written after it. -/
theorem texts_bind_of_ok {a : α} (h : j.result = .ok a) :
    (j >>= f).texts = j.texts ++ (f a).texts := by
  induction j with
  | ended result =>
    obtain rfl : result = .ok a := h
    rfl
  | logged _ _ ih => exact ih h
  | snapped _ ih => exact ih h
  | offered text _ _ ih => exact congrArg (text :: ·) (ih h)

/-- Nothing is written after a computation that fails. -/
theorem texts_bind_of_error {e : ε} (h : j.result = .error e) : (j >>= f).texts = j.texts := by
  induction j with
  | ended result =>
    obtain rfl : result = .error e := h
    rfl
  | logged _ _ ih => exact ih h
  | snapped _ ih => exact ih h
  | offered text _ _ ih => exact congrArg (text :: ·) (ih h)

/-- The snapshots of two computations add up. -/
theorem snapshots_bind_of_ok {a : α} (h : j.result = .ok a) :
    (j >>= f).snapshots = j.snapshots + (f a).snapshots := by
  induction j with
  | ended result =>
    obtain rfl : result = .ok a := h
    exact (Nat.zero_add _).symm
  | logged _ _ ih => exact ih h
  | snapped _ ih => exact (congrArg (· + 1) (ih h)).trans (Nat.add_right_comm _ _ _)
  | offered _ _ _ ih => exact ih h

end Bind

/-- Telling failures in other words changes nothing that is written. -/
@[simp] theorem texts_mapError (f : ε → δ) (j : Journal ε α) : (j.mapError f).texts = j.texts := by
  induction j with
  | ended _ => rfl
  | logged _ _ ih => exact ih
  | snapped _ ih => exact ih
  | offered text _ _ ih => exact congrArg (text :: ·) ih

/-! ## Computations that write nothing -/

/-- The computation writes nothing. -/
def Silent (j : Journal ε α) : Prop :=
  j.texts = []

/-- What only returns a value writes nothing. -/
theorem silent_pure (a : α) : (pure a : Journal ε α).Silent := rfl

/-- The log is no output. -/
theorem silent_log (record : LogRecord) : (log record : Journal ε Unit).Silent := rfl

theorem silent_ofExcept (result : Except ε α) : (ofExcept result).Silent := rfl

/-- A computation that writes nothing, and goes on with one that writes nothing either. -/
theorem Silent.bind {j : Journal ε α} {f : α → Journal ε β} (hj : j.Silent)
    (hf : ∀ a, (f a).Silent) : (j >>= f).Silent := by
  have hfirst : j.texts = [] := hj
  cases h : j.result with
  | error e => exact (texts_bind_of_error h).trans hfirst
  | ok a =>
    have hthen : (f a).texts = [] := hf a
    rw [Silent, texts_bind_of_ok h, hfirst, hthen]
    rfl

theorem Silent.mapError {j : Journal ε α} (h : j.Silent) (f : ε → δ) : (j.mapError f).Silent := by
  rw [Silent, texts_mapError]
  exact h

/-- Taking a snapshot writes nothing and goes well. -/
theorem takeSnapshot_effects (r : Readings) :
    (r.takeSnapshot : Journal ε Snapshot).texts = []
      ∧ (r.takeSnapshot : Journal ε Snapshot).snapshots = 1
      ∧ (r.takeSnapshot : Journal ε Snapshot).result = .ok r.snapshot := by
  unfold Readings.takeSnapshot
  cases r.host <;> exact ⟨rfl, rfl, rfl⟩

/-- How a loop ends, with what it does on the way left out. -/
theorem result_foldlM {step : β → α → Journal ε β} {b : β} {l : List α} :
    (l.foldlM step b).result = l.foldlM (fun c a => (step c a).result) b := by
  induction l generalizing b with
  | nil => rfl
  | cons a rest ih =>
    rw [List.foldlM_cons, List.foldlM_cons, result_bind]
    cases (step b a).result with
    | error e => rfl
    | ok next => exact ih

/-! ## Delivery -/

theorem deliverFrom_of_unlimited (reason : String) (j : Journal ε α) :
    (deliverFrom reason none j).written = j.texts.flatMap encode
      ∧ (deliverFrom reason none j).snapshots = j.snapshots
      ∧ (deliverFrom reason none j).result = j.result := by
  induction j with
  | ended _ => exact ⟨rfl, rfl, rfl⟩
  | logged _ _ ih => exact ih
  | snapped _ ih =>
    obtain ⟨hwritten, hsnapshots, hresult⟩ := ih
    exact ⟨hwritten, congrArg (· + 1) hsnapshots, hresult⟩
  | offered text _ _ ih =>
    obtain ⟨hwritten, hsnapshots, hresult⟩ := ih
    exact ⟨congrArg (encode text ++ ·) hwritten, hsnapshots, hresult⟩

/-- A sink without a limit takes all that is written. -/
theorem deliver_of_unlimited {sink : Sink} (h : sink.capacity = none) (j : Journal ε α) :
    (j.deliver sink).written = j.texts.flatMap encode
      ∧ (j.deliver sink).snapshots = j.snapshots ∧ (j.deliver sink).result = j.result := by
  unfold deliver
  rw [h]
  exact deliverFrom_of_unlimited sink.reason j

end Journal

end CommandFront
