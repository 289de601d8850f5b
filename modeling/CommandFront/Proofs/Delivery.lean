import CommandFront.Proofs.Effects

/-!
# Sinks with a limit

What a sink takes of a computation that offers its texts one after another, and how the computation
ends there.

A computation learns whether a text was taken, and may go on where it was not. So it is no law that
output that is cut makes a computation fail; it is one for the computations that give up, and what
gives up is proved from its parts.

- `Journal.GivesUp`: where a text is refused, the computation fails at once, and its error tells the
  reason in one way.
- `Journal.givesUp_write`, `Journal.GivesUp.bind` and its like: which computations give up.
- `Journal.GivesUp.deliver_of_limited`: a sink takes what it has room for of such a computation, and
  where that is not all, the computation fails.
- `Journal.Silent.snapshots_deliver_bind`: a sink leaves what comes before the first text as it is.
- `Journal.result_deliver_mapError`: failures told in other words are told so at any sink.
-/

namespace CommandFront

namespace Journal

variable {ε δ α β : Type}

/-! ## Failures in other words -/

theorem result_deliverFrom_mapError (f : ε → δ) (reason : String) (room : Option Nat)
    (j : Journal ε α) :
    (deliverFrom reason room (j.mapError f)).result
      = (deliverFrom reason room j).result.mapError f := by
  induction j generalizing room with
  | ended _ => rfl
  | logged _ _ ih => exact ih room
  | snapped _ ih => exact ih room
  | offered text taken refused ihtaken ihrefused =>
    cases room with
    | none => exact ihtaken none
    | some room =>
      simp only [mapError, deliverFrom]
      split
      · exact ihtaken _
      · exact ihrefused reason _

/-- Whatever a computation does where a text is refused, its failures are told in other words. -/
theorem result_deliver_mapError (f : ε → δ) (sink : Sink) (j : Journal ε α) :
    ((j.mapError f).deliver sink).result = (j.deliver sink).result.mapError f :=
  result_deliverFrom_mapError f sink.reason sink.capacity j

/-! ## Snapshots -/

/-- What comes before the first text is not touched by the sink. -/
theorem Silent.snapshots_deliver_bind {j : Journal ε α} (hj : j.Silent) {a : α}
    (hok : j.result = .ok a) (f : α → Journal ε β) (sink : Sink) :
    ((j >>= f).deliver sink).snapshots = j.snapshots + ((f a).deliver sink).snapshots := by
  induction j with
  | ended result =>
    obtain rfl : result = .ok a := hok
    exact (Nat.zero_add _).symm
  | logged _ _ ih => exact ih hj hok
  | snapped _ ih => exact (congrArg (· + 1) (ih hj hok)).trans (Nat.add_right_comm _ _ _)
  | offered _ _ _ _ => cases hj

theorem snapshots_deliver_write (refusal : String → ε) (text : String) (sink : Sink) :
    ((write refusal text).deliver sink).snapshots = 0 := by
  obtain ⟨capacity, reason⟩ := sink
  cases capacity with
  | none => rfl
  | some room =>
    show (deliverFrom reason (some room) (offered text _ _)).snapshots = 0
    rw [deliverFrom]
    split <;> rfl

/-! ## Computations that give up -/

/-- Where a text is refused, the computation fails at once, with what `refusal` makes of the
reason. -/
def GivesUp (refusal : String → ε) : Journal ε α → Prop
  | ended _ => True
  | logged _ next => next.GivesUp refusal
  | snapped next => next.GivesUp refusal
  | offered _ taken refused =>
    (∀ reason, refused reason = fail (refusal reason)) ∧ taken.GivesUp refusal

variable {refusal : String → ε}

theorem givesUp_ended (result : Except ε α) : (ended result).GivesUp refusal := trivial

/-- A computation that writes nothing has nothing to give up at. -/
theorem Silent.givesUp {j : Journal ε α} (h : j.Silent) (refusal : String → ε) :
    j.GivesUp refusal := by
  induction j with
  | ended result => exact givesUp_ended result
  | logged _ _ ih => exact ih h
  | snapped _ ih => exact ih h
  | offered _ _ _ _ => cases h

/-- Writing a text looks at what came of it. -/
theorem givesUp_write (refusal : String → ε) (text : String) :
    (write refusal text).GivesUp refusal :=
  ⟨fun _ => rfl, givesUp_ended (.ok ())⟩

theorem GivesUp.bind {j : Journal ε α} {f : α → Journal ε β} (hj : j.GivesUp refusal)
    (hf : ∀ a, (f a).GivesUp refusal) : (j >>= f).GivesUp refusal := by
  induction j with
  | ended result =>
    cases result with
    | ok a => exact hf a
    | error e => exact givesUp_ended (.error e)
  | logged _ _ ih => exact ih hj
  | snapped _ ih => exact ih hj
  | offered _ _ _ ih _ =>
    obtain ⟨hrefused, htaken⟩ := hj
    -- what would come next is not reached
    exact ⟨fun reason => congrArg (fun k => k.andThen f) (hrefused reason), ih htaken⟩

theorem GivesUp.mapError {j : Journal ε α} (h : j.GivesUp refusal) (f : ε → δ) :
    (j.mapError f).GivesUp fun reason => f (refusal reason) := by
  induction j with
  | ended result => exact givesUp_ended (result.mapError f)
  | logged _ _ ih => exact ih h
  | snapped _ ih => exact ih h
  | offered _ _ _ ih _ =>
    obtain ⟨hrefused, htaken⟩ := h
    exact ⟨fun reason => congrArg (Journal.mapError f) (hrefused reason), ih htaken⟩

theorem GivesUp.forM {f : β → Journal ε Unit} (h : ∀ b, (f b).GivesUp refusal) (l : List β) :
    (l.forM f).GivesUp refusal := by
  induction l with
  | nil => exact givesUp_ended (.ok ())
  | cons b rest ih =>
    show (f b >>= fun _ => rest.forM f).GivesUp refusal
    exact (h b).bind fun _ => ih

theorem GivesUp.deliverFrom_of_limited {j : Journal ε α} (h : j.GivesUp refusal) (reason : String)
    (room : Nat) :
    let whole := j.texts.flatMap encode
    let d := deliverFrom reason (some room) j
    d.written = whole.take room
      ∧ (whole.length ≤ room → d.result = j.result)
      ∧ (room < whole.length → d.result = .error (refusal reason)) := by
  induction j generalizing room with
  | ended _ => exact ⟨List.take_nil.symm, fun _ => rfl, fun h => absurd h (Nat.not_lt_zero room)⟩
  | logged _ _ ih => exact ih h room
  | snapped _ ih => exact ih h room
  | offered text taken refused ih =>
    obtain ⟨hrefused, htaken⟩ := h
    simp only [deliverFrom, texts, List.flatMap_cons, List.length_append]
    split
    case isTrue hroom =>
      obtain ⟨hwritten, hfits, hcut⟩ := ih htaken (room - (encode text).length)
      refine ⟨?_, fun h => hfits (by omega), fun h => hcut (by omega)⟩
      rw [hwritten, List.take_append, List.take_of_length_le hroom]
    case isFalse hfull =>
      -- the text is cut, and the computation does nothing after it
      rw [hrefused]
      refine ⟨?_, fun h => absurd h (by omega), fun _ => rfl⟩
      rw [List.take_append_of_le_length (by omega)]
      exact List.append_nil _

/-- A sink with a limit takes what such a computation writes up to its limit. If that is all, the
computation ends as it does anyway; otherwise it fails for what the sink says. -/
theorem GivesUp.deliver_of_limited {j : Journal ε α} (h : j.GivesUp refusal) {sink : Sink}
    {room : Nat} (hlimit : sink.capacity = some room) :
    let whole := j.texts.flatMap encode
    (j.deliver sink).written = whole.take room
      ∧ (whole.length ≤ room → (j.deliver sink).result = j.result)
      ∧ (room < whole.length → (j.deliver sink).result = .error (refusal sink.reason)) := by
  unfold deliver
  rw [hlimit]
  exact h.deliverFrom_of_limited sink.reason room

/-- A computation that does not look at what came of its text ends well wherever it is cut. -/
example : ((do let _ ← attempt "text" : Journal String Unit).deliver
    { capacity := some 2 }).result.isOk = true := by
  decide +kernel

/-- At any sink, a computation that gives up ends as it does anyway, or it is refused. -/
theorem GivesUp.result_deliver {j : Journal ε α} (h : j.GivesUp refusal) (sink : Sink) :
    (j.deliver sink).result = j.result
      ∨ (j.deliver sink).result = .error (refusal sink.reason) := by
  cases hcapacity : sink.capacity with
  | none => exact .inl (deliver_of_unlimited hcapacity j).2.2
  | some room =>
    obtain ⟨-, hfits, hcut⟩ := h.deliver_of_limited hcapacity
    exact (Nat.lt_or_ge room _).symm.imp hfits hcut

end Journal

end CommandFront
