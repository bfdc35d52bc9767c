import ResourceBroker.Broker.Lifecycle

/-!
What the broker and its worker do to the adapter in use, when that adapter is known: which operation
is asked of it, and what is made of the result.
-/

namespace ResourceBroker

def Worker.entered (place : Nat) : Except IpcError Unit → Worker
  | .ok _ => .looping place
  | .error e => .returned (.error e.toBrokerError)

namespace Broker

/-- The failure that is saved after a release, for the `stop` that waits for it. -/
def failureAfter (saved : Option BrokerError) : Except IpcError Unit → Option BrokerError
  | .ok _ => saved
  | .error e => some e.toBrokerError

variable {α : Type} {b : Broker α} {place : Nat} {a a' : α}

theorem call_of_getElem? {β : Type} {op : α → α × Except IpcError β} {result : Except IpcError β}
    (ha : b.adapters[place]? = some a) (hop : op a = (a', result)) :
    b.call place op = ({ b with adapters := b.adapters.set place a' }, result) := by
  unfold call
  rw [ha]
  dsimp only
  rw [hop]

theorem set_last (earlier : List α) (a a' : α) :
    (earlier ++ [a]).set earlier.length a' = earlier ++ [a'] := by
  simp

theorem length_adapters_call {β : Type} (b : Broker α) (place : Nat)
    (op : α → α × Except IpcError β) :
    (b.call place op).1.adapters.length = b.adapters.length := by
  unfold call
  split
  · exact List.length_set
  · rfl

theorem start_of_unfinished (hworker : b.worker.isUnfinished = true) (gateway : Nat) :
    b.start gateway = (b, .error (.startFailed "Worker thread already running")) := by
  unfold start
  rw [if_pos hworker]

variable [Adapter α]

theorem push_of_getElem? (hheld : b.held = some place) (ha : b.adapters[place]? = some a)
    (p : Push) :
    b.push p = { b with adapters := b.adapters.set place (Adapter.push p.1 p.2 a).1 } := by
  have hcall : b.push p = (b.call place (Adapter.push p.1 p.2)).1 := by
    unfold push
    rw [hheld]
  exact hcall.trans (congrArg Prod.fst (call_of_getElem? ha rfl))

/-- What every push preserves is preserved when all that was told is sent. -/
theorem tell_of_push {P : Broker α → Prop} (hpush : ∀ b p, P b → P (b.push p)) {b : Broker α}
    {told : Telling Registrar} (h : P { b with registrar := told.value }) : P (b.tell told) := by
  have hpushes (pushes : List Push) {b : Broker α} (h : P b) : P (pushes.foldl push b) := by
    induction pushes generalizing b with
    | nil => exact h
    | cons p rest ih => exact ih (hpush b p h)
  exact hpushes told.pushes h

theorem length_adapters_tell (b : Broker α) (told : Telling Registrar) :
    (b.tell told).adapters.length = b.adapters.length := by
  refine tell_of_push (P := fun b' => b'.adapters.length = b.adapters.length) ?_ rfl
  intro b' p h
  unfold push
  split
  · exact (length_adapters_call ..).trans h
  · exact h

theorem tell_of_unheld (hheld : b.held = none) (told : Telling Registrar) :
    b.tell told = { b with registrar := told.value } := by
  refine tell_of_push (P := fun b' => b' = { b with registrar := told.value }) ?_ rfl
  intro b' p h
  unfold push
  rw [h]
  dsimp only
  rw [hheld]

/-! Releasing an adapter -/

theorem deinit_of_unheld (hheld : b.held = none) : b.deinit = (b, .ok ()) := by
  unfold deinit
  rw [hheld]

theorem deinit_of_held {released : Except IpcError Unit} (hheld : b.held = some place)
    (ha : b.adapters[place]? = some a) (hdeinit : Adapter.deinit a = (a', released)) :
    b.deinit =
      ({ b with
          held := none
          adapters := b.adapters.set place a'
          deinitFailure := failureAfter b.deinitFailure released },
        released.mapError IpcError.toBrokerError) := by
  have hcall : call { b with held := none } place Adapter.deinit =
      ({ b with held := none, adapters := b.adapters.set place a' }, released) :=
    call_of_getElem? ha hdeinit
  unfold deinit
  rw [hheld]
  dsimp only
  rw [hcall]
  cases released <;> rfl

theorem conclude_of_held {released : Except IpcError Unit} (hheld : b.held = some place)
    (ha : b.adapters[place]? = some a) (hdeinit : Adapter.deinit a = (a', released))
    (result : Except BrokerError StopReason) :
    ∃ report, b.conclude result =
      { b with
        held := none
        adapters := b.adapters.set place a'
        deinitFailure := failureAfter b.deinitFailure released
        phase := .stopped
        worker := .finished report } := by
  unfold conclude
  rw [deinit_of_held hheld ha hdeinit]
  exact ⟨_, rfl⟩

/-! Building an adapter, and taking it into use -/

omit [Adapter α] in
theorem build_of_unheld (hheld : b.held = none) :
    b.build =
      { b with adapters := b.adapters ++ [b.blueprint], worker := .built b.adapters.length } := by
  unfold build
  rw [hheld]

theorem initAdapter_of_error {e : IpcError} (ha : b.adapters[place]? = some a)
    (hinit : Adapter.init a = (a', .error e)) :
    b.initAdapter place =
      abandon { b with adapters := b.adapters.set place a' } e.toBrokerError := by
  unfold initAdapter
  rw [call_of_getElem? ha hinit]

theorem initAdapter_of_ok (ha : b.adapters[place]? = some a)
    (hinit : Adapter.init a = (a', .ok ())) :
    b.initAdapter place =
      enterLoop
        { b with
          adapters := b.adapters.set place a'
          held := some place
          registrar := b.registrar.bind .broker
          phase := .initialized } := by
  unfold initAdapter
  rw [call_of_getElem? ha hinit]

theorem enterLoop_of_unheld (hheld : b.held = none) :
    b.enterLoop = { b with worker := .returned (.error .notInitialized) } := by
  unfold enterLoop
  split
  · rfl
  · next place hplace =>
    rw [hheld] at hplace
    cases hplace

theorem enterLoop_of_held {entered : Except IpcError Unit} (hheld : b.held = some place)
    (ha : b.adapters[place]? = some a) (henter : Adapter.enter a = (a', entered)) :
    b.enterLoop =
      { b with
        phase := .running
        adapters := b.adapters.set place a'
        worker := .entered place entered } := by
  have hcall : call { b with phase := .running } place Adapter.enter =
      ({ b with phase := .running, adapters := b.adapters.set place a' }, entered) :=
    call_of_getElem? ha henter
  unfold enterLoop
  split
  · next hnone =>
    rw [hheld] at hnone
    cases hnone
  · next other hother =>
    obtain rfl : place = other := Option.some.inj (hheld.symm.trans hother)
    rw [hcall]
    cases entered <;> rfl

/-! The event loop -/

theorem leaveLoop_of_none (hleave : b.adapters[place]?.bind Adapter.leave? = none) :
    b.leaveLoop place = b := by
  unfold leaveLoop
  rw [hleave]

theorem leaveLoop_of_some {reason : StopReason}
    (hleave : b.adapters[place]?.bind Adapter.leave? = some (a', reason)) :
    b.leaveLoop place =
      { b with adapters := b.adapters.set place a', worker := .returned (.ok reason) } := by
  unfold leaveLoop
  rw [hleave]

theorem signal_of_unheld (hheld : b.held = none) (htimely : b.stopTimedOut = false) :
    b.signal = (b, .error .notInitialized) := by
  unfold signal
  rw [hheld]
  dsimp only
  rw [if_neg (by rw [htimely]; decide)]

theorem signal_of_ok (hheld : b.held = some place) (ha : b.adapters[place]? = some a)
    (hstop : Adapter.stop .shutdown a = (a', .ok ())) :
    b.signal =
      ({ b with adapters := b.adapters.set place a', phase := .stopping }, .ok ()) := by
  have hcall := call_of_getElem? ha hstop
  unfold signal
  split
  · next other hother =>
    obtain rfl : place = other := Option.some.inj (hheld.symm.trans hother)
    rw [hcall]
  · next hnone =>
    rw [hheld] at hnone
    cases hnone

theorem signal_of_error {e : IpcError} (hheld : b.held = some place)
    (htimely : b.stopTimedOut = false) (ha : b.adapters[place]? = some a)
    (hstop : Adapter.stop .shutdown a = (a', .error e)) :
    b.signal =
      ({ b with adapters := b.adapters.set place a' }, .error (.stopFailed e.message)) := by
  have hcall := call_of_getElem? ha hstop
  unfold signal
  split
  · next other hother =>
    obtain rfl : place = other := Option.some.inj (hheld.symm.trans hother)
    rw [hcall]
    exact if_neg (by rw [htimely]; decide)
  · next hnone =>
    rw [hheld] at hnone
    cases hnone

theorem stop_of_unheld (hheld : b.held = none) (htimely : b.stopTimedOut = false)
    (i : Interference) : b.stop i = (b, .error .notInitialized) := by
  unfold stop
  rw [signal_of_unheld hheld htimely]

theorem stop_of_error {e : IpcError} (hheld : b.held = some place)
    (htimely : b.stopTimedOut = false) (ha : b.adapters[place]? = some a)
    (hstop : Adapter.stop .shutdown a = (a', .error e)) (i : Interference) :
    b.stop i =
      ({ b with adapters := b.adapters.set place a' }, .error (.stopFailed e.message)) := by
  unfold stop
  rw [signal_of_error hheld htimely ha hstop]

/-! The next step of a worker -/

theorem advance_starting (h : b.worker = .starting) : b.advance = b.build := by
  rw [advance, h]

theorem advance_built (h : b.worker = .built place) : b.advance = b.initAdapter place := by
  rw [advance, h]

theorem advance_looping (h : b.worker = .looping place) : b.advance = b.leaveLoop place := by
  rw [advance, h]

theorem advance_returned {result : Except BrokerError StopReason}
    (h : b.worker = .returned result) : b.advance = b.conclude result := by
  rw [advance, h]

theorem advance_of_finished (h : b.worker.isUnfinished = false) : b.advance = b := by
  unfold advance
  split
  · next hw => rw [hw] at h; cases h
  · next hw => rw [hw] at h; cases h
  · next hw => rw [hw] at h; cases h
  · next hw => rw [hw] at h; cases h
  · rfl
  · rfl
  · rfl

theorem advanceUnder_none (b : Broker α) : b.advanceUnder .none = b.advance := by
  unfold advanceUnder
  split <;> rfl

theorem advanceUnder_eq {i : Interference} (hsound : i.panicRun = false) (b : Broker α) :
    b.advanceUnder i = b ∨ b.advanceUnder i = b.advance := by
  unfold advanceUnder
  split
  · split
    · exact .inl rfl
    · exact .inr rfl
  · split
    · exact .inl rfl
    · rw [hsound]
      exact .inr rfl
  · exact .inr rfl

end Broker
end ResourceBroker
