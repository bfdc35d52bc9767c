import ResourceBroker.Broker.Lifecycle
import ResourceBroker.Proofs.Registrar

/-!
What the life of the broker means for its registrar. Of all that a worker does, the registrar notices
one step: when an adapter is taken into use, the outcomes of the gateway become the broker's own.
Stopping a broker leaves the registrar as it is, since a worker that can be stopped has done that step
or will not do it.
-/

namespace ResourceBroker

def Worker.isPastInit : Worker → Bool
  | .starting | .built _ => false
  | _ => true

namespace Broker

variable {α : Type}

theorem call_frame {β : Type} (b : Broker α) (place : Nat) (op : α → α × Except IpcError β) :
    ∃ adapters result, b.call place op = ({ b with adapters := adapters }, result) := by
  unfold call
  split
  · exact ⟨_, _, rfl⟩
  · exact ⟨b.adapters, _, rfl⟩

theorem registrar_build (b : Broker α) : b.build.registrar = b.registrar := by
  unfold build
  split <;> rfl

theorem start_frame (b : Broker α) (place : Nat) :
    (b.start place).1 = b ∨ b.worker.isUnfinished = false ∧ (b.start place).1 =
      { b with
        registrar := b.registrar.attach place
        stopTimedOut := false, deinitFailure := none, phase := .started, worker := .starting } := by
  unfold start
  cases h : b.worker.isUnfinished
  · exact .inr ⟨rfl, rfl⟩
  · exact .inl rfl

/-- What becomes of the registrar, and whether a stop has timed out, when a worker goes on that has
made its attempt to take an adapter into use. -/
structure Settled (b b' : Broker α) : Prop where
  registrar : b'.registrar = b.registrar
  stopTimedOut : b'.stopTimedOut = b.stopTimedOut
  past : b'.worker.isPastInit = true

theorem Settled.trans {b b' b'' : Broker α} (h : Settled b b') (h' : Settled b' b'') :
    Settled b b'' :=
  ⟨h'.registrar.trans h.registrar, h'.stopTimedOut.trans h.stopTimedOut, h'.past⟩

/-- A worker on its way to an adapter has a gateway attached, no stop that has timed out, and no
adapter in use once it has built its own. -/
def Orderly (b : Broker α) : Prop :=
  b.worker.isPastInit = false →
    b.registrar.attached.isSome = true ∧ b.stopTimedOut = false ∧
      ∀ place, b.worker = .built place → b.held = none

theorem Orderly.of_isPastInit {b : Broker α} (h : b.worker.isPastInit = true) : Orderly b := by
  intro hnot
  rw [h] at hnot
  cases hnot

variable [Adapter α]

theorem push_frame (b : Broker α) (p : Push) :
    ∃ adapters, b.push p = { b with adapters := adapters } := by
  unfold push
  split
  · next place _ =>
    obtain ⟨adapters, result, h⟩ := call_frame b place (Adapter.push p.1 p.2)
    exact ⟨adapters, by rw [h]⟩
  · exact ⟨b.adapters, rfl⟩

theorem foldl_push_frame (pushes : List Push) (b : Broker α) :
    ∃ adapters, pushes.foldl push b = { b with adapters := adapters } := by
  induction pushes generalizing b with
  | nil => exact ⟨b.adapters, rfl⟩
  | cons p rest ih =>
    obtain ⟨first, hfirst⟩ := push_frame b p
    obtain ⟨adapters, hrest⟩ := ih (b.push p)
    refine ⟨adapters, ?_⟩
    rw [List.foldl_cons, hrest, hfirst]

theorem tell_frame (b : Broker α) (told : Telling Registrar) :
    ∃ adapters, b.tell told = { b with registrar := told.value, adapters := adapters } :=
  foldl_push_frame told.pushes { b with registrar := told.value }

@[simp] theorem registrar_tell (b : Broker α) (told : Telling Registrar) :
    (b.tell told).registrar = told.value := by
  obtain ⟨adapters, h⟩ := tell_frame b told
  rw [h]

theorem deinit_frame (b : Broker α) :
    ∃ adapters failure result, b.deinit =
      ({ b with adapters := adapters, held := none, deinitFailure := failure }, result) := by
  unfold deinit
  split
  · next hheld => exact ⟨b.adapters, b.deinitFailure, _, by rw [← hheld]⟩
  · next place _ =>
    obtain ⟨adapters, result, h⟩ := call_frame { b with held := none } place Adapter.deinit
    rw [h]
    cases result with
    | ok _ => exact ⟨adapters, _, _, rfl⟩
    | error e => exact ⟨adapters, _, _, rfl⟩

/-! One step of the worker -/

def takesOver (i : Interference) (b : Broker α) : Bool :=
  match b.worker with
  | .built place => !i.holdInit && (b.call place Adapter.init).2.isOk
  | _ => false

theorem Orderly.attached_of_takesOver {b : Broker α} (h : Orderly b) {i : Interference}
    (htaken : b.takesOver i = true) : b.registrar.attached.isSome = true := by
  unfold takesOver at htaken
  split at htaken
  · next place hw =>
    have hnot : b.worker.isPastInit = false := by rw [hw]; rfl
    exact (h hnot).1
  · cases htaken

theorem enterLoop_frame (b : Broker α) :
    ∃ phase adapters worker, worker.isPastInit = true ∧
      b.enterLoop = { b with phase := phase, adapters := adapters, worker := worker } := by
  unfold enterLoop
  split
  · exact ⟨b.phase, b.adapters, _, rfl, rfl⟩
  · next place _ =>
    obtain ⟨adapters, result, h⟩ := call_frame { b with phase := .running } place Adapter.enter
    rw [h]
    cases result with
    | ok _ => exact ⟨_, adapters, _, rfl, rfl⟩
    | error e => exact ⟨_, adapters, _, rfl, rfl⟩

/-- An adapter that fails to initialise is not taken into use; one that does not fail is, whatever
its event loop does then. -/
theorem initAdapter_frame (b : Broker α) (place : Nat) :
    ∃ phase adapters held worker, worker.isPastInit = true ∧
      b.initAdapter place =
        { b with
          registrar :=
            if (b.call place Adapter.init).2.isOk then b.registrar.bind .broker else b.registrar
          phase := phase, adapters := adapters, held := held, worker := worker } := by
  unfold initAdapter
  obtain ⟨adapters, result, h⟩ := call_frame b place Adapter.init
  rw [h]
  cases result with
  | error e => exact ⟨_, adapters, b.held, _, rfl, rfl⟩
  | ok _ =>
    obtain ⟨phase, entered, worker, hpast, henter⟩ := enterLoop_frame
      { b with
        adapters := adapters
        held := some place
        registrar := b.registrar.bind .broker
        phase := .initialized }
    exact ⟨phase, entered, some place, worker, hpast, henter⟩

theorem leaveLoop_frame (b : Broker α) (place : Nat) :
    b.leaveLoop place = b ∨ ∃ adapters reason,
      b.leaveLoop place = { b with adapters := adapters, worker := .returned (.ok reason) } := by
  unfold leaveLoop
  split
  · exact .inr ⟨_, _, rfl⟩
  · exact .inl rfl

theorem conclude_frame (b : Broker α) (result : Except BrokerError StopReason) :
    ∃ adapters failure report, b.conclude result =
      { b with
        phase := .stopped, adapters := adapters, held := none, deinitFailure := failure
        worker := .finished report } := by
  obtain ⟨adapters, failure, released, h⟩ := deinit_frame b
  unfold conclude
  rw [h]
  exact ⟨adapters, failure, _, rfl⟩

theorem advance_of_isPastInit {b : Broker α} (h : b.worker.isPastInit = true) :
    Settled b b.advance := by
  unfold advance
  split
  · next hw => rw [hw] at h; cases h
  · next hw => rw [hw] at h; cases h
  · next place hw =>
    obtain hleave | ⟨adapters, reason, hleave⟩ := leaveLoop_frame b place
    · rw [hleave]; exact ⟨rfl, rfl, h⟩
    · rw [hleave]; exact ⟨rfl, rfl, rfl⟩
  · next result _ =>
    obtain ⟨adapters, failure, report, hconclude⟩ := conclude_frame b result
    rw [hconclude]
    exact ⟨rfl, rfl, rfl⟩
  · exact ⟨rfl, rfl, h⟩
  · exact ⟨rfl, rfl, h⟩
  · exact ⟨rfl, rfl, h⟩

theorem advanceUnder_of_isPastInit (i : Interference) {b : Broker α}
    (h : b.worker.isPastInit = true) : Settled b (b.advanceUnder i) := by
  unfold advanceUnder
  split
  · next hw => rw [hw] at h; cases h
  · split
    · exact ⟨rfl, rfl, h⟩
    · split
      · exact ⟨rfl, rfl, rfl⟩
      · exact advance_of_isPastInit h
  · exact advance_of_isPastInit h

theorem registrar_advanceUnder (i : Interference) (b : Broker α) :
    (b.advanceUnder i).registrar =
      if b.takesOver i then b.registrar.bind .broker else b.registrar := by
  cases hw : b.worker with
  | built place =>
    obtain ⟨phase, adapters, held, worker, _, h⟩ := initAdapter_frame b place
    cases hhold : i.holdInit
    · simp [advanceUnder, advance, takesOver, hw, hhold, h]
    · simp [advanceUnder, takesOver, hw, hhold]
  | starting =>
    have h := registrar_build b
    simp [advanceUnder, advance, takesOver, hw, h]
  | absent | looping _ | returned _ | finished _ | panicked =>
    have hpast : b.worker.isPastInit = true := by rw [hw]; rfl
    have hover : b.takesOver i = false := by simp [takesOver, hw]
    rw [(advanceUnder_of_isPastInit i hpast).registrar, hover]
    rfl

/-! Stopping -/

theorem Orderly.advanceUnder (i : Interference) {b : Broker α} (h : Orderly b) :
    Orderly (b.advanceUnder i) := by
  cases hw : b.worker with
  | built place =>
    obtain ⟨phase, adapters, held, worker, hpast, hinit⟩ := initAdapter_frame b place
    cases hhold : i.holdInit
    · have hstep : b.advanceUnder i = b.initAdapter place := by
        simp [Broker.advanceUnder, advance, hw, hhold]
      rw [hstep, hinit]
      exact .of_isPastInit hpast
    · have hstep : b.advanceUnder i = b := by
        simp [Broker.advanceUnder, hw, hhold]
      rw [hstep]
      exact h
  | starting =>
    have hstep : b.advanceUnder i = b.build := by
      simp [Broker.advanceUnder, advance, hw]
    have hnot : b.worker.isPastInit = false := by rw [hw]; rfl
    obtain ⟨hattached, htimed, -⟩ := h hnot
    rw [hstep]
    unfold build
    split
    · exact .of_isPastInit rfl
    · next hheld =>
      intro _
      exact ⟨hattached, htimed, fun _ _ => hheld⟩
  | absent | looping _ | returned _ | finished _ | panicked =>
    have hpast : b.worker.isPastInit = true := by rw [hw]; rfl
    exact .of_isPastInit (advanceUnder_of_isPastInit i hpast).past

theorem Settled.advanceUnder (i : Interference) {b b' : Broker α} (h : Settled b b') :
    Settled b (b'.advanceUnder i) :=
  h.trans (advanceUnder_of_isPastInit i h.past)

/-- A worker that a stop can reach gives up if it has not built its adapter yet: there is one in use
already. -/
theorem settle_of_signalled (i : Interference) {b : Broker α} (h : Orderly b)
    (hsignalled : b.held.isSome = true ∨ b.stopTimedOut = true) : Settled b (b.settle i) := by
  -- The first step decides; from there on the worker is past its attempt.
  have hfirst : Settled b (b.advanceUnder i) := by
    cases hw : b.worker with
    | starting =>
      have hnot : b.worker.isPastInit = false := by rw [hw]; rfl
      obtain ⟨-, htimed, -⟩ := h hnot
      have hstep : b.advanceUnder i = b.build := by
        simp [Broker.advanceUnder, advance, hw]
      rw [hstep]
      unfold build
      split
      · exact ⟨rfl, rfl, rfl⟩
      · next hheld => simp [hheld, htimed] at hsignalled
    | built place =>
      have hnot : b.worker.isPastInit = false := by rw [hw]; rfl
      obtain ⟨-, htimed, hheld⟩ := h hnot
      simp [hheld place hw, htimed] at hsignalled
    | absent | looping _ | returned _ | finished _ | panicked =>
      have hpast : b.worker.isPastInit = true := by rw [hw]; rfl
      exact advanceUnder_of_isPastInit i hpast
  exact ((hfirst.advanceUnder i).advanceUnder i).advanceUnder i

theorem signal_frame (b : Broker α) :
    ∃ phase adapters result,
      b.signal = ({ b with phase := phase, adapters := adapters }, result) ∧
        (result = .ok () → b.held.isSome = true ∨ b.stopTimedOut = true) := by
  unfold signal
  split
  · next place hheld =>
    have hsome : b.held.isSome = true := by rw [hheld]; rfl
    obtain ⟨adapters, result, h⟩ := call_frame b place (Adapter.stop .shutdown)
    rw [h]
    cases result with
    | ok _ => exact ⟨_, adapters, _, rfl, fun _ => .inl hsome⟩
    | error e =>
      dsimp only
      split
      · exact ⟨_, adapters, _, rfl, fun _ => .inl hsome⟩
      · exact ⟨_, adapters, _, rfl, fun _ => .inl hsome⟩
  · split
    · next htimed => exact ⟨b.phase, b.adapters, _, rfl, fun _ => .inr htimed⟩
    · exact ⟨b.phase, b.adapters, _, rfl, fun h => by cases h⟩

theorem join_of_isPastInit {b : Broker α} (h : b.worker.isPastInit = true) :
    b.join.1.registrar = b.registrar ∧ b.join.1.worker.isPastInit = true := by
  unfold join
  split
  · exact ⟨rfl, h⟩
  · split
    · exact ⟨rfl, rfl⟩
    · obtain ⟨adapters, failure, result, hdeinit⟩ :=
        deinit_frame { b with stopTimedOut := false, worker := .absent }
      unfold release
      dsimp only at hdeinit ⊢
      rw [hdeinit]
      exact ⟨rfl, rfl⟩

theorem Orderly.stop (i : Interference) {b : Broker α} (h : Orderly b) :
    (b.stop i).1.registrar = b.registrar ∧ Orderly (b.stop i).1 := by
  obtain ⟨phase, adapters, result, hsignal, hreached⟩ := signal_frame b
  unfold Broker.stop
  rw [hsignal]
  cases result with
  | error e => exact ⟨rfl, h⟩
  | ok _ =>
    have hordered : Orderly { b with phase := phase, adapters := adapters } := h
    have hsettled := settle_of_signalled i hordered (hreached rfl)
    obtain ⟨hregistrar, hpast⟩ := join_of_isPastInit hsettled.past
    exact ⟨hregistrar.trans hsettled.registrar, .of_isPastInit hpast⟩

end Broker
end ResourceBroker
