import ResourceBroker.Proofs.Broker.Adapters
import ResourceBroker.Proofs.Recorded

/-!
Calls at any moment. Between two steps of a worker its owner may call, also between the two halves of
the step that takes an adapter into use, and a stop in which the owner waits is in two parts itself.
-/

namespace ResourceBroker

/-- A broker at a moment of its worker: `entering` is whether the worker has taken its adapter into use
and has not come to the event loop. -/
structure Moment (α : Type) where
  broker : Broker α
  entering : Bool

/-- What may come next: something that the owner does, `work` of the worker, something that is told to
applications, or a change of the adapters that were built or are to be. -/
inductive Move (α : Type) where
  | start (place : Nat)
  | signal
  | join
  | deinit
  | drop
  | work
  | tell (told : Telling Registrar)
  | transport (place : Nat) (change : α → α)
  | blueprint (change : α → α)

def Broker.adopt {α : Type} (b : Broker α) (place : Nat) : Broker α :=
  { b with held := some place, registrar := b.registrar.bind .broker, phase := .initialized }

namespace Moment

variable {α : Type} [Adapter α]

/-- The next step of the worker. Up to the moment in which the adapter is taken into use a call from
outside does not find it, so the first half of that step is one. -/
def work (m : Moment α) : Moment α :=
  if m.entering then ⟨m.broker.enterLoop, false⟩
  else
    match m.broker.worker with
    | .built place =>
      match m.broker.call place Adapter.init with
      | (b, .ok ()) => ⟨b.adopt place, true⟩
      | (b, .error e) => ⟨b.abandon e.toBrokerError, false⟩
    | _ => ⟨m.broker.advance, false⟩

def step (m : Moment (Recorded α)) : Move α → Moment (Recorded α)
  | .start place => { m with broker := (m.broker.start place).1 }
  | .signal => { m with broker := m.broker.signal.1 }
  | .join => { m with broker := m.broker.join.1 }
  | .deinit => { m with broker := m.broker.deinit.1 }
  | .drop => { m with broker := m.broker.drop }
  | .work => m.work
  | .tell told => { m with broker := m.broker.tell told }
  | .transport place change =>
    { m with broker.adapters := m.broker.adapters.modify place (·.change change) }
  | .blueprint change => { m with broker.blueprint := m.broker.blueprint.change change }

def run (moves : List (Move α)) (m : Moment (Recorded α)) : Moment (Recorded α) :=
  moves.foldl step m

def accepts (m : Moment (Recorded α)) : Move α → Bool
  | .start place => (m.broker.start place).2.isOk
  | _ => false

def starts : List (Move α) → Moment (Recorded α) → Nat
  | [], _ => 0
  | move :: rest, m => (if m.accepts move then 1 else 0) + starts rest (m.step move)

theorem run_append (first rest : List (Move α)) (m : Moment (Recorded α)) :
    m.run (first ++ rest) = (m.run first).run rest :=
  List.foldl_append

/-! Steps of the worker and stops are made of moves. -/

theorem work_of_not_built {b : Broker α} (h : ∀ place, b.worker ≠ .built place) :
    work ⟨b, false⟩ = ⟨b.advance, false⟩ := by
  unfold work
  rw [if_neg Bool.false_ne_true]
  dsimp only
  split
  · next place hw => exact absurd hw (h place)
  · rfl

theorem work_of_ok {b b' : Broker α} {place : Nat} (hw : b.worker = .built place)
    (hcall : b.call place Adapter.init = (b', .ok ())) :
    work ⟨b, false⟩ = ⟨b'.adopt place, true⟩ := by
  unfold work
  rw [if_neg Bool.false_ne_true]
  dsimp only
  rw [hw]
  dsimp only
  rw [hcall]

theorem work_of_error {b b' : Broker α} {place : Nat} {e : IpcError} (hw : b.worker = .built place)
    (hcall : b.call place Adapter.init = (b', .error e)) :
    work ⟨b, false⟩ = ⟨b'.abandon e.toBrokerError, false⟩ := by
  unfold work
  rw [if_neg Bool.false_ne_true]
  dsimp only
  rw [hw]
  dsimp only
  rw [hcall]

theorem run_advance (b : Broker (Recorded α)) :
    ∃ moves : List (Move α), run moves ⟨b, false⟩ = ⟨b.advance, false⟩ := by
  by_cases hbuilt : ∃ place, b.worker = .built place
  · obtain ⟨place, hw⟩ := hbuilt
    rw [Broker.advance_built hw]
    unfold Broker.initAdapter
    rcases hcall : b.call place Adapter.init with ⟨b', result⟩
    cases result with
    | error e => exact ⟨[.work], work_of_error hw hcall⟩
    | ok _ => exact ⟨[.work, .work], congrArg work (work_of_ok hw hcall)⟩
  · exact ⟨[.work], work_of_not_built fun place hw => hbuilt ⟨place, hw⟩⟩

theorem run_settle (b : Broker (Recorded α)) {i : Interference} (hsound : i.panicRun = false) :
    ∃ moves : List (Move α), run moves ⟨b, false⟩ = ⟨b.settle i, false⟩ := by
  have hstep {b b' : Broker (Recorded α)}
      (h : ∃ moves : List (Move α), run moves ⟨b, false⟩ = ⟨b', false⟩) :
      ∃ moves : List (Move α), run moves ⟨b, false⟩ = ⟨b'.advanceUnder i, false⟩ := by
    obtain ⟨first, hfirst⟩ := h
    obtain hsame | hadvance := Broker.advanceUnder_eq hsound b'
    · rw [hsame]
      exact ⟨first, hfirst⟩
    · obtain ⟨next, hnext⟩ := run_advance (α := α) b'
      exact ⟨first ++ next, by rw [run_append, hfirst, hnext, hadvance]⟩
  exact hstep (hstep (hstep (hstep ⟨[], rfl⟩)))

theorem run_stop (b : Broker (Recorded α)) {i : Interference} (hsound : i.panicRun = false) :
    ∃ moves : List (Move α), run moves ⟨b, false⟩ = ⟨(b.stop i).1, false⟩ := by
  unfold Broker.stop
  have hsignal : run [(.signal : Move α)] ⟨b, false⟩ = ⟨b.signal.1, false⟩ := rfl
  rcases hresult : b.signal with ⟨b', result⟩
  rw [hresult] at hsignal
  cases result with
  | error e => exact ⟨[.signal], hsignal⟩
  | ok _ =>
    obtain ⟨moves, hmoves⟩ := run_settle b' hsound
    refine ⟨[.signal] ++ (moves ++ [.join]), ?_⟩
    rw [run_append, hsignal, run_append, hmoves]
    rfl

end Moment
end ResourceBroker
