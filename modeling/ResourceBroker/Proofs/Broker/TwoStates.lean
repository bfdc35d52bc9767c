import ResourceBroker.Proofs.Broker.Admission
import ResourceBroker.Proofs.Broker.Cycle

/-!
The broker as its owner sees it, call by call. Between two calls anything may happen to adapters, to
those built and to those that are to be, and applications and gateways may do what they like.
-/

namespace ResourceBroker

def Action.isStart {α : Type} : Action α → Bool
  | .start _ => true
  | _ => false

variable {α : Type} [Adapter α]

/-- The worker does not crash, a stop does not wait in vain, and an adapter is not released while its
event loop runs. -/
def Action.Proper (b : Broker α) : Action α → Prop
  | .stop i => i.panicRun = false ∧ (b.stop i).2 ≠ .error (.stopTimeout b.stopTimeout)
  | .advance i => i.panicRun = false
  | .deinit => ∀ place, b.worker ≠ .looping place
  | _ => True

namespace Broker

structure InOrder (started : Bool) (b : Broker α) : Prop where
  timely : b.stopTimedOut = false
  standing : b.Standing started

namespace InOrder

variable {b : Broker α} {started : Bool}

theorem tell (h : b.InOrder started) (told : Telling Registrar) :
    (b.tell told).InOrder started := by
  have hlength := length_adapters_tell b told
  obtain ⟨adapters, htell⟩ := tell_frame b told
  rw [htell] at hlength ⊢
  exact ⟨h.timely, h.standing.congr rfl rfl rfl rfl hlength⟩

omit [Adapter α] in
theorem start (h : b.InOrder started) (place : Nat) : (b.start place).1.InOrder true := by
  cases hworker : b.worker.isUnfinished with
  | true =>
    obtain rfl := h.standing.begun hworker
    rw [start_of_unfinished hworker]
    exact h
  | false =>
    have hdown : b.Down := h.standing.down_of_finished hworker
    rw [hdown.start]
    exact ⟨rfl, .starting rfl hdown.held rfl⟩

theorem stop (h : b.InOrder started) {i : Interference} (hproper : (Action.stop i).Proper b) :
    (b.stop i).1.InOrder started := by
  cases hheld : b.held with
  | none =>
    rw [stop_of_unheld hheld h.timely]
    exact h
  | some place =>
    obtain ⟨rfl, hinUse, -⟩ := h.standing.inUse hheld
    obtain ⟨a, ha⟩ := hinUse.exists_adapter
    rcases hstop : Adapter.stop .shutdown a with ⟨a', accepted⟩
    cases accepted with
    | error e =>
      rw [stop_of_error hheld h.timely ha hstop]
      exact ⟨h.timely, h.standing.congr rfl rfl rfl rfl List.length_set⟩
    | ok _ =>
      obtain htimeout | ⟨_, _, _, -, -, hstopped⟩ := hinUse.stop hproper.1 ha hstop
      · exact absurd htimeout hproper.2
      · rw [hstopped]
        exact ⟨rfl, .down true rfl rfl rfl⟩

theorem deinit (h : b.InOrder started) (hproper : (Action.deinit).Proper b) :
    b.deinit.1.InOrder started := by
  cases hheld : b.held with
  | none =>
    rw [deinit_of_unheld hheld]
    exact h
  | some place =>
    obtain ⟨rfl, hinUse, -⟩ := h.standing.inUse hheld
    obtain hworker | ⟨result, hworker⟩ := hinUse.worker
    · exact absurd hworker (hproper place)
    · obtain ⟨a, ha⟩ := hinUse.exists_adapter
      rcases hdeinit : Adapter.deinit a with ⟨a', released⟩
      rw [deinit_of_held hheld ha hdeinit]
      exact ⟨h.timely, .released result hworker rfl⟩

theorem advance (h : b.InOrder started) : b.advance.InOrder started := by
  refine ⟨?_, h.standing.advance⟩
  cases hw : b.worker with
  | starting =>
    rw [advance_starting hw]
    unfold build
    split <;> exact h.timely
  | built place =>
    obtain ⟨phase, adapters, held, after, -, hinit⟩ := initAdapter_frame b place
    rw [advance_built hw, hinit]
    exact h.timely
  | absent | looping _ | returned _ | finished _ | panicked =>
    have hpast : b.worker.isPastInit = true := by rw [hw]; rfl
    exact (advance_of_isPastInit hpast).stopTimedOut.trans h.timely

theorem step (h : b.InOrder started) {a : Action α} (hproper : a.Proper b) :
    (a.step b).InOrder (started || a.isStart) := by
  have hother {b' : Broker α} (h' : b'.InOrder started) : b'.InOrder (started || false) := by
    rwa [Bool.or_false]
  cases a with
  | start place =>
    rw [Action.isStart, Bool.or_true]
    exact h.start place
  | stop i => exact hother (h.stop hproper)
  | deinit => exact hother (h.deinit hproper)
  | advance i =>
    apply hother
    obtain hsame | hadvance := advanceUnder_eq hproper b
    · rw [Action.step, hsame]
      exact h
    · rw [Action.step, hadvance]
      exact h.advance
  | transport place change =>
    exact hother ⟨h.timely, h.standing.congr rfl rfl rfl rfl (List.length_modify ..)⟩
  | register connection definition during =>
    rw [step_register]
    exact hother (h.tell _)
  | fire firing => exact hother (h.tell _)
  | unsupported call =>
    rw [Action.step, unsupported_frame]
    exact hother h
  | blueprint _ | script _ _ _ | connectionClosed _ =>
    exact hother ⟨h.timely, h.standing.congr rfl rfl rfl rfl rfl⟩

theorem run (h : b.InOrder started) {actions : List (Action α)}
    (hproper : b.Throughout Action.Proper actions) :
    (b.run actions).InOrder (started || actions.any Action.isStart) := by
  induction actions generalizing b started with
  | nil =>
    rw [List.any_nil, Bool.or_false]
    exact h
  | cons a rest ih =>
    rw [List.any_cons, ← Bool.or_assoc]
    exact ih (h.step hproper.1) hproper.2

/-! What the calls of the owner come to -/

omit [Adapter α] in
theorem phase_up (h : b.InOrder started) (hup : b.Up) : b.phase = .running := by
  obtain ⟨place, hheld⟩ := Option.isSome_iff_exists.mp hup.held
  exact (h.standing.inUse hheld).2.2

omit [Adapter α] in
theorem start_refused (h : b.InOrder started) (hnot : ¬ b.Down) (place : Nat) :
    b.start place = (b, .error (.startFailed "Worker thread already running")) := by
  cases hworker : b.worker.isUnfinished with
  | true => exact start_of_unfinished hworker place
  | false => exact absurd (h.standing.down_of_finished hworker) hnot

theorem stop_refused (h : b.InOrder started) (hnot : ¬ b.Up) (i : Interference) :
    b.stop i = (b, .error .notInitialized) := by
  cases hheld : b.held with
  | none => exact stop_of_unheld hheld h.timely i
  | some place => exact absurd (h.standing.inUse hheld).2.1.up hnot

theorem stopped (h : b.InOrder started) {place : Nat} {a a' : α} (hheld : b.held = some place)
    (ha : b.adapters[place]? = some a) (hstop : Adapter.stop .shutdown a = (a', .ok ()))
    {i : Interference} (hproper : (Action.stop i).Proper b) :
    Stopped b place a' (b.stop i) ∧ (b.stop i).1.Down := by
  obtain htimeout | hstopped := (h.standing.inUse hheld).2.1.stop hproper.1 ha hstop
  · exact absurd htimeout hproper.2
  · refine ⟨hstopped, ?_⟩
    obtain ⟨_, _, _, -, -, hstop⟩ := hstopped
    rw [hstop]
    exact ⟨rfl, rfl⟩

theorem ends (h : b.InOrder started) (hup : b.Up) (hends : b.advance ≠ b) :
    (b.settle .none).Down := by
  obtain ⟨place, hheld⟩ := Option.isSome_iff_exists.mp hup.held
  have hinUse := (h.standing.inUse hheld).2.1
  obtain ⟨a, ha⟩ := hinUse.exists_adapter
  have hleaving := Leaving.running.settle (i := .none) rfl hinUse ha
  exact hleaving.down_of_rests hends (advance_settle_none b)

end InOrder

/-- A broker with two states, down and up, and what takes it from one to the other; `started` is
whether there was a start before. A call at a moment when it is neither, with a worker that has no
adapter in use, changes nothing. -/
structure TwoStates (started : Bool) (b : Broker α) : Prop where
  /-- Left alone, the broker comes to rest, and at rest it is in one of the two. -/
  comes_to_rest : (b.settle .none).advance = b.settle .none
  rests : b.advance = b → b.Down ∨ b.Up
  settles : (b.settle .none).Down ∨ (b.settle .none).Up
  phase_down : b.Down → b.phase = if started then .stopped else .created
  phase_up : b.Up → b.phase = .running
  /-- A start builds an adapter from the blueprint, and that adapter decides. -/
  start_down : b.Down → ∀ place, (b.start place).2 = .ok () ∧
    (∃ a, ((b.start place).1.settle .none).adapters = b.adapters ++ [a]) ∧
    ((b.start place).1.settle .none).registrar.attached = some place ∧
    (((b.start place).1.settle .none).Up ↔ ComesUp b.blueprint) ∧
    (((b.start place).1.settle .none).Down ↔ ¬ ComesUp b.blueprint)
  start_refused : ¬ b.Down → ∀ place,
    b.start place = (b, .error (.startFailed "Worker thread already running"))
  stop_refused : ¬ b.Up → ∀ i, b.stop i = (b, .error .notInitialized)
  /-- A signal that fails is noticed by nobody but the adapter. -/
  signal_failed : ∀ place a a' e, b.held = some place → b.adapters[place]? = some a →
    Adapter.stop .shutdown a = (a', .error e) → ∀ i,
    b.stop i =
      ({ b with adapters := b.adapters.set place a' }, .error (.stopFailed e.message))
  stopped : ∀ place a a', b.held = some place → b.adapters[place]? = some a →
    Adapter.stop .shutdown a = (a', .ok ()) → ∀ i, (Action.stop i).Proper b →
    Stopped b place a' (b.stop i) ∧ (b.stop i).1.Down
  deinit_down : b.Down → b.deinit = (b, .ok ())
  /-- An event loop that ends by itself takes the broker down. -/
  ends : b.Up → b.advance ≠ b → (b.settle .none).Down

theorem InOrder.twoStates {b : Broker α} {started : Bool} (h : b.InOrder started) :
    b.TwoStates started := by
  have hsettled : (b.settle .none).Standing started := by
    rw [settle_none]
    exact h.standing.advance.advance.advance.advance
  constructor
  · exact advance_settle_none b
  · exact h.standing.rests
  · exact hsettled.rests (advance_settle_none b)
  · exact h.standing.phase_of_down
  · exact h.phase_up
  · intro hdown place
    have hlaunched := hdown.launched place
    refine ⟨by rw [hdown.start], hlaunched.adapters, hlaunched.attached, ⟨fun hup => ?_, hlaunched.up⟩,
      ⟨fun hdown' hcomesUp => ?_, hlaunched.down⟩⟩
    · exact Classical.byContradiction fun hfails => hup.not_down (hlaunched.down hfails)
    · exact (hlaunched.up hcomesUp).not_down hdown'
  · exact h.start_refused
  · exact h.stop_refused
  · intro place a a' e hheld ha hstop i
    exact stop_of_error hheld h.timely ha hstop i
  · intro place a a' hheld ha hstop i hproper
    exact h.stopped hheld ha hstop hproper
  · intro hdown
    exact deinit_of_unheld hdown.held
  · exact h.ends

/-- The life of a broker is one of the machine with two states, whatever its owner does and whatever
fails, at every moment of every run. -/
theorem two_states (blueprint : α) (stopTimeout : Duration) (registrar : Registrar)
    (actions : List (Action α)) :
    let fresh := Broker.new blueprint stopTimeout registrar
    fresh.Throughout Action.Proper actions →
      TwoStates (actions.any Action.isStart) (fresh.run actions) := by
  intro fresh hproper
  have hfresh : fresh.InOrder false := ⟨rfl, .down false rfl rfl rfl⟩
  exact (hfresh.run hproper).twoStates

theorem two_states_sample :
    let broken (a : ScriptedAdapter) : ScriptedAdapter :=
      { a with faults := { a.faults with deinit := true }, stopReason := some .shutdown }
    let actions : List (Action ScriptedAdapter) :=
      [.start 0, .advance .none, .advance .none, .transport 0 broken, .advance .none, .advance .none,
        .stop .none, .start 0, .advance .none, .advance .none, .start 1]
    sample.Throughout Action.Proper actions ∧
      (sample.run (actions.take 7)).deinitFailure.isSome = true ∧
      ((sample.run actions).stop .none).2 = .ok () ∧
      TwoStates true (sample.run actions) := by
  intro broken actions
  have hintime : ((sample.run (actions.take 6)).stop .none).2 ≠
      .error (.stopTimeout (sample.run (actions.take 6)).stopTimeout) := by decide +kernel
  have hproper : sample.Throughout Action.Proper actions :=
    ⟨trivial, rfl, rfl, trivial, rfl, rfl, ⟨rfl, hintime⟩, trivial, rfl, rfl, trivial, trivial⟩
  have hstale : (sample.run (actions.take 7)).deinitFailure.isSome = true := by decide +kernel
  have hreply : ((sample.run actions).stop .none).2 = .ok () := by decide +kernel
  have hstarted : actions.any Action.isStart = true := rfl
  clear_value actions
  have htwo := two_states (ScriptedAdapter.new .none) (.ofMilliseconds 5000)
    (.new (fun _ => .scripted) .unary) actions hproper
  rw [hstarted] at htwo
  exact ⟨hproper, hstale, hreply, htwo⟩

end Broker
end ResourceBroker
