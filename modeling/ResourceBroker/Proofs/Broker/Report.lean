import ResourceBroker.Adapter.Scripted
import ResourceBroker.Proofs.Broker.Cycle
import ResourceBroker.Proofs.Broker.Ledger
import ResourceBroker.Proofs.Latch

/-!
What a worker reports in the end. It hears of its adapter when a call comes back to it: that the
adapter is initialised, that its event loop is over, that it is released. The first of these that
brought an error decides, whatever the owner of the broker does in the meantime.
-/

namespace ResourceBroker

namespace Worker

inductive Return where
  | init (result : Except BrokerError Unit)
  | run (result : Except BrokerError StopReason)
  | release (result : Except BrokerError Unit)

/-- What the release of the adapter that was built last brought to its worker. If somebody was
first, there is nothing left to do, and nothing that can fail. -/
inductive Released (records : List Record) : Except BrokerError Unit → Prop where
  | byWorker (earlier : List Record) (result : Except IpcError Unit)
      (last : records = earlier ++ [⟨[.ok ()], [result]⟩]) :
      Released records (result.mapError IpcError.toBrokerError)
  | before (earlier : List Record) (result : Except IpcError Unit)
      (last : records = earlier ++ [⟨[.ok ()], [result]⟩]) : Released records (.ok ())

/-- The report of a worker, beside what its calls have brought. An adapter that fails to initialise
is neither run nor released; one that does not fail is run, and released however that went. -/
inductive Report (records : List Record) : List Return → Except BrokerError Unit → Prop where
  | notInitialised (earlier : List Record) (e : IpcError)
      (last : records = earlier ++ [⟨[.error e], []⟩]) :
      Report records [.init (.error e.toBrokerError)] (.error e.toBrokerError)
  | runFailed (e : BrokerError) (result : Except BrokerError Unit)
      (released : Released records result) :
      Report records [.init (.ok ()), .run (.error e), .release result] (.error e)
  | ran (reason : StopReason) (result : Except BrokerError Unit)
      (released : Released records result) :
      Report records [.init (.ok ()), .run (.ok reason), .release result] result

/-- How far a worker is, and what it has heard. -/
inductive Hearing (records : List Record) (phase : Phase) :
    Bool → Worker → List Return → Prop where
  | absent (heard : List Return) : Hearing records phase false .absent heard
  | starting : Hearing records phase false .starting []
  | built (place : Nat) : Hearing records phase false (.built place) []
  | entering (place : Nat) : Hearing records phase true (.built place) [.init (.ok ())]
  | looping (place : Nat) : Hearing records phase false (.looping place) [.init (.ok ())]
  | returned (result : Except BrokerError StopReason) :
      Hearing records phase false (.returned result) [.init (.ok ()), .run result]
  | finished {heard : List Return} {result : Except BrokerError Unit} (stopped : phase = .stopped)
      (report : Report records heard result) : Hearing records phase false (.finished result) heard

section Hearing

variable {records records' : List Record} {phase phase' : Phase} {entering : Bool} {worker : Worker}
  {heard : List Return}

theorem Hearing.congr (h : Hearing records phase entering worker heard)
    (hfinished : worker.isUnfinished = false → records' = records ∧ phase' = phase) :
    Hearing records' phase' entering worker heard := by
  cases h with
  | absent => exact .absent heard
  | starting => exact .starting
  | built place => exact .built place
  | entering place => exact .entering place
  | looping place => exact .looping place
  | returned result => exact .returned result
  | finished stopped report =>
    obtain ⟨rfl, rfl⟩ := hfinished rfl
    exact .finished stopped report

theorem Hearing.of_starting (h : Hearing records phase entering .starting heard) : heard = [] := by
  cases h
  rfl

theorem Hearing.of_built {place : Nat} (h : Hearing records phase false (.built place) heard) :
    heard = [] := by
  cases h
  rfl

theorem Hearing.of_entering (h : Hearing records phase true worker heard) :
    heard = [.init (.ok ())] := by
  cases h
  rfl

theorem Hearing.of_looping {place : Nat}
    (h : Hearing records phase entering (.looping place) heard) : heard = [.init (.ok ())] := by
  cases h
  rfl

theorem Hearing.of_returned {result : Except BrokerError StopReason}
    (h : Hearing records phase entering (.returned result) heard) :
    heard = [.init (.ok ()), .run result] := by
  cases h
  rfl

theorem Hearing.of_finished {result : Except BrokerError Unit}
    (h : Hearing records phase entering (.finished result) heard) :
    phase = .stopped ∧ Report records heard result := by
  cases h with
  | finished stopped report => exact ⟨stopped, report⟩

end Hearing
end Worker

namespace Broker

variable {α : Type} [Adapter α] {b : Broker α}

theorem conclude_eq (b : Broker α) (result : Except BrokerError StopReason) :
    b.conclude result =
      { b.deinit.1 with
        phase := .stopped
        worker := .finished (result.bind fun _ => b.deinit.2) } := by
  rw [← Latch.toResult_record_record result b.deinit.2]
  rfl

theorem signal_unheld (hheld : b.held = none) : b.signal.1 = b := by
  unfold signal
  rw [hheld]
  dsimp only
  split <;> rfl

theorem drop_unheld (hheld : b.held = none) : b.drop = b := by
  unfold drop
  rw [hheld]

end Broker

namespace Moment

variable {α : Type}

/-! The adapter of a worker -/

section

variable {accepted place : Nat} {b : Broker (Recorded α)} {entering : Bool}

theorem Kept.ledger_at {worker : Worker} (h : Kept accepted ⟨b, entering⟩)
    (hw : b.worker = worker) : Ledger b.records b.held entering worker := by
  rw [← hw]
  exact h.ledger

theorem Kept.exists_held (h : Kept accepted ⟨b, entering⟩) (hheld : b.held = some place) :
    ∃ a, b.adapters[place]? = some a := by
  have hledger := h.ledger
  rw [hheld] at hledger
  obtain ⟨earlier, -, hlast, rfl, -⟩ := hledger.of_held
  obtain ⟨a, ha, -⟩ := Broker.exists_last hlast
  exact ⟨a, ha⟩

theorem Kept.exists_built (h : Kept accepted ⟨b, false⟩) (hw : b.worker = .built place) :
    ∃ a, b.adapters[place]? = some a := by
  obtain ⟨earlier, -, hlast, rfl, -⟩ := (h.ledger_at hw).of_built
  obtain ⟨a, ha, -⟩ := Broker.exists_last hlast
  exact ⟨a, ha⟩

theorem Kept.exists_looping (h : Kept accepted ⟨b, entering⟩) (hw : b.worker = .looping place) :
    ∃ a, b.adapters[place]? = some a := by
  cases h.ledger_at hw with
  | inUse earlier _ last _ busy | released earlier _ _ last _ busy =>
    cases busy
    obtain ⟨a, ha, -⟩ := Broker.exists_last last
    exact ⟨a, ha⟩
  | idle _ _ _ exited => cases exited
  | starting _ _ _ start | built _ _ _ _ _ start => cases start

end

/-! What a worker hears -/

def returns [Adapter α] (m : Moment α) : List Worker.Return :=
  if m.entering then
    match m.broker.held with
    | none => [.run (.error .notInitialized)]
    | some place =>
      match (m.broker.call place Adapter.enter).2 with
      | .error e => [.run (.error e.toBrokerError)]
      | .ok _ => []
  else
    match m.broker.worker with
    | .starting => if m.broker.held.isSome then [.init (.error .alreadyInitialized)] else []
    | .built place =>
      [.init ((m.broker.call place Adapter.init).2.mapError IpcError.toBrokerError)]
    | .looping place =>
      match m.broker.adapters[place]?.bind Adapter.leave? with
      | some (_, reason) => [.run (.ok reason)]
      | none => []
    | .returned _ => [.release m.broker.deinit.2]
    | .absent | .finished _ | .panicked => []

variable [Adapter α]

/-- What the latest worker has heard after a move, which may be the start of another. -/
def hears (heard : List Worker.Return) (m : Moment (Recorded α)) : Move α → List Worker.Return
  | .start place => if (m.broker.start place).2.isOk then [] else heard
  | .work => heard ++ m.returns
  | _ => heard

def heardIn : List (Move α) → Moment (Recorded α) → List Worker.Return → List Worker.Return
  | [], _, heard => heard
  | move :: rest, m, heard => heardIn rest (m.step move) (m.hears heard move)

structure Attended (heard : List Worker.Return) (m : Moment (Recorded α)) : Prop where
  kept : ∃ accepted, Kept accepted m
  hearing : Worker.Hearing m.broker.records m.broker.phase m.entering m.broker.worker heard

namespace Attended

variable {b : Broker (Recorded α)} {entering : Bool} {m : Moment (Recorded α)}
  {heard : List Worker.Return}

omit [Adapter α] in
theorem hearing_at {worker : Worker} (h : Attended heard m) (hw : m.broker.worker = worker) :
    Worker.Hearing m.broker.records m.broker.phase m.entering worker heard := by
  rw [← hw]
  exact h.hearing

omit [Adapter α] in
theorem of_worker (h : Attended heard ⟨b, entering⟩) {b' : Broker (Recorded α)}
    (hkept : ∀ {accepted}, Kept accepted ⟨b, entering⟩ → Kept accepted ⟨b', entering⟩)
    (hworker : b'.worker = b.worker)
    (hunheld : b.held = none → b'.records = b.records ∧ b'.phase = b.phase) :
    Attended heard ⟨b', entering⟩ := by
  obtain ⟨accepted, hbefore⟩ := h.kept
  refine ⟨⟨accepted, hkept hbefore⟩, ?_⟩
  rw [hworker]
  exact h.hearing.congr fun hfinished => hunheld (hbefore.ledger.of_exited hfinished).2.1

theorem signal (h : Attended heard ⟨b, entering⟩) : Attended heard ⟨b.signal.1, entering⟩ := by
  refine h.of_worker Kept.signal ?_ fun hheld => ?_
  · obtain ⟨phase, adapters, result, hsignal, -⟩ := Broker.signal_frame b
    rw [hsignal]
  · rw [Broker.signal_unheld hheld]
    exact ⟨rfl, rfl⟩

theorem drop (h : Attended heard ⟨b, entering⟩) : Attended heard ⟨b.drop, entering⟩ := by
  refine h.of_worker Kept.drop ?_ fun hheld => ?_
  · unfold Broker.drop
    split
    · next place _ =>
      obtain ⟨adapters, result, hcall⟩ := Broker.call_frame b place (Adapter.stop .shutdown)
      rw [hcall]
    · rfl
  · rw [Broker.drop_unheld hheld]
    exact ⟨rfl, rfl⟩

theorem deinit (h : Attended heard ⟨b, entering⟩) : Attended heard ⟨b.deinit.1, entering⟩ := by
  refine h.of_worker Kept.deinit ?_ fun hheld => ?_
  · obtain ⟨adapters, failure, result, hdeinit⟩ := Broker.deinit_frame b
    rw [hdeinit]
  · rw [Broker.deinit_of_unheld hheld]
    exact ⟨rfl, rfl⟩

theorem tell (h : Attended heard ⟨b, entering⟩) (told : Telling Registrar) :
    Attended heard ⟨b.tell told, entering⟩ := by
  have hrecords := Broker.records_tell b told
  obtain ⟨adapters, htell⟩ := Broker.tell_frame b told
  refine h.of_worker (fun hkept => hkept.tell told) ?_ fun _ => ⟨hrecords, ?_⟩
  · rw [htell]
  · rw [htell]

theorem join (h : Attended heard ⟨b, entering⟩) : Attended heard ⟨b.join.1, entering⟩ := by
  cases hworker : b.worker.isUnfinished with
  | true =>
    refine h.of_worker Kept.join ?_ fun hheld => ?_
    · unfold Broker.join
      rw [if_pos hworker]
    · unfold Broker.join
      rw [if_pos hworker]
      exact ⟨rfl, rfl⟩
  | false =>
    obtain ⟨accepted, hkept⟩ := h.kept
    obtain ⟨-, -, rfl⟩ := hkept.ledger.of_exited hworker
    refine ⟨⟨accepted, hkept.join⟩, ?_⟩
    -- What the worker reported is taken note of here, and forgotten.
    have habsent : b.join.1.worker = .absent := by
      unfold Broker.join
      rw [if_neg (by rw [hworker]; decide)]
      split
      · rfl
      · obtain ⟨adapters, failure, result, hdeinit⟩ :=
          Broker.deinit_frame { b with stopTimedOut := false, worker := .absent }
        unfold Broker.release
        dsimp only at hdeinit ⊢
        rw [hdeinit]
    rw [habsent]
    exact .absent heard

theorem start (h : Attended heard ⟨b, entering⟩) (place : Nat) :
    Attended (hears heard ⟨b, entering⟩ (.start place)) ⟨(b.start place).1, entering⟩ := by
  obtain ⟨accepted, hkept⟩ := h.kept
  refine ⟨⟨_, hkept.start place⟩, ?_⟩
  change Worker.Hearing (b.start place).1.records (b.start place).1.phase entering
    (b.start place).1.worker (if (b.start place).2.isOk then [] else heard)
  cases hworker : b.worker.isUnfinished with
  | true =>
    rw [Broker.start_of_unfinished hworker]
    exact h.hearing
  | false =>
    obtain ⟨-, hheld, rfl⟩ := hkept.ledger.of_exited hworker
    have hdown : b.Down := ⟨hworker, hheld⟩
    rw [hdown.start]
    exact .starting

/-! The worker -/

theorem build (h : Attended heard ⟨b, false⟩) (hw : b.worker = .starting) :
    Attended (heard ++ returns ⟨b, false⟩) ⟨b.build, false⟩ := by
  obtain ⟨accepted, hkept⟩ := h.kept
  refine ⟨⟨accepted, hkept.build hw⟩, ?_⟩
  obtain ⟨-, hheld, -⟩ := (hkept.ledger_at hw).of_starting
  have hreturns : returns ⟨b, false⟩ = [] := by
    simp [returns, hw, hheld]
  rw [(h.hearing_at hw).of_starting, hreturns, Broker.build_of_unheld hheld]
  exact .built _

theorem init (h : Attended heard ⟨b, false⟩) {place : Nat} (hw : b.worker = .built place) :
    Attended (heard ++ returns ⟨b, false⟩) (work ⟨b, false⟩) := by
  obtain ⟨accepted, hkept⟩ := h.kept
  refine ⟨⟨accepted, hkept.work⟩, ?_⟩
  rcases hcall : b.call place Adapter.init with ⟨b', result⟩
  obtain ⟨earlier, -, -, hrecords, -, -, hworker, -⟩ := hkept.init hw hcall
  have hreturns : returns ⟨b, false⟩ = [.init (result.mapError IpcError.toBrokerError)] := by
    simp [returns, hw, hcall]
  rw [(h.hearing_at hw).of_built, hreturns]
  cases result with
  | error e =>
    rw [work_of_error hw hcall]
    exact .finished rfl (.notInitialised earlier e hrecords)
  | ok _ =>
    rw [work_of_ok hw hcall]
    change Worker.Hearing b'.records .initialized true b'.worker [.init (.ok ())]
    rw [hworker, hw]
    exact .entering place

theorem enterLoop (h : Attended heard ⟨b, true⟩) :
    Attended (heard ++ returns ⟨b, true⟩) ⟨b.enterLoop, false⟩ := by
  obtain ⟨accepted, hkept⟩ := h.kept
  refine ⟨⟨accepted, hkept.enterLoop⟩, ?_⟩
  rw [h.hearing.of_entering]
  cases hheld : b.held with
  | none =>
    have hreturns : returns ⟨b, true⟩ = [.run (.error .notInitialized)] := by
      simp [returns, hheld]
    rw [hreturns, Broker.enterLoop_of_unheld hheld]
    exact .returned _
  | some place =>
    obtain ⟨a, ha⟩ := hkept.exists_held hheld
    rcases henter : Adapter.enter a with ⟨a', entered⟩
    have hcall := Broker.call_of_getElem? ha henter
    rw [Broker.enterLoop_of_held hheld ha henter]
    cases entered with
    | ok _ =>
      have hreturns : returns ⟨b, true⟩ = [] := by
        simp [returns, hheld, hcall]
      rw [hreturns]
      exact .looping place
    | error e =>
      have hreturns : returns ⟨b, true⟩ = [.run (.error e.toBrokerError)] := by
        simp [returns, hheld, hcall]
      rw [hreturns]
      exact .returned _

theorem leaveLoop (h : Attended heard ⟨b, false⟩) {place : Nat} (hw : b.worker = .looping place) :
    Attended (heard ++ returns ⟨b, false⟩) ⟨b.leaveLoop place, false⟩ := by
  cases hleave : b.adapters[place]?.bind Adapter.leave? with
  | none =>
    have hreturns : returns ⟨b, false⟩ = [] := by
      simp [returns, hw, hleave]
    rw [hreturns, List.append_nil, Broker.leaveLoop_of_none hleave]
    exact h
  | some left =>
    obtain ⟨accepted, hkept⟩ := h.kept
    refine ⟨⟨accepted, hkept.leaveLoop hw⟩, ?_⟩
    have hreturns : returns ⟨b, false⟩ = [.run (.ok left.2)] := by
      simp [returns, hw, hleave]
    rw [(h.hearing_at hw).of_looping, hreturns, Broker.leaveLoop_of_some hleave]
    exact .returned _

theorem released (h : Attended heard ⟨b, entering⟩) {result : Except BrokerError StopReason}
    (hw : b.worker = .returned result) : Worker.Released b.deinit.1.records b.deinit.2 := by
  obtain ⟨accepted, hkept⟩ := h.kept
  cases hkept.ledger_at hw with
  | inUse earlier closed last inUse busy =>
    obtain ⟨a, ha, hrecord⟩ := Broker.exists_last last
    have hset := Broker.map_record_set_last last (Adapter.deinit a).1
    rw [Recorded.record_deinit, hrecord] at hset
    rw [Broker.deinit_of_held inUse ha rfl]
    exact .byWorker earlier _ hset
  | released earlier result closed last unheld busy =>
    rw [Broker.deinit_of_unheld unheld]
    exact .before earlier result last
  | idle _ _ _ exited => cases exited
  | starting _ _ _ start | built _ _ _ _ _ start => cases start

theorem conclude (h : Attended heard ⟨b, false⟩) {result : Except BrokerError StopReason}
    (hw : b.worker = .returned result) :
    Attended (heard ++ returns ⟨b, false⟩) ⟨b.conclude result, false⟩ := by
  obtain ⟨accepted, hkept⟩ := h.kept
  refine ⟨⟨accepted, hkept.conclude hw⟩, ?_⟩
  have hreleased := h.released hw
  have hreturns : returns ⟨b, false⟩ = [.release b.deinit.2] := by
    simp [returns, hw]
  rw [(h.hearing_at hw).of_returned, hreturns, Broker.conclude_eq]
  refine .finished rfl ?_
  -- The latch of the worker has made its report the first error of the two.
  cases result with
  | error e => exact .runFailed e _ hreleased
  | ok reason => exact .ran reason _ hreleased

theorem work (h : Attended heard m) : Attended (heard ++ m.returns) m.work := by
  obtain ⟨b, entering⟩ := m
  cases entering with
  | true => exact h.enterLoop
  | false =>
    cases hw : b.worker with
    | built place => exact h.init hw
    | starting =>
      rw [work_of_not_built (by simp [hw]), Broker.advance_starting hw]
      exact h.build hw
    | looping place =>
      rw [work_of_not_built (by simp [hw]), Broker.advance_looping hw]
      exact h.leaveLoop hw
    | returned result =>
      rw [work_of_not_built (by simp [hw]), Broker.advance_returned hw]
      exact h.conclude hw
    | absent | finished _ | panicked =>
      have hreturns : returns ⟨b, false⟩ = [] := by
        simp [returns, hw]
      rw [work_of_not_built (by simp [hw]), Broker.advance_of_finished (by rw [hw]; rfl), hreturns,
        List.append_nil]
      exact h

theorem step (h : Attended heard m) (move : Move α) :
    Attended (m.hears heard move) (m.step move) := by
  cases move with
  | start place => exact h.start place
  | signal => exact h.signal
  | join => exact h.join
  | deinit => exact h.deinit
  | drop => exact h.drop
  | work => exact h.work
  | tell told => exact h.tell told
  | transport place change =>
    have hrecords := Broker.map_record_modify m.broker.adapters place change
    exact h.of_worker (fun hkept => hkept.congr hrecords rfl rfl rfl) rfl fun _ => ⟨hrecords, rfl⟩
  | blueprint change =>
    exact h.of_worker (fun hkept => hkept.congr rfl rfl rfl rfl) rfl fun _ => ⟨rfl, rfl⟩

theorem run (h : Attended heard m) (moves : List (Move α)) :
    Attended (heardIn moves m heard) (m.run moves) := by
  induction moves generalizing heard m with
  | nil => exact h
  | cons move rest ih => exact ih (h.step move)

end Attended

/-! A worker that is left alone -/

/-- The worker has ended, or its event loop goes on. -/
def Rests (m : Moment (Recorded α)) : Prop :=
  m.broker.worker.isUnfinished = false ∨
    ∃ place a, m.broker.worker = .looping place ∧ m.broker.adapters[place]? = some a ∧
      Adapter.leave? a = none

def ComesToRest (m : Moment (Recorded α)) : Prop :=
  ∃ steps, Rests (m.run (List.replicate steps .work))

section Alone

variable {b : Broker (Recorded α)} {m : Moment (Recorded α)} {place : Nat}

theorem ComesToRest.of_work (h : ComesToRest m.work) : ComesToRest m := by
  obtain ⟨steps, hrests⟩ := h
  exact ⟨steps + 1, hrests⟩

theorem comesToRest_of_finished {entering : Bool} (hw : b.worker.isUnfinished = false) :
    ComesToRest ⟨b, entering⟩ :=
  ⟨0, .inl hw⟩

theorem comesToRest_of_returned {result : Except BrokerError StopReason}
    (hw : b.worker = .returned result) : ComesToRest ⟨b, false⟩ := by
  apply ComesToRest.of_work
  rw [work_of_not_built (by simp [hw]), Broker.advance_returned hw, Broker.conclude_eq]
  exact comesToRest_of_finished rfl

theorem comesToRest_of_looping {a : Recorded α} (hw : b.worker = .looping place)
    (ha : b.adapters[place]? = some a) : ComesToRest ⟨b, false⟩ := by
  cases hleave : Adapter.leave? a with
  | none => exact ⟨0, .inr ⟨place, a, hw, ha, hleave⟩⟩
  | some left =>
    have hleft : b.adapters[place]?.bind Adapter.leave? = some left := by
      rw [ha]
      exact hleave
    apply ComesToRest.of_work
    rw [work_of_not_built (by simp [hw]), Broker.advance_looping hw, Broker.leaveLoop_of_some hleft]
    exact comesToRest_of_returned rfl

theorem comesToRest_of_entering {a : Recorded α} (hheld : b.held = some place)
    (ha : b.adapters[place]? = some a) : ComesToRest ⟨b, true⟩ := by
  apply ComesToRest.of_work
  change ComesToRest ⟨b.enterLoop, false⟩
  rcases henter : Adapter.enter a with ⟨a', entered⟩
  rw [Broker.enterLoop_of_held hheld ha henter]
  cases entered with
  | error e => exact comesToRest_of_returned rfl
  | ok _ =>
    have hplace : place < b.adapters.length := (List.getElem?_eq_some_iff.mp ha).1
    exact comesToRest_of_looping rfl (List.getElem?_set_self hplace)

theorem comesToRest_of_built {a : Recorded α} (hw : b.worker = .built place)
    (ha : b.adapters[place]? = some a) : ComesToRest ⟨b, false⟩ := by
  apply ComesToRest.of_work
  rcases hinit : Adapter.init a with ⟨a', result⟩
  have hcall := Broker.call_of_getElem? ha hinit
  cases result with
  | error e =>
    rw [work_of_error hw hcall]
    exact comesToRest_of_finished rfl
  | ok _ =>
    have hplace : place < b.adapters.length := (List.getElem?_eq_some_iff.mp ha).1
    rw [work_of_ok hw hcall]
    exact comesToRest_of_entering rfl (List.getElem?_set_self hplace)

theorem comesToRest_of_starting (hw : b.worker = .starting) : ComesToRest ⟨b, false⟩ := by
  apply ComesToRest.of_work
  rw [work_of_not_built (by simp [hw]), Broker.advance_starting hw]
  unfold Broker.build
  split
  · exact comesToRest_of_finished rfl
  · exact comesToRest_of_built rfl List.getElem?_concat_length

theorem Kept.comesToRest {accepted : Nat} (h : Kept accepted m) : ComesToRest m := by
  obtain ⟨b, entering⟩ := m
  cases entering with
  | true =>
    cases hheld : b.held with
    | none =>
      apply ComesToRest.of_work
      change ComesToRest ⟨b.enterLoop, false⟩
      rw [Broker.enterLoop_of_unheld hheld]
      exact comesToRest_of_returned rfl
    | some place =>
      obtain ⟨a, ha⟩ := h.exists_held hheld
      exact comesToRest_of_entering hheld ha
  | false =>
    cases hw : b.worker with
    | starting => exact comesToRest_of_starting hw
    | built place =>
      obtain ⟨a, ha⟩ := h.exists_built hw
      exact comesToRest_of_built hw ha
    | looping place =>
      obtain ⟨a, ha⟩ := h.exists_looping hw
      exact comesToRest_of_looping hw ha
    | returned result => exact comesToRest_of_returned hw
    | absent | finished _ | panicked => exact comesToRest_of_finished (by rw [hw]; rfl)

end Alone

/-- What there is to say of the reports of the workers of a broker, after these moves. -/
structure Reports (moves : List (Move α)) (fresh : Moment (Recorded α)) : Prop where
  /-- The first of the calls of the latest worker that has failed is what it reports. -/
  finished : ∀ report, (fresh.run moves).broker.worker = .finished report →
    (fresh.run moves).broker.phase = .stopped ∧
      Worker.Report (fresh.run moves).broker.records (heardIn moves fresh []) report
  /-- A worker that is left alone ends, as soon as its event loop does. -/
  comesToRest : ComesToRest (fresh.run moves)

/-- A latch keeps the first error it is told of, and so does a worker, which is told by its calls. -/
theorem first_error_reported (calls : List Latch.Call) (blueprint : α) (stopTimeout : Duration)
    (registrar : Registrar) (moves : List (Move α)) :
    Latch.KeepsFirst calls ∧
      Reports moves ⟨Broker.new ⟨blueprint, .empty⟩ stopTimeout registrar, false⟩ := by
  have hfresh : Attended (α := α) []
      ⟨Broker.new ⟨blueprint, .empty⟩ stopTimeout registrar, false⟩ :=
    ⟨⟨0, .idle nofun rfl rfl rfl, rfl, rfl⟩, .absent []⟩
  have hattended := hfresh.run moves
  obtain ⟨accepted, hkept⟩ := hattended.kept
  refine ⟨Latch.keepsFirst calls, ?_, hkept.comesToRest⟩
  intro report hreport
  exact (hattended.hearing_at hreport).of_finished

theorem first_error_reported_sample :
    let broken := ScriptedAdapter.new { AdapterFaults.none with run := true, deinit := true }
    let registrar := Registrar.new (fun _ => .scripted) .ofNat
    let fresh : Moment (Recorded ScriptedAdapter) :=
      ⟨Broker.new ⟨broken, .empty⟩ (.ofMilliseconds 5000) registrar, false⟩
    let moves : List (Move ScriptedAdapter) := [.start 0, .work, .work, .work, .work]
    let refused := (IpcError.serverError "Mock run failure").toBrokerError
    let unreleased := (IpcError.serverError "Mock deinit failure").toBrokerError
    (fresh.run moves).broker.worker = .finished (.error refused) ∧
      heardIn moves fresh [] =
        [.init (.ok ()), .run (.error refused), .release (.error unreleased)] ∧
      (fresh.run moves).broker.phase = .stopped ∧
      Worker.Report (fresh.run moves).broker.records (heardIn moves fresh []) (.error refused) := by
  intro broken registrar fresh moves refused unreleased
  have hworker : (fresh.run moves).broker.worker = .finished (.error refused) := rfl
  have hreports := (first_error_reported [] broken (.ofMilliseconds 5000) registrar moves).2
  exact ⟨hworker, rfl, hreports.finished _ hworker⟩

end Moment
end ResourceBroker
