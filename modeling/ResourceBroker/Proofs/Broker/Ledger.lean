import ResourceBroker.Proofs.Broker.Moment
import ResourceBroker.Proofs.Broker.Worker

/-!
What becomes of the adapters. The books are kept by the adapters themselves: each is initialised once,
by the worker that has built it, and released once if that went well, by the worker or by somebody who
called before, whoever is first to take it out of use.
-/

namespace ResourceBroker

inductive Worker.Busy (place : Nat) : Bool → Worker → Prop where
  | entering : Busy place true (.built place)
  | looping : Busy place false (.looping place)
  | returned (result : Except BrokerError StopReason) : Busy place false (.returned result)

theorem Worker.Busy.unfinished {place : Nat} {entering : Bool} {worker : Worker}
    (h : Worker.Busy place entering worker) : worker.isUnfinished = true := by
  cases h <;> rfl

def Worker.owed : Worker → Nat
  | .starting => 1
  | _ => 0

theorem Worker.owed_of_exited {worker : Worker} (h : worker.isUnfinished = false) : worker.owed = 0 := by
  cases worker with
  | starting => cases h
  | built _ | looping _ | returned _ | absent | finished _ | panicked => rfl

theorem Worker.Busy.owed_eq {place : Nat} {entering : Bool} {worker : Worker}
    (h : Worker.Busy place entering worker) : worker.owed = 0 := by
  cases h <;> rfl

/-- The books while an adapter may be in use. All adapters of earlier workers are done with. -/
inductive Ledger (records : List Record) (held : Option Nat) (entering : Bool) (worker : Worker) :
    Prop where
  | idle (closed : ∀ r ∈ records, r.Closed) (unheld : held = none) (entered : entering = false)
      (exited : worker.isUnfinished = false)
  | starting (closed : ∀ r ∈ records, r.Closed) (unheld : held = none) (entered : entering = false)
      (start : worker = .starting)
  | built (earlier : List Record) (closed : ∀ r ∈ earlier, r.Closed)
      (last : records = earlier ++ [.empty]) (unheld : held = none) (entered : entering = false)
      (start : worker = .built earlier.length)
  | inUse (earlier : List Record) (closed : ∀ r ∈ earlier, r.Closed)
      (last : records = earlier ++ [⟨[.ok ()], []⟩]) (inUse : held = some earlier.length)
      (busy : worker.Busy earlier.length entering)
  | released (earlier : List Record) (result : Except IpcError Unit)
      (closed : ∀ r ∈ earlier, r.Closed) (last : records = earlier ++ [⟨[.ok ()], [result]⟩])
      (unheld : held = none) (busy : worker.Busy earlier.length entering)

theorem Worker.Busy.ne_starting {place : Nat} {entering : Bool} {worker : Worker}
    (h : Worker.Busy place entering worker) : worker ≠ .starting := by
  cases h <;> nofun

theorem Worker.Busy.entered (place : Nat) (result : Except IpcError Unit) :
    Worker.Busy place false (.entered place result) := by
  cases result with
  | ok _ => exact .looping
  | error e => exact .returned _

namespace Ledger

variable {records : List Record} {held : Option Nat} {entering : Bool} {worker : Worker}

theorem of_exited (h : Ledger records held entering worker)
    (hexited : worker.isUnfinished = false) :
    (∀ r ∈ records, r.Closed) ∧ held = none ∧ entering = false := by
  cases h with
  | idle closed unheld entered => exact ⟨closed, unheld, entered⟩
  | starting _ _ _ start | built _ _ _ _ _ start =>
    rw [start] at hexited
    cases hexited
  | inUse _ _ _ _ busy | released _ _ _ _ _ busy =>
    rw [busy.unfinished] at hexited
    cases hexited

theorem of_held {place : Nat} (h : Ledger records (some place) entering worker) :
    ∃ earlier : List Record, (∀ r ∈ earlier, r.Closed) ∧
      records = earlier ++ [⟨[.ok ()], []⟩] ∧ place = earlier.length ∧ worker.Busy place entering := by
  cases h with
  | inUse earlier closed last inUse busy =>
    obtain rfl := Option.some.inj inUse
    exact ⟨earlier, closed, last, rfl, busy⟩
  | idle _ unheld | starting _ unheld | built _ _ _ unheld | released _ _ _ _ unheld => cases unheld

theorem of_starting (h : Ledger records held entering .starting) :
    (∀ r ∈ records, r.Closed) ∧ held = none ∧ entering = false := by
  cases h with
  | starting closed unheld entered => exact ⟨closed, unheld, entered⟩
  | idle _ _ _ exited => cases exited
  | built _ _ _ _ _ start => cases start
  | inUse _ _ _ _ busy | released _ _ _ _ _ busy => cases busy

theorem of_built {place : Nat} (h : Ledger records held false (.built place)) :
    ∃ earlier : List Record, (∀ r ∈ earlier, r.Closed) ∧ records = earlier ++ [.empty] ∧
      place = earlier.length ∧ held = none := by
  cases h with
  | built earlier closed last unheld _ start =>
    obtain rfl := Worker.built.inj start
    exact ⟨earlier, closed, last, rfl, unheld⟩
  | idle _ _ _ exited => cases exited
  | starting _ _ _ start => cases start
  | inUse _ _ _ _ busy | released _ _ _ _ _ busy => cases busy

theorem enter (h : Ledger records none true worker) (result : Except BrokerError StopReason) :
    Ledger records none false (.returned result) ∧ worker.owed = 0 := by
  cases h with
  | released earlier released closed last unheld busy =>
    exact ⟨.released earlier released closed last unheld (.returned result), busy.owed_eq⟩
  | inUse _ _ _ inUse => cases inUse
  | idle _ _ entered | starting _ _ entered | built _ _ _ _ entered => cases entered

theorem leave {place : Nat} (h : Ledger records held entering (.looping place))
    (result : Except BrokerError StopReason) : Ledger records held entering (.returned result) := by
  cases h with
  | inUse earlier closed last inUse busy =>
    cases busy
    exact .inUse earlier closed last inUse (.returned result)
  | released earlier released closed last unheld busy =>
    cases busy
    exact .released earlier released closed last unheld (.returned result)
  | idle _ _ _ exited => cases exited
  | starting _ _ _ start | built _ _ _ _ _ start => cases start

theorem closed_of_returned {result : Except BrokerError StopReason}
    (h : Ledger records none entering (.returned result)) :
    (∀ r ∈ records, r.Closed) ∧ entering = false := by
  cases h with
  | released earlier released closed last _ busy =>
    cases busy
    refine ⟨fun r hr => ?_, rfl⟩
    rw [last, List.mem_append, List.mem_singleton] at hr
    obtain hr | rfl := hr
    · exact closed r hr
    · exact .inr ⟨released, rfl⟩
  | inUse _ _ _ inUse => cases inUse
  | idle _ _ _ exited => cases exited
  | starting _ _ _ start | built _ _ _ _ _ start => cases start

theorem cases_of_getElem? {place : Nat} {r : Record} (h : Ledger records held entering worker)
    (hr : records[place]? = some r) :
    r.Closed ∨ place + 1 = records.length ∧ worker.isUnfinished = true ∧ worker ≠ .starting ∧
      (r = .empty ∧ worker = .built place ∧ entering = false ∨ r = ⟨[.ok ()], []⟩) := by
  have hsplit {earlier : List Record} {last : Record} (hlast : records = earlier ++ [last]) :
      r ∈ earlier ∨ place = earlier.length ∧ place + 1 = records.length ∧ r = last := by
    rw [hlast, List.getElem?_append] at hr
    split at hr
    · exact .inl (List.mem_of_getElem? hr)
    · next hbeyond =>
      obtain ⟨hplace, rfl⟩ := List.getElem?_eq_some_iff.mp hr
      rw [List.length_singleton] at hplace
      have hplace : place = earlier.length := by omega
      refine .inr ⟨hplace, by rw [hlast, hplace, List.length_append]; rfl, ?_⟩
      exact List.getElem_singleton _
  cases h with
  | idle closed => exact .inl (closed r (List.mem_of_getElem? hr))
  | starting closed => exact .inl (closed r (List.mem_of_getElem? hr))
  | built earlier closed last unheld entered start =>
    obtain hearlier | ⟨rfl, hlength, rfl⟩ := hsplit last
    · exact .inl (closed r hearlier)
    · refine .inr ⟨hlength, by rw [start]; rfl, by rw [start]; nofun, .inl ⟨rfl, start, entered⟩⟩
  | inUse earlier closed last inUse busy =>
    obtain hearlier | ⟨rfl, hlength, rfl⟩ := hsplit last
    · exact .inl (closed r hearlier)
    · exact .inr ⟨hlength, busy.unfinished, busy.ne_starting, .inr rfl⟩
  | released earlier result closed last unheld busy =>
    obtain hearlier | ⟨rfl, hlength, rfl⟩ := hsplit last
    · exact .inl (closed r hearlier)
    · exact .inl (.inr ⟨result, rfl⟩)

end Ledger

namespace Broker

variable {α : Type}

def records (b : Broker (Recorded α)) : List Record := b.adapters.map Recorded.record

theorem exists_last {b : Broker (Recorded α)} {earlier : List Record} {r : Record}
    (h : b.records = earlier ++ [r]) :
    ∃ a, b.adapters[earlier.length]? = some a ∧ a.record = r := by
  have hlast : b.records[earlier.length]? = some r := by
    rw [h]
    exact List.getElem?_concat_length
  rw [records, List.getElem?_map] at hlast
  exact Option.map_eq_some_iff.mp hlast

theorem map_record_set_last {b : Broker (Recorded α)} {earlier : List Record} {r : Record}
    (h : b.records = earlier ++ [r]) (a : Recorded α) :
    (b.adapters.set earlier.length a).map Recorded.record = earlier ++ [a.record] := by
  rw [List.map_set]
  exact (congrArg (fun records => records.set earlier.length a.record) h).trans (set_last ..)

theorem map_record_set_of_eq {adapters : List (Recorded α)} {place : Nat} {a a' : Recorded α}
    (ha : adapters[place]? = some a) (hsame : a'.record = a.record) :
    (adapters.set place a').map Recorded.record = adapters.map Recorded.record := by
  have hrecord : (adapters.map Recorded.record)[place]? = some a.record := by
    rw [List.getElem?_map, ha]
    rfl
  obtain ⟨hplace, hvalue⟩ := List.getElem?_eq_some_iff.mp hrecord
  rw [List.map_set, hsame, ← hvalue, List.set_getElem_self]

theorem map_record_modify (adapters : List (Recorded α)) (place : Nat) (change : α → α) :
    (adapters.modify place (·.change change)).map Recorded.record =
      adapters.map Recorded.record := by
  apply List.ext_getElem?
  intro i
  simp only [List.getElem?_map, List.getElem?_modify]
  cases adapters[i]? with
  | none => rfl
  | some a => by_cases hplace : place = i <;> simp [hplace, Recorded.change]

theorem records_call {b : Broker (Recorded α)} {place : Nat}
    {op : Recorded α → Recorded α × Except IpcError Unit}
    (h : ∀ a, (op a).1.record = a.record) : (b.call place op).1.records = b.records := by
  unfold call
  split
  · next a ha => exact map_record_set_of_eq ha (h a)
  · rfl

variable [Adapter α]

theorem records_signal (b : Broker (Recorded α)) : b.signal.1.records = b.records := by
  unfold signal
  split
  · next place _ =>
    have hcall : (b.call place (Adapter.stop .shutdown)).1.records = b.records :=
      records_call fun _ => rfl
    rcases hresult : b.call place (Adapter.stop .shutdown) with ⟨b', result⟩
    rw [hresult] at hcall
    cases result with
    | ok _ => exact hcall
    | error e =>
      dsimp only
      split <;> exact hcall
  · split <;> rfl

theorem records_tell (b : Broker (Recorded α)) (told : Telling Registrar) :
    (b.tell told).records = b.records := by
  refine tell_of_push (P := fun b' => b'.records = b.records) ?_ rfl
  intro b' p h
  unfold push
  split
  · exact (records_call fun _ => rfl).trans h
  · exact h

end Broker

namespace Moment

variable {α : Type} {m : Moment (Recorded α)} {accepted : Nat}

structure Kept (accepted : Nat) (m : Moment (Recorded α)) : Prop where
  ledger : Ledger m.broker.records m.broker.held m.entering m.broker.worker
  blueprint : m.broker.blueprint.record = .empty
  accepted : accepted = m.broker.records.length + m.broker.worker.owed

namespace Kept

variable {b : Broker (Recorded α)} {entering : Bool}

theorem congr (h : Kept accepted ⟨b, entering⟩) {b' : Broker (Recorded α)}
    (hrecords : b'.records = b.records) (hheld : b'.held = b.held)
    (hworker : b'.worker = b.worker) (hblueprint : b'.blueprint.record = b.blueprint.record) :
    Kept accepted ⟨b', entering⟩ := by
  constructor
  · rw [hrecords, hheld, hworker]
    exact h.ledger
  · exact hblueprint.trans h.blueprint
  · rw [hrecords, hworker]
    exact h.accepted

theorem of_ledger (h : Kept accepted ⟨b, entering⟩) {b' : Broker (Recorded α)} {entering' : Bool}
    (hledger : Ledger b'.records b'.held entering' b'.worker)
    (hblueprint : b'.blueprint.record = b.blueprint.record)
    (hlength : b'.records.length + b'.worker.owed = b.records.length + b.worker.owed) :
    Kept accepted ⟨b', entering'⟩ :=
  ⟨hledger, hblueprint.trans h.blueprint, h.accepted.trans hlength.symm⟩

theorem start (h : Kept accepted ⟨b, entering⟩) (place : Nat) :
    Kept (accepted + if (b.start place).2.isOk then 1 else 0) ⟨(b.start place).1, entering⟩ := by
  unfold Broker.start
  split
  · exact h
  · next hidle =>
    have hexited : b.worker.isUnfinished = false := by simpa using hidle
    obtain ⟨hclosed, hheld, rfl⟩ := h.ledger.of_exited hexited
    refine ⟨.starting hclosed hheld rfl rfl, h.blueprint, ?_⟩
    rw [h.accepted, Worker.owed_of_exited hexited]
    rfl

variable [Adapter α]

theorem signal (h : Kept accepted ⟨b, entering⟩) : Kept accepted ⟨b.signal.1, entering⟩ := by
  have hrecords := Broker.records_signal b
  obtain ⟨phase, adapters, result, hsignal, -⟩ := Broker.signal_frame b
  rw [hsignal] at hrecords ⊢
  exact h.congr hrecords rfl rfl rfl

theorem drop (h : Kept accepted ⟨b, entering⟩) : Kept accepted ⟨b.drop, entering⟩ := by
  unfold Broker.drop
  split
  · next place _ =>
    have hrecords : (b.call place (Adapter.stop .shutdown)).1.records = b.records :=
      Broker.records_call fun _ => rfl
    obtain ⟨adapters, result, hcall⟩ := Broker.call_frame b place (Adapter.stop .shutdown)
    rw [hcall] at hrecords ⊢
    exact h.congr hrecords rfl rfl rfl
  · exact h

theorem tell (h : Kept accepted ⟨b, entering⟩) (told : Telling Registrar) :
    Kept accepted ⟨b.tell told, entering⟩ := by
  have hrecords := Broker.records_tell b told
  obtain ⟨adapters, htell⟩ := Broker.tell_frame b told
  rw [htell] at hrecords ⊢
  exact h.congr hrecords rfl rfl rfl

theorem deinit (h : Kept accepted ⟨b, entering⟩) : Kept accepted ⟨b.deinit.1, entering⟩ := by
  cases hheld : b.held with
  | none =>
    rw [Broker.deinit_of_unheld hheld]
    exact h
  | some place =>
    have hledger := h.ledger
    rw [hheld] at hledger
    obtain ⟨earlier, hclosed, hlast, rfl, hbusy⟩ := hledger.of_held
    obtain ⟨a, ha, hrecord⟩ := Broker.exists_last hlast
    have hset := Broker.map_record_set_last hlast (Adapter.deinit a).1
    rw [Recorded.record_deinit, hrecord] at hset
    rw [Broker.deinit_of_held hheld ha rfl]
    refine h.of_ledger (.released earlier _ hclosed hset rfl hbusy) rfl ?_
    simp only [Broker.records, List.length_map, List.length_set]

theorem join (h : Kept accepted ⟨b, entering⟩) : Kept accepted ⟨b.join.1, entering⟩ := by
  cases hworker : b.worker.isUnfinished with
  | true =>
    unfold Broker.join
    rw [if_pos hworker]
    exact h.congr rfl rfl rfl rfl
  | false =>
    obtain ⟨hclosed, hheld, rfl⟩ := h.ledger.of_exited hworker
    have haccepted := h.accepted
    rw [Worker.owed_of_exited hworker] at haccepted
    unfold Broker.join
    rw [if_neg (by rw [hworker]; decide)]
    split
    · exact ⟨.idle hclosed hheld rfl rfl, h.blueprint, haccepted⟩
    · unfold Broker.release
      rw [Broker.deinit_of_unheld (by exact hheld)]
      exact ⟨.idle hclosed hheld rfl rfl, h.blueprint, haccepted⟩

/-! The worker -/

omit [Adapter α] in
theorem build (h : Kept accepted ⟨b, entering⟩) (hw : b.worker = .starting) :
    Kept accepted ⟨b.build, false⟩ := by
  have hledger := h.ledger
  rw [hw] at hledger
  obtain ⟨hclosed, hheld, -⟩ := hledger.of_starting
  have hrecords : (b.adapters ++ [b.blueprint]).map Recorded.record = b.records ++ [.empty] := by
    rw [List.map_append, List.map_singleton, h.blueprint]
    rfl
  rw [Broker.build_of_unheld hheld]
  refine h.of_ledger (.built b.records hclosed hrecords hheld rfl ?_) rfl ?_
  · exact congrArg Worker.built (List.length_map _).symm
  · rw [hw, Broker.records, hrecords, List.length_append]
    rfl

theorem init (h : Kept accepted ⟨b, false⟩) {place : Nat} (hw : b.worker = .built place)
    {b' : Broker (Recorded α)} {result : Except IpcError Unit}
    (hcall : b.call place Adapter.init = (b', result)) :
    ∃ earlier : List Record, (∀ r ∈ earlier, r.Closed) ∧ place = earlier.length ∧
      b'.records = earlier ++ [⟨[result], []⟩] ∧ b.records.length = b'.records.length ∧
      b'.held = none ∧ b'.worker = b.worker ∧ b'.blueprint = b.blueprint := by
  have hledger := h.ledger
  rw [hw] at hledger
  obtain ⟨earlier, hclosed, hlast, rfl, hheld⟩ := hledger.of_built
  obtain ⟨a, ha, hrecord⟩ := Broker.exists_last hlast
  have hset := Broker.map_record_set_last hlast (Adapter.init a).1
  rw [Recorded.record_init, hrecord] at hset
  rw [Broker.call_of_getElem? ha rfl] at hcall
  obtain ⟨rfl, rfl⟩ := Prod.mk.inj hcall
  refine ⟨earlier, hclosed, rfl, hset, ?_, hheld, rfl, rfl⟩
  simp only [Broker.records, List.length_map, List.length_set]

theorem abandon (h : Kept accepted ⟨b, false⟩) {place : Nat} (hw : b.worker = .built place)
    {b' : Broker (Recorded α)} {e : IpcError} (hcall : b.call place Adapter.init = (b', .error e)) :
    Kept accepted ⟨b'.abandon e.toBrokerError, false⟩ := by
  obtain ⟨earlier, hclosed, -, hrecords, hlength, hheld, -, hblueprint⟩ := h.init hw hcall
  refine h.of_ledger (.idle (fun r hr => ?_) hheld rfl rfl) (congrArg Recorded.record hblueprint) ?_
  · change r ∈ b'.records at hr
    rw [hrecords, List.mem_append, List.mem_singleton] at hr
    obtain hr | rfl := hr
    · exact hclosed r hr
    · exact .inl ⟨e, rfl⟩
  · rw [hw]
    exact hlength.symm

theorem adopt (h : Kept accepted ⟨b, false⟩) {place : Nat} (hw : b.worker = .built place)
    {b' : Broker (Recorded α)} (hcall : b.call place Adapter.init = (b', .ok ())) :
    Kept accepted ⟨b'.adopt place, true⟩ := by
  obtain ⟨earlier, hclosed, rfl, hrecords, hlength, -, hworker, hblueprint⟩ := h.init hw hcall
  have hbusy : Worker.Busy earlier.length true b'.worker := by
    rw [hworker, hw]
    exact .entering
  refine h.of_ledger (.inUse earlier hclosed hrecords rfl hbusy) (congrArg Recorded.record hblueprint) ?_
  change b'.records.length + b'.worker.owed = _
  rw [hlength, hworker]

theorem enterLoop (h : Kept accepted ⟨b, true⟩) : Kept accepted ⟨b.enterLoop, false⟩ := by
  have hledger := h.ledger
  cases hheld : b.held with
  | none =>
    rw [hheld] at hledger
    rw [Broker.enterLoop_of_unheld hheld]
    refine h.of_ledger ?_ rfl ?_
    · change Ledger _ b.held _ _
      rw [hheld]
      exact (hledger.enter _).1
    · rw [(hledger.enter (.error .notInitialized)).2]
      rfl
  | some place =>
    rw [hheld] at hledger
    obtain ⟨earlier, hclosed, hlast, rfl, hbusy⟩ := hledger.of_held
    obtain ⟨a, ha, -⟩ := Broker.exists_last hlast
    have hset : (b.adapters.set earlier.length (Adapter.enter a).1).map Recorded.record = b.records :=
      Broker.map_record_set_of_eq ha rfl
    rw [Broker.enterLoop_of_held hheld ha rfl]
    refine h.of_ledger (.inUse earlier hclosed (hset.trans hlast) hheld (.entered _ _)) rfl ?_
    rw [hbusy.owed_eq, (Worker.Busy.entered _ _).owed_eq]
    exact congrArg List.length hset

theorem leaveLoop (h : Kept accepted ⟨b, entering⟩) {place : Nat}
    (hw : b.worker = .looping place) : Kept accepted ⟨b.leaveLoop place, entering⟩ := by
  cases hleave : b.adapters[place]?.bind Adapter.leave? with
  | none =>
    rw [Broker.leaveLoop_of_none hleave]
    exact h
  | some left =>
    obtain ⟨a, ha, hleft⟩ := Option.bind_eq_some_iff.mp hleave
    have hset := Broker.map_record_set_of_eq ha (Recorded.record_leave? hleft)
    have hledger := h.ledger
    rw [hw] at hledger
    rw [Broker.leaveLoop_of_some hleave]
    refine h.of_ledger ?_ rfl ?_
    · change Ledger (List.map _ _) _ _ _
      rw [hset]
      exact hledger.leave _
    · rw [hw]
      exact congrArg List.length hset

theorem conclude (h : Kept accepted ⟨b, entering⟩) {result : Except BrokerError StopReason}
    (hw : b.worker = .returned result) : Kept accepted ⟨b.conclude result, entering⟩ := by
  have hdeinit := h.deinit
  obtain ⟨adapters, failure, released, hresult⟩ := Broker.deinit_frame b
  unfold Broker.conclude
  rw [hresult] at hdeinit ⊢
  have hledger := hdeinit.ledger
  rw [hw] at hledger
  obtain ⟨hclosed, rfl⟩ := hledger.closed_of_returned
  refine hdeinit.of_ledger (.idle hclosed rfl rfl rfl) rfl ?_
  rw [hw]
  rfl

theorem work (h : Kept accepted m) : Kept accepted m.work := by
  obtain ⟨b, entering⟩ := m
  cases entering with
  | true => exact h.enterLoop
  | false =>
    cases hw : b.worker with
    | built place =>
      rcases hcall : b.call place Adapter.init with ⟨b', result⟩
      cases result with
      | ok _ =>
        rw [work_of_ok hw hcall]
        exact h.adopt hw hcall
      | error e =>
        rw [work_of_error hw hcall]
        exact h.abandon hw hcall
    | starting =>
      rw [work_of_not_built (by simp [hw]), Broker.advance_starting hw]
      exact h.build hw
    | looping place =>
      rw [work_of_not_built (by simp [hw]), Broker.advance_looping hw]
      exact h.leaveLoop hw
    | returned result =>
      rw [work_of_not_built (by simp [hw]), Broker.advance_returned hw]
      exact h.conclude hw
    | absent | finished _ | panicked =>
      rw [work_of_not_built (by simp [hw]), Broker.advance_of_finished (by rw [hw]; rfl)]
      exact h

theorem step (h : Kept accepted m) (move : Move α) :
    Kept (accepted + if m.accepts move then 1 else 0) (m.step move) := by
  cases move with
  | start place => exact h.start place
  | signal => exact h.signal
  | join => exact h.join
  | deinit => exact h.deinit
  | drop => exact h.drop
  | work => exact h.work
  | tell told => exact h.tell told
  | transport place change => exact h.congr (Broker.map_record_modify _ place change) rfl rfl rfl
  | blueprint change => exact h.congr rfl rfl rfl rfl

theorem run (h : Kept accepted m) (moves : List (Move α)) :
    Kept (accepted + starts moves m) (m.run moves) := by
  induction moves generalizing accepted m with
  | nil => exact h
  | cons move rest ih =>
    have hrest := ih (h.step move)
    rwa [Nat.add_assoc] at hrest

end Kept

variable [Adapter α]

/-- The worker that has built the adapter at that place has exited: another was started after it, or
none is at work. -/
def Exited (place : Nat) (m : Moment (Recorded α)) : Prop :=
  place + 1 < m.broker.adapters.length ∨ m.broker.worker = .starting ∨
    m.broker.worker.isUnfinished = false

/-- What has become of the adapters that a broker has built. -/
structure Accounts (accepted : Nat) (m : Moment (Recorded α)) : Prop where
  /-- Each start that was accepted builds one adapter. A worker has built its adapter after its first
  step, and finds none in use. -/
  built : accepted = m.broker.adapters.length + m.broker.worker.owed
  building : m.broker.worker = .starting → m.broker.held = none ∧
    m.work.broker.adapters = m.broker.adapters ++ [m.broker.blueprint]
  /-- Each adapter is initialised once. The one that is not yet was built last, and the worker does so
  next. -/
  initialised : ∀ place a, m.broker.adapters[place]? = some a →
    a.record.inits.length = 1 ∨
      a.record = .empty ∧ m.broker.worker = .built place ∧
        ∃ a', m.work.broker.adapters[place]? = some a' ∧ a'.record.inits.length = 1
  released : ∀ a ∈ m.broker.adapters, a.record.deinits.length ≤ 1 ∧
    (a.record.deinits ≠ [] → a.record.inits = [.ok ()])
  /-- Once its worker has exited an adapter was released if it had been initialised with success, and
  not otherwise. -/
  closed : ∀ place a, m.broker.adapters[place]? = some a → m.Exited place → a.record.Closed

theorem Kept.inits_work {b : Broker (Recorded α)} (h : Kept accepted ⟨b, false⟩) {place : Nat}
    (hw : b.worker = .built place) :
    ∃ a, (Moment.work ⟨b, false⟩).broker.adapters[place]? = some a ∧ a.record.inits.length = 1 := by
  rcases hcall : b.call place Adapter.init with ⟨b', result⟩
  obtain ⟨earlier, -, rfl, hrecords, -⟩ := h.init hw hcall
  obtain ⟨a, ha, hrecord⟩ := Broker.exists_last hrecords
  refine ⟨a, ?_, by rw [hrecord]; rfl⟩
  cases result with
  | ok _ =>
    rw [work_of_ok hw hcall]
    exact ha
  | error e =>
    rw [work_of_error hw hcall]
    exact ha

theorem Kept.accounts (h : Kept accepted m) : Accounts accepted m := by
  have hrecord {place : Nat} {a : Recorded α} (ha : m.broker.adapters[place]? = some a) :
      m.broker.records[place]? = some a.record := by
    rw [Broker.records, List.getElem?_map, ha]
    rfl
  have hlength : m.broker.records.length = m.broker.adapters.length := List.length_map _
  constructor
  · rw [← hlength]
    exact h.accepted
  · intro hw
    have hledger := h.ledger
    rw [hw] at hledger
    obtain ⟨-, hheld, hentered⟩ := hledger.of_starting
    obtain ⟨b, entering⟩ := m
    obtain rfl : entering = false := hentered
    rw [work_of_not_built (fun place hbuilt => by rw [hw] at hbuilt; cases hbuilt),
      Broker.advance_starting hw, Broker.build_of_unheld hheld]
    exact ⟨hheld, rfl⟩
  · intro place a ha
    obtain hclosed | ⟨-, -, -, ⟨hempty, hw, hentered⟩ | hopen⟩ :=
      h.ledger.cases_of_getElem? (hrecord ha)
    · exact .inl hclosed.length_inits
    · obtain ⟨b, entering⟩ := m
      obtain rfl : entering = false := hentered
      exact .inr ⟨hempty, hw, h.inits_work hw⟩
    · rw [hopen]
      exact .inl rfl
  · intro a ha
    obtain ⟨place, ha⟩ := List.mem_iff_getElem?.mp ha
    obtain (⟨e, hclosed⟩ | ⟨released, hclosed⟩) | ⟨-, -, -, ⟨hempty, -, -⟩ | hopen⟩ :=
      h.ledger.cases_of_getElem? (hrecord ha)
    · rw [hclosed]
      exact ⟨Nat.zero_le 1, fun hne => absurd rfl hne⟩
    · rw [hclosed]
      exact ⟨Nat.le_refl 1, fun _ => rfl⟩
    · rw [hempty]
      exact ⟨Nat.zero_le 1, fun hne => absurd rfl hne⟩
    · rw [hopen]
      exact ⟨Nat.zero_le 1, fun hne => absurd rfl hne⟩
  · intro place a ha hexited
    obtain hclosed | ⟨hlast, hunfinished, hstarting, -⟩ := h.ledger.cases_of_getElem? (hrecord ha)
    · exact hclosed
    · obtain hlater | hw | hexited := hexited
      · omega
      · exact absurd hw hstarting
      · rw [hunfinished] at hexited
        cases hexited

/-- Whatever the owner of a broker does, at whatever moment. -/
theorem released_once (blueprint : α) (stopTimeout : Duration) (registrar : Registrar)
    (moves : List (Move α)) :
    let fresh : Moment (Recorded α) :=
      ⟨Broker.new ⟨blueprint, .empty⟩ stopTimeout registrar, false⟩
    Accounts (starts moves fresh) (fresh.run moves) := by
  intro fresh
  have hfresh : Kept 0 fresh := ⟨.idle nofun rfl rfl rfl, rfl, rfl⟩
  have hkept := hfresh.run moves
  rw [Nat.zero_add] at hkept
  exact hkept.accounts

end Moment
end ResourceBroker
