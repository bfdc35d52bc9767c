import ResourceBroker.Proofs.Broker.Adapters
import ResourceBroker.Proofs.Broker.Worker

/-!
The life of a broker, as long as its adapter is left to an event loop that runs and its worker ends in
time. It is down or it is up, apart from the moments in which a worker is on its way, and a call at
such a moment changes nothing. Adapters are arbitrary, so that each of their operations may fail or
not whatever it did before.
-/

namespace ResourceBroker

def Worker.stepsLeft : Worker → Nat
  | .starting => 4
  | .built _ => 3
  | .looping _ => 2
  | .returned _ => 1
  | .absent | .finished _ | .panicked => 0

theorem Worker.stepsLeft_of_isPastInit {worker : Worker} (h : worker.isPastInit = true) :
    worker.stepsLeft ≤ 2 := by
  cases worker with
  | starting | built _ => cases h
  | absent | looping _ | returned _ | finished _ | panicked => simp [Worker.stepsLeft]

namespace Broker

variable {α : Type}

structure Down (b : Broker α) : Prop where
  worker : b.worker.isUnfinished = false
  held : b.held = none

/-- A worker is at work with an adapter that is in use. Its event loop runs, or is over and the
adapter about to be released. -/
structure Up (b : Broker α) : Prop where
  worker : b.worker.isUnfinished = true
  held : b.held.isSome = true

theorem Up.not_down {b : Broker α} (h : b.Up) : ¬ b.Down := by
  intro hdown
  have hworker := hdown.worker
  rw [h.worker] at hworker
  cases hworker

/-- A worker is at work with the adapter that it has built, and no release has failed since the start
of this worker. -/
structure InUse (place : Nat) (b : Broker α) : Prop where
  worker : b.worker = .looping place ∨ ∃ result, b.worker = .returned result
  held : b.held = some place
  clean : b.deinitFailure = none
  adapter : place < b.adapters.length

/-- Where a broker is in its life, and whether a start has come so far. -/
inductive Standing (b : Broker α) : Bool → Prop where
  | down (started : Bool) (worker : b.worker.isUnfinished = false) (held : b.held = none)
      (phase : b.phase = if started then .stopped else .created) : Standing b started
  | starting (worker : b.worker = .starting) (held : b.held = none)
      (clean : b.deinitFailure = none) : Standing b true
  | built (place : Nat) (worker : b.worker = .built place) (held : b.held = none)
      (clean : b.deinitFailure = none) (adapter : place < b.adapters.length) : Standing b true
  | up (place : Nat) (inUse : b.InUse place) (phase : b.phase = .running) : Standing b true
  | released (result : Except BrokerError StopReason) (worker : b.worker = .returned result)
      (held : b.held = none) : Standing b true

theorem Standing.congr {b b' : Broker α} {started : Bool} (h : b.Standing started)
    (hworker : b'.worker = b.worker) (hheld : b'.held = b.held)
    (hfailure : b'.deinitFailure = b.deinitFailure) (hphase : b'.phase = b.phase)
    (hlength : b'.adapters.length = b.adapters.length) : b'.Standing started := by
  cases h with
  | down _ worker held phase =>
    exact .down started (by rw [hworker]; exact worker) (hheld.trans held) (hphase.trans phase)
  | starting worker held clean =>
    exact .starting (hworker.trans worker) (hheld.trans held) (hfailure.trans clean)
  | built place worker held clean adapter =>
    exact .built place (hworker.trans worker) (hheld.trans held) (hfailure.trans clean)
      (hlength ▸ adapter)
  | up place inUse phase =>
    have hinUse : b'.InUse place :=
      ⟨hworker ▸ inUse.worker, hheld.trans inUse.held, hfailure.trans inUse.clean,
        hlength ▸ inUse.adapter⟩
    exact .up place hinUse (hphase.trans phase)
  | released result worker held =>
    exact .released result (hworker.trans worker) (hheld.trans held)

variable {b : Broker α} {started : Bool}

theorem Standing.begun (h : b.Standing started) (hworker : b.worker.isUnfinished = true) :
    started = true := by
  cases h with
  | down _ worker =>
    rw [worker] at hworker
    cases hworker
  | starting | built _ | up _ | released _ => rfl

theorem Standing.inUse {place : Nat} (h : b.Standing started) (hheld : b.held = some place) :
    started = true ∧ b.InUse place ∧ b.phase = .running := by
  cases h with
  | up place' inUse phase =>
    obtain rfl : place' = place := Option.some.inj (inUse.held.symm.trans hheld)
    exact ⟨rfl, inUse, phase⟩
  | down _ _ held | starting _ held | built _ _ held | released _ _ held =>
    rw [held] at hheld
    cases hheld

theorem Standing.down_of_finished (h : b.Standing started)
    (hworker : b.worker.isUnfinished = false) : b.Down := by
  cases h with
  | down _ worker held => exact ⟨worker, held⟩
  | up place inUse =>
    obtain worker | ⟨result, worker⟩ := inUse.worker <;> rw [worker] at hworker <;> cases hworker
  | starting worker | built _ worker | released _ worker =>
    rw [worker] at hworker
    cases hworker

theorem Standing.phase_of_down (h : b.Standing started) (hdown : b.Down) :
    b.phase = if started then .stopped else .created := by
  cases h with
  | down _ _ _ phase => exact phase
  | starting worker | built _ worker | released _ worker =>
    have hworker := hdown.worker
    rw [worker] at hworker
    cases hworker
  | up place inUse =>
    have hheld := hdown.held
    rw [inUse.held] at hheld
    cases hheld

theorem InUse.up {place : Nat} (h : b.InUse place) : b.Up := by
  refine ⟨?_, by rw [h.held]; rfl⟩
  obtain worker | ⟨result, worker⟩ := h.worker <;> rw [worker] <;> rfl

theorem InUse.exists_adapter {place : Nat} (h : b.InUse place) :
    ∃ a, b.adapters[place]? = some a :=
  ⟨_, List.getElem?_eq_getElem h.adapter⟩

variable [Adapter α]

/-! The worker on its way -/

theorem Standing.initAdapter {place : Nat} (hheld : b.held = none) (hclean : b.deinitFailure = none)
    (hadapter : place < b.adapters.length) : (b.initAdapter place).Standing true := by
  have ha : b.adapters[place]? = some b.adapters[place] := List.getElem?_eq_getElem hadapter
  rcases hinit : Adapter.init b.adapters[place] with ⟨a, inited⟩
  cases inited with
  | error e =>
    rw [initAdapter_of_error ha hinit]
    exact .down true rfl hheld rfl
  | ok _ =>
    have ha' : (b.adapters.set place a)[place]? = some a := List.getElem?_set_self hadapter
    rcases henter : Adapter.enter a with ⟨a', entered⟩
    rw [initAdapter_of_ok ha hinit, enterLoop_of_held rfl ha' henter]
    refine .up place ⟨?_, rfl, hclean, by simpa only [List.length_set] using hadapter⟩ rfl
    cases entered with
    | ok _ => exact .inl rfl
    | error e => exact .inr ⟨_, rfl⟩

theorem Standing.conclude (b : Broker α) (result : Except BrokerError StopReason) :
    (b.conclude result).Standing true := by
  obtain ⟨adapters, failure, report, h⟩ := conclude_frame b result
  rw [h]
  exact .down true rfl rfl rfl

theorem Standing.advance (h : b.Standing started) : b.advance.Standing started := by
  cases h with
  | down _ worker held phase =>
    rw [advance_of_finished worker]
    exact .down started worker held phase
  | starting worker held clean =>
    rw [advance_starting worker, build_of_unheld held]
    exact .built b.adapters.length rfl held clean (by simp)
  | built place worker held clean adapter =>
    rw [advance_built worker]
    exact .initAdapter held clean adapter
  | up place inUse phase =>
    obtain worker | ⟨result, worker⟩ := inUse.worker
    · rw [advance_looping worker]
      cases hleave : b.adapters[place]?.bind Adapter.leave? with
      | none =>
        rw [leaveLoop_of_none hleave]
        exact .up place inUse phase
      | some left =>
        have hadapter := inUse.adapter
        rw [leaveLoop_of_some hleave]
        exact .up place ⟨.inr ⟨_, rfl⟩, inUse.held, inUse.clean, by rwa [List.length_set]⟩ phase
    · rw [advance_returned worker]
      exact .conclude b result
  | released result worker held =>
    rw [advance_returned worker]
    exact .conclude b result

theorem Standing.rests (h : b.Standing started) (hrest : b.advance = b) : b.Down ∨ b.Up := by
  have hsame : b.advance.worker = b.worker := congrArg Broker.worker hrest
  have hreturned {result : Except BrokerError StopReason} : b.worker ≠ .returned result := by
    intro worker
    obtain ⟨adapters, failure, report, hconclude⟩ := conclude_frame b result
    rw [advance_returned worker, hconclude, worker] at hsame
    cases hsame
  cases h with
  | down _ worker held => exact .inl ⟨worker, held⟩
  | starting worker held =>
    rw [advance_starting worker, build_of_unheld held, worker] at hsame
    cases hsame
  | built place worker =>
    obtain ⟨phase, adapters, held, after, hpast, hinit⟩ := initAdapter_frame b place
    rw [advance_built worker, hinit, worker] at hsame
    obtain rfl : after = .built place := hsame
    cases hpast
  | up place inUse => exact .inr inUse.up
  | released result worker => exact absurd worker hreturned

theorem advance_eq_or_lt (b : Broker α) :
    b.advance = b ∨ b.advance.worker.stepsLeft < b.worker.stepsLeft := by
  cases hw : b.worker with
  | starting =>
    right
    rw [advance_starting hw]
    unfold build
    split <;> simp [Worker.stepsLeft, abandon]
  | built place =>
    obtain ⟨phase, adapters, held, after, hpast, hinit⟩ := initAdapter_frame b place
    right
    rw [advance_built hw, hinit]
    exact Nat.lt_succ_of_le (Worker.stepsLeft_of_isPastInit hpast)
  | looping place =>
    rw [advance_looping hw]
    obtain hleave | ⟨adapters, reason, hleave⟩ := leaveLoop_frame b place
    · exact .inl hleave
    · rw [hleave]
      exact .inr (by simp [Worker.stepsLeft])
  | returned result =>
    obtain ⟨adapters, failure, report, hconclude⟩ := conclude_frame b result
    right
    rw [advance_returned hw, hconclude]
    simp [Worker.stepsLeft]
  | absent | finished _ | panicked => exact .inl (advance_of_finished (by rw [hw]; rfl))

theorem settle_none (b : Broker α) : b.settle .none = b.advance.advance.advance.advance := by
  simp only [settle, advanceUnder_none]

theorem advance_settle_none (b : Broker α) : (b.settle .none).advance = b.settle .none := by
  have hstep {n : Nat} {b : Broker α} (h : b.advance = b ∨ b.worker.stepsLeft ≤ n + 1) :
      b.advance.advance = b.advance ∨ b.advance.worker.stepsLeft ≤ n := by
    obtain hrest | hlt := advance_eq_or_lt b
    · exact .inl (congrArg Broker.advance hrest)
    · obtain hrest | hle := h
      · exact .inl (congrArg Broker.advance hrest)
      · exact .inr (by omega)
  have hfirst : b.worker.stepsLeft ≤ 4 := by
    cases b.worker <;> simp [Worker.stepsLeft]
  rw [settle_none]
  obtain hrest | hzero := hstep (hstep (hstep (hstep (.inr hfirst))))
  · exact hrest
  · obtain hrest | hlt := advance_eq_or_lt b.advance.advance.advance.advance
    · exact hrest
    · omega

/-! Stopping -/

/-- What a worker makes of the broker while a stop waits for it: its event loop runs still, was left,
or the adapter was released. -/
inductive Leaving (b : Broker α) (place : Nat) (a : α) : Broker α → Prop where
  | running : Leaving b place a b
  | left (a' : α) (reason : StopReason) (leave : Adapter.leave? a = some (a', reason)) :
      Leaving b place a
        { b with adapters := b.adapters.set place a', worker := .returned (.ok reason) }
  | released (a' a'' : α) (released : Except IpcError Unit) (report : Except BrokerError Unit)
      (leave : a' = a ∨ ∃ reason, Adapter.leave? a = some (a', reason))
      (deinit : Adapter.deinit a' = (a'', released)) :
      Leaving b place a
        { b with
          held := none
          adapters := b.adapters.set place a''
          deinitFailure := failureAfter b.deinitFailure released
          phase := .stopped
          worker := .finished report }

theorem Leaving.advance {b b' : Broker α} {place : Nat} {a : α} (hinUse : b.InUse place)
    (ha : b.adapters[place]? = some a) (h : Leaving b place a b') :
    Leaving b place a b'.advance := by
  cases h with
  | running =>
    obtain hworker | ⟨result, hworker⟩ := hinUse.worker
    · rw [advance_looping hworker]
      cases hleave : Adapter.leave? a with
      | none =>
        rw [leaveLoop_of_none (by rw [ha]; exact hleave)]
        exact .running
      | some left =>
        rw [leaveLoop_of_some (by rw [ha]; exact hleave)]
        exact .left left.1 left.2 hleave
    · rcases hdeinit : Adapter.deinit a with ⟨a', released⟩
      obtain ⟨report, hconclude⟩ := conclude_of_held hinUse.held ha hdeinit result
      rw [advance_returned hworker, hconclude]
      exact .released a a' released report (.inl rfl) hdeinit
  | left a' reason leave =>
    have ha' : (b.adapters.set place a')[place]? = some a' :=
      List.getElem?_set_self hinUse.adapter
    rcases hdeinit : Adapter.deinit a' with ⟨a'', released⟩
    obtain ⟨report, hconclude⟩ := conclude_of_held
      (b := { b with adapters := b.adapters.set place a', worker := .returned (.ok reason) })
      hinUse.held ha' hdeinit (.ok reason)
    simp only [List.set_set] at hconclude
    rw [advance_returned (by rfl), hconclude]
    exact .released a' a'' released report (.inr ⟨reason, leave⟩) hdeinit
  | released a' a'' released report leave deinit =>
    rw [advance_of_finished (by rfl)]
    exact .released a' a'' released report leave deinit

theorem Leaving.settle {b b' : Broker α} {place : Nat} {a : α} {i : Interference}
    (hsound : i.panicRun = false) (hinUse : b.InUse place) (ha : b.adapters[place]? = some a)
    (h : Leaving b place a b') : Leaving b place a (b'.settle i) := by
  have hstep {b' : Broker α} (h : Leaving b place a b') :
      Leaving b place a (b'.advanceUnder i) := by
    obtain hsame | hadvance := advanceUnder_eq hsound b'
    · rwa [hsame]
    · rw [hadvance]
      exact h.advance hinUse ha
  exact hstep (hstep (hstep (hstep h)))

theorem Leaving.down_of_rests {b b' : Broker α} {place : Nat} {a : α}
    (h : Leaving b place a b') (hends : b.advance ≠ b) (hrest : b'.advance = b') : b'.Down := by
  cases h with
  | running => exact absurd hrest hends
  | left a' reason leave =>
    obtain ⟨adapters, failure, report, hconclude⟩ := conclude_frame
      { b with adapters := b.adapters.set place a', worker := .returned (.ok reason) } (.ok reason)
    rw [advance_returned (by rfl), hconclude] at hrest
    cases congrArg Broker.worker hrest
  | released a' a'' released report leave deinit => exact ⟨rfl, rfl⟩

/-- What a stop comes to that the adapter in use has accepted: `a` is the adapter then, and the broker
gives it up after its event loop. -/
def Stopped (b : Broker α) (place : Nat) (a : α) (outcome : Broker α × Except BrokerError Unit) :
    Prop :=
  ∃ a' a'' released, (a' = a ∨ ∃ reason, Adapter.leave? a = some (a', reason)) ∧
    Adapter.deinit a' = (a'', released) ∧
    outcome =
      ({ b with
          held := none
          adapters := b.adapters.set place a''
          deinitFailure := none
          phase := .stopped
          worker := .absent
          stopTimedOut := false }, released.mapError IpcError.toBrokerError)

theorem Leaving.join {b b' : Broker α} {place : Nat} {a : α} (hinUse : b.InUse place)
    (h : Leaving b place a b') :
    b'.join.2 = .error (.stopTimeout b.stopTimeout) ∨ Stopped b place a b'.join := by
  cases h with
  | running =>
    have hunfinished : b.worker.isUnfinished = true := by
      obtain hworker | ⟨result, hworker⟩ := hinUse.worker <;> rw [hworker] <;> rfl
    left
    unfold Broker.join
    rw [if_pos hunfinished]
  | left a' reason leave => exact .inl rfl
  | released a' a'' released report leave deinit =>
    right
    refine ⟨a', a'', released, leave, deinit, ?_⟩
    rw [hinUse.clean]
    cases released <;> rfl

theorem InUse.stop {place : Nat} {a a' : α} {i : Interference} (h : b.InUse place)
    (hsound : i.panicRun = false) (ha : b.adapters[place]? = some a)
    (hstop : Adapter.stop .shutdown a = (a', .ok ())) :
    (b.stop i).2 = .error (.stopTimeout b.stopTimeout) ∨ Stopped b place a' (b.stop i) := by
  have ha' : (b.adapters.set place a')[place]? = some a' := List.getElem?_set_self h.adapter
  have hinUse : InUse place
      { b with adapters := b.adapters.set place a', phase := .stopping } :=
    ⟨h.worker, h.held, h.clean, by simpa only [List.length_set] using h.adapter⟩
  have hleaving : Leaving _ place a' _ := Leaving.running.settle hsound hinUse ha'
  unfold Broker.stop
  rw [signal_of_ok h.held ha hstop]
  obtain htimeout | ⟨left, after, released, hleft, hdeinit, hjoin⟩ := hleaving.join hinUse
  · exact .inl htimeout
  · refine .inr ⟨left, after, released, hleft, hdeinit, ?_⟩
    simpa only [List.set_set] using hjoin

/-! Starting -/

/-- The adapter is initialised and enters its event loop, and neither fails. A loop that ends at once
has not failed, but has ended by itself. -/
def ComesUp (a : α) : Prop :=
  ∃ a' a'', Adapter.init a = (a', .ok ()) ∧ Adapter.enter a' = (a'', .ok ()) ∧
    Adapter.leave? a'' = none

/-- What a worker makes of the adapter `a` that it has built after the `earlier` ones, with that
gateway attached. -/
structure Launched (gateway : Option Nat) (earlier : List α) (a : α) (b : Broker α) : Prop where
  adapters : ∃ a', b.adapters = earlier ++ [a']
  attached : b.registrar.attached = gateway
  up : ComesUp a → b.Up
  down : ¬ ComesUp a → b.Down

section Launched

variable {gateway : Option Nat} {earlier : List α} {a last : α}

theorem launched_of_returned {result : Except BrokerError StopReason}
    (hattached : b.registrar.attached = gateway) (hworker : b.worker = .returned result)
    (hheld : b.held = some earlier.length) (hadapters : b.adapters = earlier ++ [last])
    (hfails : ¬ ComesUp a) : Launched gateway earlier a b.advance := by
  rcases hdeinit : Adapter.deinit last with ⟨after, released⟩
  obtain ⟨report, hconclude⟩ := conclude_of_held hheld
    (by rw [hadapters]; exact List.getElem?_concat_length) hdeinit result
  rw [advance_returned hworker, hconclude, hadapters, set_last]
  exact ⟨⟨after, rfl⟩, hattached, fun hup => absurd hup hfails, fun _ => ⟨rfl, rfl⟩⟩

theorem launched_of_looping (hattached : b.registrar.attached = gateway)
    (hworker : b.worker = .looping earlier.length) (hheld : b.held = some earlier.length)
    (hadapters : b.adapters = earlier ++ [last])
    (hcomesUp : ComesUp a ↔ Adapter.leave? last = none) :
    Launched gateway earlier a b.advance.advance := by
  have hlast : b.adapters[earlier.length]? = some last := by
    rw [hadapters]
    exact List.getElem?_concat_length
  cases hleave : Adapter.leave? last with
  | none =>
    have hstays : b.advance = b := by
      rw [advance_looping hworker]
      exact leaveLoop_of_none (by rw [hlast]; exact hleave)
    rw [hstays, hstays]
    have hup : b.Up := ⟨by rw [hworker]; rfl, by rw [hheld]; rfl⟩
    exact ⟨⟨last, hadapters⟩, hattached, fun _ => hup,
      fun hfails => absurd (hcomesUp.mpr hleave) hfails⟩
  | some left =>
    have hfails : ¬ ComesUp a := by
      rw [hcomesUp, hleave]
      exact Option.some_ne_none left
    rw [advance_looping hworker, leaveLoop_of_some (by rw [hlast]; exact hleave), hadapters,
      set_last]
    exact launched_of_returned hattached rfl hheld rfl hfails

theorem launched_of_built (hattached : b.registrar.attached = gateway)
    (hworker : b.worker = .built earlier.length) (hheld : b.held = none)
    (hadapters : b.adapters = earlier ++ [a]) :
    Launched gateway earlier a b.advance.advance.advance := by
  have hlast (a : α) : (earlier ++ [a])[earlier.length]? = some a := List.getElem?_concat_length
  have ha : b.adapters[earlier.length]? = some a := by rw [hadapters]; exact hlast a
  have hbound : (b.registrar.bind .broker).attached = gateway :=
    (Registrar.attached_bind _ _).trans hattached
  have hstays {b : Broker α} (h : Launched gateway earlier a b) (hfails : ¬ ComesUp a) :
      Launched gateway earlier a b.advance := by
    rwa [advance_of_finished (h.down hfails).worker]
  rw [advance_built hworker]
  rcases hinit : Adapter.init a with ⟨a', inited⟩
  cases inited with
  | error e =>
    have hfails : ¬ ComesUp a := by
      rintro ⟨_, _, hok, -⟩
      rw [hinit] at hok
      cases hok
    rw [initAdapter_of_error ha hinit, hadapters, set_last]
    exact ⟨⟨a', rfl⟩, hattached, fun hup => absurd hup hfails, fun _ => ⟨rfl, hheld⟩⟩
  | ok _ =>
    rcases henter : Adapter.enter a' with ⟨a'', entered⟩
    rw [initAdapter_of_ok ha hinit, hadapters, set_last,
      enterLoop_of_held rfl (hlast a') henter, set_last]
    cases entered with
    | error e =>
      have hfails : ¬ ComesUp a := by
        rintro ⟨_, _, hok, hentered, -⟩
        obtain ⟨rfl, -⟩ := Prod.mk.inj (hinit.symm.trans hok)
        rw [henter] at hentered
        cases hentered
      exact hstays (launched_of_returned hbound rfl rfl rfl hfails) hfails
    | ok _ =>
      refine launched_of_looping hbound rfl rfl rfl ⟨?_, fun hstays => ?_⟩
      · rintro ⟨_, _, hok, hentered, hstays⟩
        obtain ⟨rfl, -⟩ := Prod.mk.inj (hinit.symm.trans hok)
        obtain ⟨rfl, -⟩ := Prod.mk.inj (henter.symm.trans hentered)
        exact hstays
      · exact ⟨a', a'', hinit, henter, hstays⟩

end Launched

omit [Adapter α] in
theorem Down.start (h : b.Down) (place : Nat) :
    b.start place =
      ({ b with
          registrar := b.registrar.attach place
          stopTimedOut := false
          deinitFailure := none
          phase := .started
          worker := .starting }, .ok ()) := by
  unfold Broker.start
  rw [if_neg (by rw [h.worker]; decide)]

theorem Down.launched (h : b.Down) (place : Nat) :
    Launched (some place) b.adapters b.blueprint ((b.start place).1.settle .none) := by
  obtain ⟨started, hstarted⟩ : ∃ started, (b.start place).1 = started := ⟨_, rfl⟩
  have hheld : started.held = none := by rw [← hstarted, h.start]; exact h.held
  have hworker : started.worker = .starting := by rw [← hstarted, h.start]
  have hadapters : started.adapters = b.adapters := by rw [← hstarted, h.start]
  have hblueprint : started.blueprint = b.blueprint := by rw [← hstarted, h.start]
  have hattached : started.registrar.attached = some place := by rw [← hstarted, h.start]; rfl
  rw [hstarted, settle_none, advance_starting hworker, build_of_unheld hheld, hadapters, hblueprint]
  exact launched_of_built hattached rfl hheld rfl

end Broker
end ResourceBroker
