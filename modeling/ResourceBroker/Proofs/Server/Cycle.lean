import ResourceBroker.Proofs.Server.Action

/-!
The cycles of a socket adapter, from an `init` that succeeds to the `deinit` that does. What has been
called and answered decides where the adapter is: whether it is in a cycle, which stops were issued in
it, and whether the one run of the cycle is due, underway or has returned. This rests on a release that
does not come while the event loop runs.
-/

namespace ResourceBroker

variable {σ : Type}

/-- The run of a cycle. There is one at most. -/
inductive CycleRun where
  | due
  | underway
  | returned (reason : StopReason)
deriving DecidableEq

def CycleRun.loop : CycleRun → LoopState
  | .due => .ready
  | .underway => .running
  | .returned _ => .over

structure SocketCycle where
  stops : List StopReason
  run : CycleRun
deriving DecidableEq

namespace SocketCycle

/-- How a cycle goes on by what was called and answered. Outside of one there is none. -/
def follow (cycle : Option SocketCycle) : SocketAction × SocketAnswer → Option SocketCycle
  | (.init, .done) => some ⟨[], .due⟩
  | (.deinit, .done) => none
  | (.stop reason, .done) => cycle.map fun k => { k with stops := k.stops ++ [reason] }
  | (.run, .done) => cycle.map fun k => { k with run := .underway }
  | (.look, .returned reason) => cycle.map fun k => { k with run := .returned reason }
  | _ => cycle

def current (history : List (SocketAction × SocketAnswer)) : Option SocketCycle :=
  history.foldl follow none

theorem current_concat (history : List (SocketAction × SocketAnswer))
    (entry : SocketAction × SocketAnswer) :
    current (history ++ [entry]) = follow (current history) entry := by
  rw [current, List.foldl_append]
  rfl

theorem follow_none {action : SocketAction} (h : action ≠ .init) (answer : SocketAnswer) :
    follow none (action, answer) = none := by
  cases action with
  | init => exact absurd rfl h
  | deinit | stop reason | run | look | meets event => cases answer <;> rfl

theorem begun_of_current {cycle : SocketCycle} {history : List (SocketAction × SocketAnswer)}
    (h : current history = some cycle) : (.init, .done) ∈ history := by
  induction history using List.reverseRecOn generalizing cycle with
  | nil => cases h
  | append_singleton history entry ih =>
    rw [List.mem_append, List.mem_singleton]
    rw [current_concat] at h
    cases hcurrent : current history with
    | some before => exact .inl (ih hcurrent)
    | none =>
      obtain ⟨action, answer⟩ := entry
      rw [hcurrent] at h
      by_cases haction : action = .init
      · subst haction
        cases answer <;> first | exact .inr rfl | cases h
      · rw [follow_none haction] at h
        cases h

end SocketCycle

open SocketCycle (current follow)

namespace Server

/-- No release comes while the event loop runs. -/
def InOrder (handler : TellingHandler σ) (s : Server σ) (actions : List SocketAction) : Prop :=
  ∀ before after, actions = before ++ .deinit :: after →
    ∀ cycle ∈ current (s.history handler before), cycle.run ≠ .underway

section

variable {handler : TellingHandler σ} {s : Server σ} {actions : List SocketAction}
  {action : SocketAction}

theorem inOrder_iff :
    s.InOrder handler actions ↔ ∀ i : Fin actions.length, actions[i] = .deinit →
      ∀ cycle ∈ current (s.history handler (actions.take i)), cycle.run ≠ .underway := by
  constructor
  · intro h i hi
    refine h (actions.take i) (actions.drop (i + 1)) ?_
    rw [← hi, Fin.getElem_fin, ← List.drop_eq_getElem_cons, List.take_append_drop]
  · rintro h before after rfl
    simpa using h ⟨before.length, by simp⟩ (by simp)

instance : Decidable (s.InOrder handler actions) := decidable_of_iff' _ inOrder_iff

theorem InOrder.of_append {rest : List SocketAction} (h : s.InOrder handler (actions ++ rest)) :
    s.InOrder handler actions := by
  rintro before after rfl
  exact h before (after ++ rest) (by simp)

/-! The answers, by where the event loop is. -/

theorem act_of_released (h : s.adapter.loop = .released) :
    s.act handler .deinit = (s, .failed .notInitialized) ∧
      (∀ reason, s.act handler (.stop reason) = (s, .failed .notInitialized)) ∧
      s.act handler .run = (s, .failed .notInitialized) := by
  refine ⟨?_, fun reason => ?_, ?_⟩
  · simp [act, call, SocketAdapter.deinit, h, SocketAnswer.ofResult]
  · simp [act, call, SocketAdapter.stop, h, SocketAnswer.ofResult]
  · simp [act, call, SocketAdapter.enter, h, SocketAnswer.ofResult]

theorem act_init_of_released (h : s.adapter.loop = .released) :
    s.act handler .init =
      if s.adapter.site.bind?.isSome then
        ({ s with adapter :=
            { s.adapter with site := .socket, loop := .ready, stopReason := none } }, .done)
      else (s, .failed .io) := by
  cases hsite : s.adapter.site <;>
    simp [act, call, SocketAdapter.init, h, hsite, SocketSite.bind?, SocketAnswer.ofResult]

theorem act_init_of_not_released (h : s.adapter.loop ≠ .released) :
    s.act handler .init = (s, .failed .alreadyInitialized) := by
  simp [act, call, SocketAdapter.init, h, SocketAnswer.ofResult]

theorem act_deinit_of_not_released (h : s.adapter.loop ≠ .released) :
    s.act handler .deinit =
      ({ s with adapter :=
          { s.adapter with
            site := .vacant, loop := .released, stray := s.adapter.isLooping, clients := [],
            refused := [] } }, .done) := by
  simp [act, call, SocketAdapter.deinit, h, SocketAnswer.ofResult]

theorem act_stop_of_not_released (h : s.adapter.loop ≠ .released) (reason : StopReason) :
    s.act handler (.stop reason) =
      ({ s with adapter := { s.adapter with stopReason := some reason } }, .done) := by
  simp [act, call, SocketAdapter.stop, h, SocketAnswer.ofResult]

theorem act_run_of_ready (h : s.adapter.loop = .ready) :
    s.act handler .run = ({ s with adapter := { s.adapter with loop := .running } }, .done) := by
  simp [act, call, SocketAdapter.enter, h, SocketAnswer.ofResult]

theorem act_run_again (h : s.adapter.loop = .running ∨ s.adapter.loop = .over) :
    s.act handler .run = (s, .failed (.serverError "Event loop already running")) := by
  obtain h | h := h <;> simp [act, call, SocketAdapter.enter, h, SocketAnswer.ofResult]

theorem act_look_of_running (h : s.adapter.loop = .running) :
    s.act handler .look = match s.adapter.stopReason with
      | some reason =>
        ({ s with adapter := { s.adapter with loop := .over, stray := false } }, .returned reason)
      | none => (s, .silent) := by
  cases hreason : s.adapter.stopReason <;>
    simp [act, SocketAdapter.leave?, SocketAdapter.isLooping, h, hreason]

theorem act_look_of_not_running (h : s.adapter.loop ≠ .running) (hstray : s.adapter.stray = false) :
    s.act handler .look = (s, .silent) := by
  simp [act, SocketAdapter.leave?, SocketAdapter.isLooping, h, hstray]

end

/-! An adapter between two calls, held against what was called and answered so far. -/

structure IsOutside (a : SocketAdapter) : Prop where
  loop : a.loop = .released
  stray : a.stray = false

structure IsInside (cycle : SocketCycle) (a : SocketAdapter) : Prop where
  loop : a.loop = cycle.run.loop
  stray : a.stray = false
  site : a.site = .socket
  stopReason : a.stopReason = cycle.stops.getLast?
  returned {reason : StopReason} : cycle.run = .returned reason → reason ∈ cycle.stops

/-- Outside of a cycle the place is as it was at first, and after the first cycle it is vacant. -/
def InStep (site : SocketSite) (history : List (SocketAction × SocketAnswer)) (a : SocketAdapter) :
    Prop :=
  match current history with
  | none => IsOutside a ∧ a.site = if (.init, .done) ∈ history then .vacant else site
  | some cycle => IsInside cycle a

section

variable {handler : TellingHandler σ} {s : Server σ} {a : SocketAdapter} {cycle : SocketCycle}
  {action : SocketAction} {site : SocketSite} {history : List (SocketAction × SocketAnswer)}

theorem IsOutside.act (h : IsOutside s.adapter) (haction : action ≠ .init) :
    (s.act handler action).1 = s := by
  obtain ⟨hdeinit, hstop, hrun⟩ := @act_of_released σ handler s h.loop
  have hidle : s.adapter.loop ≠ .running := by
    rw [h.loop]
    decide
  cases action with
  | init => exact absurd rfl haction
  | deinit => simp [hdeinit]
  | stop reason => simp [hstop]
  | run => simp [hrun]
  | look => simp [act_look_of_not_running hidle h.stray]
  | meets event => simp [Server.act, hidle]

theorem IsInside.running_iff (h : IsInside cycle a) : a.loop = .running ↔ cycle.run = .underway := by
  rw [h.loop]
  cases cycle.run <;> simp [CycleRun.loop]

theorem IsInside.not_released (h : IsInside cycle a) : a.loop ≠ .released := by
  rw [h.loop]
  cases cycle.run <;> simp [CycleRun.loop]

theorem IsInside.act_run (h : IsInside cycle s.adapter) :
    s.act handler .run =
      if cycle.run = .due then
        ({ s with adapter := { s.adapter with loop := .running } }, .done)
      else (s, .failed (.serverError "Event loop already running")) := by
  have hloop := h.loop
  obtain ⟨stops, run⟩ := cycle
  cases run with
  | due => exact act_run_of_ready hloop
  | underway => exact act_run_again (.inl hloop)
  | returned reason => exact act_run_again (.inr hloop)

theorem IsInside.act_look (h : IsInside cycle s.adapter) :
    s.act handler .look = match cycle.run, cycle.stops.getLast? with
      | .underway, some reason =>
        ({ s with adapter := { s.adapter with loop := .over, stray := false } }, .returned reason)
      | _, _ => (s, .silent) := by
  have hrunning := h.running_iff
  have hreason := h.stopReason
  obtain ⟨stops, run⟩ := cycle
  cases run with
  | underway =>
    rw [act_look_of_running (hrunning.mpr rfl), hreason]
    cases stops.getLast? <;> rfl
  | due | returned => exact act_look_of_not_running (by simp [hrunning]) h.stray

theorem IsInside.act_look_iff (h : IsInside cycle s.adapter) (hunderway : cycle.run = .underway)
    (reason : StopReason) :
    (s.act handler .look).2 = .returned reason ↔ cycle.stops.getLast? = some reason := by
  rw [h.act_look, hunderway]
  rcases cycle.stops.getLast? with - | last <;> simp

theorem IsInside.step (h : IsInside cycle s.adapter) (e : ConnectionEvent) :
    IsInside cycle (s.step handler e).adapter := by
  obtain ⟨clients, refused, sent, hsame⟩ := step_keeps handler s e
  rw [hsame]
  exact ⟨h.loop, h.stray, h.site, h.stopReason, h.returned⟩

theorem inStep_of_inside {a : SocketAdapter} (hcycle : current history = some cycle)
    (h : IsInside cycle a) : InStep site history a := by
  rw [InStep, hcycle]
  exact h

theorem InStep.step_outside (h : IsOutside s.adapter)
    (hsite : s.adapter.site = if (.init, .done) ∈ history then .vacant else site)
    (hcycle : current history = none) :
    InStep site (history ++ [(action, (s.act handler action).2)])
      (s.act handler action).1.adapter := by
  have hstay {answer : SocketAnswer} (hfollow : follow none (action, answer) = none)
      (hinit : (.init, .done) ≠ (action, answer)) :
      InStep site (history ++ [(action, answer)]) s.adapter := by
    rw [InStep, SocketCycle.current_concat, hcycle, hfollow]
    refine ⟨h, ?_⟩
    simpa [List.mem_append, hinit] using hsite
  by_cases haction : action = .init
  · subst haction
    rw [act_init_of_released h.loop]
    split_ifs
    · refine @inStep_of_inside ⟨[], .due⟩ _ _ _ (SocketCycle.current_concat _ _) ?_
      exact ⟨rfl, h.stray, rfl, rfl, nofun⟩
    · exact hstay rfl nofun
  · rw [h.act haction]
    refine hstay (SocketCycle.follow_none haction _) fun heq => haction ?_
    exact (congrArg Prod.fst heq).symm

theorem InStep.step_inside (h : IsInside cycle s.adapter) (hcycle : current history = some cycle)
    (hrelease : action = .deinit → cycle.run ≠ .underway) :
    InStep site (history ++ [(action, (s.act handler action).2)])
      (s.act handler action).1.adapter := by
  have hstay {answer : SocketAnswer} {a : SocketAdapter} (ha : IsInside cycle a)
      (hfollow : follow (some cycle) (action, answer) = some cycle) :
      InStep site (history ++ [(action, answer)]) a :=
    inStep_of_inside (by rw [SocketCycle.current_concat, hcycle, hfollow]) ha
  cases action with
  | init =>
    rw [act_init_of_not_released h.not_released]
    exact hstay h rfl
  | deinit =>
    have hidle : ¬s.adapter.loop = .running := h.running_iff.not.mpr (hrelease rfl)
    rw [act_deinit_of_not_released h.not_released, InStep, SocketCycle.current_concat]
    refine ⟨⟨rfl, by simp [SocketAdapter.isLooping, hidle, h.stray]⟩, ?_⟩
    rw [if_pos (List.mem_append_left _ (SocketCycle.begun_of_current hcycle))]
  | stop reason =>
    rw [act_stop_of_not_released h.not_released]
    refine @inStep_of_inside { cycle with stops := cycle.stops ++ [reason] } _ _ _ ?_ ?_
    · rw [SocketCycle.current_concat, hcycle]
      rfl
    · exact ⟨h.loop, h.stray, h.site, by simp, fun hreturned =>
        List.mem_append_left _ (h.returned hreturned)⟩
  | run =>
    rw [h.act_run]
    split_ifs with hdue
    · refine @inStep_of_inside { cycle with run := .underway } _ _ _ ?_ ?_
      · rw [SocketCycle.current_concat, hcycle]
        rfl
      · exact ⟨rfl, h.stray, h.site, h.stopReason, nofun⟩
    · exact hstay h rfl
  | look =>
    rw [h.act_look]
    split
    · next reason _ hreason =>
      refine @inStep_of_inside { cycle with run := .returned reason } _ _ _ ?_ ?_
      · rw [SocketCycle.current_concat, hcycle]
        rfl
      · refine ⟨rfl, rfl, h.site, h.stopReason, fun hreturned => ?_⟩
        cases hreturned
        exact List.mem_of_getLast? hreason
    · exact hstay h rfl
  | meets event =>
    rw [act]
    split_ifs
    · exact hstay (h.step event) rfl
    · exact hstay h rfl

theorem InStep.step (h : InStep site history s.adapter)
    (hrelease : action = .deinit → ∀ cycle ∈ current history, cycle.run ≠ .underway) :
    InStep site (history ++ [(action, (s.act handler action).2)])
      (s.act handler action).1.adapter := by
  cases hcycle : current history with
  | none =>
    rw [InStep, hcycle] at h
    exact step_outside h.1 h.2 hcycle
  | some cycle =>
    rw [InStep, hcycle] at h
    exact step_inside h hcycle fun hdeinit => hrelease hdeinit cycle hcycle

theorem InStep.stray (h : InStep site history a) : a.stray = false := by
  unfold InStep at h
  split at h
  · exact h.1.stray
  · exact h.stray

theorem InStep.not_running (h : InStep site history a)
    (hrun : ∀ cycle ∈ current history, cycle.run ≠ .underway) : a.loop ≠ .running := by
  unfold InStep at h
  split at h
  · rw [h.1.loop]
    decide
  · next cycle hcycle => exact h.running_iff.not.mpr (hrun cycle hcycle)

end

theorem InStep.acted {handler : TellingHandler σ} {site : SocketSite} {maxConnections : Nat}
    {clock : Timestamp} {owner : σ} {actions : List SocketAction}
    (horder : InOrder handler ⟨.new site maxConnections clock, owner⟩ actions) :
    InStep site (history handler actions ⟨.new site maxConnections clock, owner⟩)
      (Server.acted handler actions ⟨.new site maxConnections clock, owner⟩).adapter := by
  induction actions using List.reverseRecOn with
  | nil => exact ⟨⟨rfl, rfl⟩, rfl⟩
  | append_singleton actions action ih =>
    rw [history_concat, acted_concat]
    refine (ih horder.of_append).step ?_
    rintro rfl
    exact horder actions [] rfl

/-- Outside of a cycle `init` opens one, and nothing else has an effect. -/
structure AnswersOutside (handler : TellingHandler σ) (s : Server σ) : Prop where
  init : (s.act handler .init).2 = .done
  deinit : s.act handler .deinit = (s, .failed .notInitialized)
  stop : ∀ reason, s.act handler (.stop reason) = (s, .failed .notInitialized)
  run : s.act handler .run = (s, .failed .notInitialized)
  look : s.act handler .look = (s, .silent)

/-- Inside of a cycle the first run begins, and any further one fails. Once a stop was issued in the
cycle, and not before, the run returns with the last one. -/
structure AnswersInside (handler : TellingHandler σ) (cycle : SocketCycle) (s : Server σ) : Prop where
  init : s.act handler .init = (s, .failed .alreadyInitialized)
  deinit : (s.act handler .deinit).2 = .done
  stop : ∀ reason, (s.act handler (.stop reason)).2 = .done
  run : cycle.run = .due → (s.act handler .run).2 = .done
  runAgain : cycle.run ≠ .due →
    s.act handler .run = (s, .failed (.serverError "Event loop already running"))
  returns : cycle.run = .underway →
    ((∃ reason, (s.act handler .look).2 = .returned reason) ↔ cycle.stops ≠ [])
  returnsLast : cycle.run = .underway → ∀ reason,
    (s.act handler .look).2 = .returned reason ↔ cycle.stops.getLast? = some reason
  look : cycle.run ≠ .underway → s.act handler .look = (s, .silent)
  returned : ∀ reason, cycle.run = .returned reason → reason ∈ cycle.stops

structure AnswersInStep (handler : TellingHandler σ)
    (history : List (SocketAction × SocketAnswer)) (s : Server σ) : Prop where
  outside : current history = none → AnswersOutside handler s
  inside : ∀ cycle, current history = some cycle → AnswersInside handler cycle s
  site : (.init, .done) ∈ history →
    s.adapter.site = if (current history).isSome then .socket else .vacant

section

variable {handler : TellingHandler σ} {site : SocketSite} {cycle : SocketCycle} {s : Server σ}
  {history : List (SocketAction × SocketAnswer)}

theorem IsOutside.answers (h : IsOutside s.adapter) (hbind : s.adapter.site.bind?.isSome) :
    AnswersOutside handler s := by
  obtain ⟨hdeinit, hstop, hrun⟩ := @act_of_released σ handler s h.loop
  refine ⟨?_, hdeinit, hstop, hrun, ?_⟩
  · rw [act_init_of_released h.loop, if_pos hbind]
  · exact act_look_of_not_running (by simp [h.loop]) h.stray

theorem IsInside.answers (h : IsInside cycle s.adapter) : AnswersInside handler cycle s where
  init := act_init_of_not_released h.not_released
  deinit := by rw [act_deinit_of_not_released h.not_released]
  stop reason := by rw [act_stop_of_not_released h.not_released]
  run hdue := by rw [h.act_run, if_pos hdue]
  runAgain hdue := by rw [h.act_run, if_neg hdue]
  returns hunderway := by
    rw [← List.getLast?_isSome, Option.isSome_iff_exists]
    exact exists_congr fun reason => h.act_look_iff hunderway reason
  returnsLast hunderway := h.act_look_iff hunderway
  look hunderway := act_look_of_not_running (h.running_iff.not.mpr hunderway) h.stray
  returned _ := h.returned

theorem InStep.answers (h : InStep site history s.adapter) (hsite : site.bind?.isSome) :
    AnswersInStep handler history s := by
  unfold InStep at h
  refine ⟨fun hcycle => ?_, fun cycle hcycle => ?_, fun hbegun => ?_⟩
  · rw [hcycle] at h
    refine h.1.answers ?_
    rw [h.2]
    split_ifs
    · rfl
    · exact hsite
  · rw [hcycle] at h
    exact h.answers
  · cases hcycle : current history with
    | none =>
      rw [hcycle] at h
      rw [h.2, if_pos hbegun]
      rfl
    | some cycle =>
      rw [hcycle] at h
      exact h.site

end

theorem cycle_history (handler : TellingHandler σ) (site : SocketSite) (maxConnections : Nat)
    (clock : Timestamp) (owner : σ) (actions : List SocketAction) (hsite : site.bind?.isSome)
    (horder : InOrder handler ⟨.new site maxConnections clock, owner⟩ actions) :
    let start : Server σ := ⟨.new site maxConnections clock, owner⟩
    AnswersInStep handler (start.history handler actions) (start.acted handler actions) := by
  intro start
  exact (InStep.acted horder).answers hsite

/-- The second cycle begins without the stop of the first, and has two of its own when its run is
underway. -/
def sampleCalls : List SocketAction :=
  [.init, .stop .shutdown, .deinit, .init, .stop (.error .notSupported), .run, .stop .shutdown]

theorem cycle_history_sample :
    let handler : TellingHandler Unit := .registering fun _ _ => pure (.rejected .failed)
    let start : Server Unit := ⟨.new (.file 0o644) 1 ⟨0, 0, 0⟩, ()⟩
    let s := start.acted handler sampleCalls
    start.adapter.site.bind?.isSome ∧ start.InOrder handler sampleCalls ∧
    current (start.history handler sampleCalls) =
      some ⟨[.error .notSupported, .shutdown], .underway⟩ ∧
    s.act handler .init = (s, .failed .alreadyInitialized) ∧
    s.act handler .run = (s, .failed (.serverError "Event loop already running")) ∧
    (s.act handler .look).2 = .returned .shutdown ∧ s.adapter.site = .socket := by
  intro handler start s
  have horder : start.InOrder handler sampleCalls := by decide +kernel
  have hcycle : current (start.history handler sampleCalls) =
      some ⟨[.error .notSupported, .shutdown], .underway⟩ := by decide +kernel
  have hbegun : (.init, .done) ∈ start.history handler sampleCalls := by decide +kernel
  have hanswers := cycle_history handler (.file 0o644) 1 ⟨0, 0, 0⟩ () sampleCalls rfl horder
  have hinside := hanswers.inside _ hcycle
  refine ⟨rfl, horder, hcycle, hinside.init, hinside.runAgain nofun,
    (hinside.returnsLast rfl .shutdown).mpr rfl, ?_⟩
  rw [hanswers.site hbegun, hcycle]
  rfl

end Server
end ResourceBroker
