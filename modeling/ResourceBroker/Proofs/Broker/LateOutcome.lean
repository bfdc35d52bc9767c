import ResourceBroker.Proofs.Broker.Verdict

/-!
Outcomes that come late. While one registration waits, a gateway may still run a callback of another
one, whose application is gone by then. It ends the wait all the same: the flag knows no owner. It goes
no further, though. Nobody is told, the application that was waiting keeps its place, and what is
decided about it afterwards still reaches it and the connection that it came from.
-/

namespace ResourceBroker

theorem Registrar.gateways_deliver_failed (recipient : Recipient) (error : CloudClientError)
    (r : Registrar) : (r.deliver recipient (.failed error)).value.gateways = r.gateways := by
  cases recipient <;> rfl

theorem Registrar.gateways_before_of_failed {firing : Firing} {r : Registrar} {d : Delivery}
    (h : firing.delivery? r = some d) {error : CloudClientError}
    (hfailed : d.outcome = .failed error) : d.before.gateways = r.gateways := by
  cases firing with
  | bound place outcome =>
    obtain ⟨recipient, -, rfl⟩ := Option.map_eq_some_iff.mp h
    rfl
  | binding place index outcome =>
    obtain ⟨recipient, -, rfl⟩ := Option.map_eq_some_iff.mp h
    rfl
  | underway place index =>
    obtain ⟨recipient, -, rfl⟩ := Option.map_eq_some_iff.mp h
    cases hfailed

namespace Broker

variable {α : Type} [Adapter α]

theorem registry_step_of_pending {b : Broker α} (horderly : Orderly b) {t : AccessToken}
    (hpending : b.registrar.registry.registration = .pending t) (a : Action α) :
    (a.step b).registrar.registry = b.registrar.registry ∨
      ∃ firing d, a = .fire firing ∧ firing.delivery? b.registrar = some d := by
  rw [registrar_step horderly]
  cases a with
  | start place =>
    left
    rw [Action.effect, Telling.value_pure]
    split <;> rfl
  | advance i =>
    left
    rw [Action.effect, Telling.value_pure]
    split
    · exact Registrar.registry_bind _ _
    · rfl
  | register connection definition during =>
    left
    have hrefused : b.registrar.registry.request connection definition b.registrar.nextToken =
        .error .registrationInProgress := by
      generalize b.registrar.registry = registry at hpending
      obtain ⟨registration, table⟩ := registry
      obtain rfl : registration = .pending t := hpending
      exact Registry.request_waiting ..
    rw [Action.effect, Registrar.registerDuring_of_error hrefused]
    rfl
  | fire firing =>
    cases hd : firing.delivery? b.registrar with
    | none =>
      left
      rw [Action.effect, Registrar.fire_of_no_delivery hd]
      rfl
    | some d => exact .inr ⟨firing, d, rfl, hd⟩
  | stop _ | deinit | transport _ _ | blueprint _ | script _ _ _ | connectionClosed _
  | unsupported _ => exact .inl rfl

/-- What becomes of the registration `t` that waits after a run, when the callback `late` then runs
and comes to the delivery `d`. -/
structure EndsWait (fresh : Broker α) (actions : List (Action α)) (t : AccessToken) (late : Firing)
    (d : Delivery) : Prop where
  ended : (fresh.run (actions ++ [.fire late])).registrar.registry.registration = .idle
  kept : ∃ e, (fresh.run actions).registrar.registry.applications = [e] ∧
    (fresh.run (actions ++ [.fire late])).registrar.registry.applications = [e] ∧
    e.token = t ∧ e.registered = false
  silent : (Action.fire late : Action α).attempts (fresh.run actions) = []
  /-- Whoever is bound at a gateway stays bound there after a failure. -/
  bound : ∀ error, d.outcome = .failed error →
    (fresh.run (actions ++ [.fire late])).registrar.gateways = (fresh.run actions).registrar.gateways
  /-- The next outcome that reaches the application itself, whatever comes before it, is told to the
  connection whose request was answered with the token, and decides about the application. -/
  heard : ∃ c, (c, .accepted t) ∈ fresh.trace Action.replies actions ∧
    ∀ between next d',
      (∀ d'' ∈ (fresh.run (actions ++ [.fire late])).trace Action.deliveries between,
        d''.recipient ≠ .application t) →
      next.delivery? (fresh.run (actions ++ .fire late :: between)).registrar = some d' →
      d'.recipient = .application t →
      (Action.fire next : Action α).attempts (fresh.run (actions ++ .fire late :: between)) =
        [(c, d'.outcome.status)] ∧
      (d'.outcome = .completed →
        (fresh.run (actions ++ .fire late :: between ++ [.fire next])).registrar.registry.isRegistered?
          t = some true) ∧
      (∀ error, d'.outcome = .failed error →
        ¬ (fresh.run (actions ++ .fire late :: between ++ [.fire next])).registrar.registry.Holds t)

variable {fresh : Broker α} {actions : List (Action α)} {c : ConnectionId} {t : AccessToken}

theorem decides_of_quiet {firing : Firing} {d : Delivery}
    (haccount : Accounted (fresh.trace Action.replies actions)
      (fresh.trace Action.deliveries actions) (fresh.run actions).registrar)
    (hreply : (c, .accepted t) ∈ fresh.trace Action.replies actions)
    (hquiet : pushesFor t (fresh.trace Action.deliveries actions) = [])
    (hd : firing.delivery? (fresh.run actions).registrar = some d)
    (hrecipient : d.recipient = .application t) :
    (Action.fire firing : Action α).attempts (fresh.run actions) = [(c, d.outcome.status)] ∧
      (d.outcome = .completed →
        (fresh.run (actions ++ [.fire firing])).registrar.registry.isRegistered? t = some true) ∧
      (∀ error, d.outcome = .failed error →
        ¬ (fresh.run (actions ++ [.fire firing])).registrar.registry.Holds t) := by
  obtain ⟨e, hregistry, rfl, rfl, hunregistered⟩ := haccount.eq_singleton_of_quiet hreply hquiet
  obtain ⟨hbefore, -⟩ := Registrar.before_of_delivery? hd
  have hhear := Registry.hear_own hunregistered
    (fresh.run actions).registrar.registry.registration d.outcome
  have htold : d.before.registry.hear d.recipient d.outcome =
      ⟨⟨.idle, d.outcome.resolve e⟩, [(e.connection, d.outcome.status)]⟩ := by
    rw [hbefore, hregistry, hrecipient, hhear]
  have hafter : (fresh.run (actions ++ [.fire firing])).registrar.registry =
      ⟨.idle, d.outcome.resolve e⟩ := by
    rw [run_concat, registrar_fire hd, d.registry_after, htold]
  refine ⟨?_, fun hcompleted => ?_, fun error hfailed => ?_⟩
  · rw [attempts_fire hd, d.pushes_eq, htold]
  · rw [hafter, hcompleted, Outcome.resolve, Registry.isRegistered?_singleton]
    exact if_pos rfl
  · rw [hafter, hfailed]
    exact Registry.not_holds_free _ _

theorem late_outcome {mint : Nat → AccessToken} (hmint : Function.Injective mint)
    (gateways : Nat → Gateway Recipient) (blueprint : α) (stopTimeout : Duration)
    (actions : List (Action α)) (t : AccessToken) :
    let fresh := Broker.new blueprint stopTimeout (Registrar.new gateways mint)
    (fresh.run actions).registrar.registry.registration = .pending t →
      (∀ late d t', late.delivery? (fresh.run actions).registrar = some d →
        d.recipient = .application t' → t' ≠ t → EndsWait fresh actions t late d) ∧
      ∀ a : Action α, (fresh.run (actions ++ [a])).registrar.registry.registration ≠ .pending t →
        ∃ firing d, a = .fire firing ∧
          firing.delivery? (fresh.run actions).registrar = some d := by
  intro fresh hpending
  have haccount := accounted_run hmint gateways blueprint stopTimeout
  have horderly : (fresh.run actions).Orderly := (orderly_new blueprint stopTimeout _).run actions
  constructor
  · intro late d t' hd hrecipient hother
    obtain ⟨e, htable, rfl, hunregistered⟩ :=
      (haccount actions).shaped.eq_singleton_of_pending hpending
    obtain ⟨hreply, hheard⟩ :=
      (haccount actions).present e (by rw [htable]; exact List.mem_singleton_self e)
    have hregistry : (fresh.run actions).registrar.registry = ⟨.pending e.token, [e]⟩ := by
      rw [← hpending, ← htable]
    obtain ⟨hbefore, -⟩ := Registrar.before_of_delivery? hd
    have hhear : d.before.registry.hear d.recipient d.outcome = ⟨⟨.idle, [e]⟩, []⟩ := by
      rw [hbefore, hregistry, hrecipient, Registry.hear_other (Ne.symm hother)]
    have hlate : (fresh.run (actions ++ [.fire late])).registrar = d.after := by
      rw [run_concat]
      exact registrar_fire hd
    refine ⟨?_, ⟨e, htable, ?_, rfl, hunregistered⟩, ?_, ?_, e.connection, hreply, ?_⟩
    · rw [hlate, d.registry_after, hhear]
    · rw [hlate, d.registry_after, hhear]
    · rw [attempts_fire hd, d.pushes_eq, hhear]
    · intro error hfailed
      rw [hlate, Delivery.after, Delivery.told, hfailed, Registrar.gateways_deliver_failed]
      exact Registrar.gateways_before_of_failed hd hfailed
    · -- Neither the late outcome nor what comes between has told the application anything.
      intro between next d' hbetween hd' hrecipient'
      have hbefore : pushesFor e.token (fresh.trace Action.deliveries actions) = [] := by
        unfold Heard at hheard
        rwa [hunregistered, if_neg (by decide)] at hheard
      have hsplit : actions ++ .fire late :: between = (actions ++ [.fire late]) ++ between := by
        simp
      have hquiet : pushesFor e.token
          (fresh.trace Action.deliveries (actions ++ .fire late :: between)) = [] := by
        have hobserved : (Action.fire late).deliveries (fresh.run actions) = [d] := by
          simp [Action.deliveries, Registrar.deliveries, hd]
        rw [hsplit, trace_append, trace_concat, pushesFor_append, pushesFor_append, hbefore,
          hobserved, pushesFor_ne hrecipient hother, pushesFor_eq_nil hbetween]
        rfl
      have hreply' : (e.connection, .accepted e.token) ∈
          fresh.trace Action.replies (actions ++ .fire late :: between) := by
        rw [trace_append]
        exact List.mem_append_left _ hreply
      exact decides_of_quiet (haccount _) hreply' hquiet hd' hrecipient'
  · intro a hcleared
    obtain hsame | houtcome := registry_step_of_pending horderly hpending a
    · rw [run_concat, hsame] at hcleared
      exact absurd hpending hcleared
    · exact houtcome

theorem late_outcome_sample :
    let actions : List (Action ScriptedAdapter) :=
      [.start 0, .advance .none, .advance .none, .register ⟨1⟩ sampleDefinition [],
        .fire (.bound 0 (.failed .timeout)), .register ⟨2⟩ sampleDefinition []]
    let late : Firing := .binding 0 1 (.failed .timeout)
    let d : Delivery :=
      ⟨.application (.unary 0), .failed .timeout, (sample.run actions).registrar⟩
    Function.Injective AccessToken.unary ∧
      (sample.run actions).registrar.registry.registration = .pending (.unary 1) ∧
      late.delivery? (sample.run actions).registrar = some d ∧
      EndsWait sample actions (.unary 1) late d := by
  intro actions late d
  have hpending : (sample.run actions).registrar.registry.registration = .pending (.unary 1) := by
    decide +kernel
  have hbound : ((sample.run actions).registrar.gateways 0).failureBindings[1]? =
      some (.application (.unary 0)) := by decide +kernel
  have hother : AccessToken.unary 0 ≠ .unary 1 := AccessToken.unary_injective.ne (by decide)
  clear_value actions
  have hd : late.delivery? (sample.run actions).registrar = some d := by
    change (((sample.run actions).registrar.gateways 0).failureBindings[1]?).map _ = _
    rw [hbound]
    rfl
  have hlate := late_outcome AccessToken.unary_injective (fun _ => .scripted)
    (ScriptedAdapter.new .none) (.ofMilliseconds 5000) actions (.unary 1) hpending
  exact ⟨AccessToken.unary_injective, hpending, hd, hlate.1 late d (.unary 0) hd rfl hother⟩

/-- What another registration is told late is not without effect on the one that waits: its wait is
over, and after a success the broker is bound in its place, so that it misses its own verdict. -/
theorem late_outcome_disturbs :
    let actions : List (Action ScriptedAdapter) :=
      [.start 0, .advance .none, .advance .none, .register ⟨1⟩ sampleDefinition [],
        .fire (.bound 0 (.failed .timeout)), .register ⟨2⟩ sampleDefinition []]
    let failed : Action ScriptedAdapter := .fire (.binding 0 1 (.failed .timeout))
    let completed : Action ScriptedAdapter := .fire (.binding 0 1 .completed)
    (sample.run actions).registrar.registry.registration = .pending (.unary 1) ∧
      ((sample.run actions).registrar.gateways 0).failureBindings[1]? =
        some (.application (.unary 0)) ∧
      ((sample.run actions).registrar.gateways 0).updateBindings[1]? =
        some (.application (.unary 0)) ∧
      (sample.run actions).registrar.registry.isRegistered? (.unary 0) = none ∧
      (sample.run (actions ++ [failed])).registrar.registry.registration ≠ .pending (.unary 1) ∧
      (sample.run (actions ++ [completed])).registrar.registry.registration ≠ .pending (.unary 1) ∧
      ((sample.run (actions ++ [completed])).registrar.gateways 0).handler? .completed ≠
        some (.application (.unary 1)) ∧
      (sample.run (actions ++ [completed, .fire (.bound 0 .completed)])).registrar.registry.isRegistered?
        (.unary 1) = some false := by
  refine ⟨?_, ?_, ?_, ?_, ?_, ?_, ?_, ?_⟩ <;> decide +kernel

end Broker
end ResourceBroker
