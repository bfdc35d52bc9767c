import ResourceBroker.Proofs.Broker.Admission

/-!
What an application is told of its registration. Callbacks may come late, twice, or in any order, yet
the statuses that go out for one token are either none, or one failure, or successes only. The table
explains it: a failure is told in the act of erasing, and an erased application hears nothing more.
-/

namespace ResourceBroker

theorem Delivery.pushes_of_broker {d : Delivery} (h : d.recipient = .broker) : d.pushes = [] := by
  rw [d.pushes_eq, h]
  rfl

namespace Broker

variable {α : Type} [Adapter α]

theorem attempts_eq (b : Broker α) (a : Action α) :
    a.attempts b = (a.deliveries b).flatMap Delivery.pushes := by
  cases a with
  | register connection definition during =>
    simp only [Action.attempts, Action.effect, Action.deliveries, Telling.pushes_map]
    cases h : b.registrar.registry.request connection definition b.registrar.nextToken with
    | error status => rw [Registrar.registerDuring_of_error h]; rfl
    | ok application =>
      rw [Registrar.registerDuring_of_ok h, Telling.pushes_map, Registrar.pushes_fireAll]
  | fire firing =>
    simp only [Action.attempts, Action.effect, Action.deliveries, Registrar.deliveries,
      List.append_nil]
    exact Registrar.pushes_fire firing b.registrar
  | _ => rfl

theorem trace_attempts (b : Broker α) (actions : List (Action α)) :
    b.trace Action.attempts actions =
      (b.trace Action.deliveries actions).flatMap Delivery.pushes := by
  induction actions generalizing b with
  | nil => rfl
  | cons a rest ih => rw [trace, trace, ih, attempts_eq, List.flatMap_append]

/-- What an application is told in a run, if `c` is the connection whose request was answered with
the token `t`. -/
structure Verdict (fresh : Broker α) (actions : List (Action α)) (c : ConnectionId)
    (t : AccessToken) : Prop where
  statuses :
    pushesFor t (fresh.trace Action.deliveries actions) = [] ∨
    pushesFor t (fresh.trace Action.deliveries actions) = [(c, .failed)] ∨
    ∃ n, pushesFor t (fresh.trace Action.deliveries actions) = List.replicate (n + 1) (c, .success)
  erasing : ∀ d ∈ fresh.trace Action.deliveries actions, d.recipient = .application t →
    ∀ c', (c', .failed) ∈ d.pushes →
      d.before.registry.Holds t ∧ ¬ d.after.registry.Holds t
  silent : ∀ d ∈ fresh.trace Action.deliveries actions, d.recipient = .broker → d.pushes = []
  complete : fresh.trace Action.attempts actions =
    (fresh.trace Action.deliveries actions).flatMap Delivery.pushes

theorem verdict_history {mint : Nat → AccessToken} (hmint : Function.Injective mint)
    (gateways : Nat → Gateway Recipient) (blueprint : α) (stopTimeout : Duration)
    (actions : List (Action α)) (c : ConnectionId) (t : AccessToken) :
    let fresh := Broker.new blueprint stopTimeout (Registrar.new gateways mint)
    (c, .accepted t) ∈ fresh.trace Action.replies actions → Verdict fresh actions c t := by
  intro fresh haccepted
  have haccount := accounted_run hmint gateways blueprint stopTimeout actions
  refine ⟨?_, ?_, fun d _ h => d.pushes_of_broker h, trace_attempts fresh actions⟩
  · by_cases hholds : (fresh.run actions).registrar.registry.Holds t
    · obtain ⟨e, he, rfl⟩ := hholds
      obtain ⟨hreply, hheard⟩ := haccount.present e he
      have hconnection : c = e.connection := haccount.unique c _ _ haccepted hreply
      unfold Heard at hheard
      split at hheard
      · rw [hconnection]
        exact .inr (.inr hheard)
      · exact .inl hheard
    · exact .inr (.inl (haccount.absent c t haccepted hholds))
  · intro d hd hrecipient c' hfailed
    obtain ⟨t', hrecipient', hbefore, hafter⟩ := haccount.erasing d hd c' hfailed
    rw [hrecipient] at hrecipient'
    cases hrecipient'
    exact ⟨hbefore, hafter⟩

theorem verdict_history_sample :
    let actions : List (Action ScriptedAdapter) :=
      [.start 0, .advance .none, .advance .none, .register ⟨1⟩ sampleDefinition [],
        .fire (.binding 0 1 (.failed .timeout)), .fire (.binding 0 1 .completed)]
    Function.Injective AccessToken.unary ∧
      (⟨1⟩, .accepted (.unary 0)) ∈ sample.trace Action.replies actions ∧
      pushesFor (.unary 0) (sample.trace Action.deliveries actions) = [(⟨1⟩, .failed)] ∧
      Verdict sample actions ⟨1⟩ (.unary 0) := by
  intro actions
  have haccepted : (⟨1⟩, .accepted (.unary 0)) ∈ sample.trace Action.replies actions := by
    decide +kernel
  exact ⟨AccessToken.unary_injective, haccepted, by decide +kernel,
    verdict_history AccessToken.unary_injective _ _ _ actions _ _ haccepted⟩

end Broker
end ResourceBroker
