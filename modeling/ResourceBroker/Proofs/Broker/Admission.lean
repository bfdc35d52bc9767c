import ResourceBroker.Adapter.Scripted
import ResourceBroker.Proofs.Broker.Account

/-!
One application at a time. Whatever a broker goes through, its table never holds more than one
application, a registration that waits is that of the one application in the table, a registered
application stays, and an application that is gone does not come back.
-/

namespace ResourceBroker

def AccessToken.unary (n : Nat) : AccessToken := ⟨String.ofList (List.replicate n '1')⟩

theorem AccessToken.unary_injective : Function.Injective AccessToken.unary := by
  intro m n h
  have hdigits : List.replicate m '1' = List.replicate n '1' :=
    String.ofList_injective (congrArg AccessToken.text h)
  have hlength := congrArg List.length hdigits
  simpa only [List.length_replicate] using hlength

/-- One resource that holds a time. -/
def sampleDefinition : String := "\x7b\"1\":\x7b\"0\":\x7b\"1\":\x7b\"type\":\"time\"\x7d\x7d\x7d\x7d"

namespace Broker

def sample : Broker ScriptedAdapter :=
  .new (.new .none) (.ofMilliseconds 5000) (.new (fun _ => .scripted) .unary)

variable {α : Type} [Adapter α]

/-- What holds of the applications of a broker after a run, and whatever comes later. -/
structure OneAtATime (fresh : Broker α) (actions : List (Action α)) : Prop where
  single : (fresh.run actions).registrar.registry.applications.length ≤ 1
  /-- Its connection is the one, and the only one, whose request was answered with the token. -/
  pending : ∀ t, (fresh.run actions).registrar.registry.registration = .pending t →
    ∃ e, (fresh.run actions).registrar.registry.applications = [e] ∧ e.token = t ∧
      e.registered = false ∧
      ∀ c, (c, .accepted t) ∈ fresh.trace Action.replies actions ↔ c = e.connection
  registered : ∀ t, (fresh.run actions).registrar.registry.isRegistered? t = some true →
    ∀ later, (fresh.run (actions ++ later)).registrar.registry.isRegistered? t = some true ∧
      ∀ connection definition during,
        ((fresh.run (actions ++ later)).registerDuring connection definition during).1 =
          .rejected .alreadyRegistered
  erased : ∀ earlier between, actions = earlier ++ between → ∀ t,
    (fresh.run earlier).registrar.registry.Holds t →
    ¬ (fresh.run actions).registrar.registry.Holds t →
    ∀ later, ¬ (fresh.run (actions ++ later)).registrar.registry.Holds t

theorem one_at_a_time {mint : Nat → AccessToken} (hmint : Function.Injective mint)
    (gateways : Nat → Gateway Recipient) (blueprint : α) (stopTimeout : Duration)
    (actions : List (Action α)) :
    OneAtATime (Broker.new blueprint stopTimeout (Registrar.new gateways mint)) actions := by
  have haccount := accounted_run hmint gateways blueprint stopTimeout
  generalize Broker.new blueprint stopTimeout (Registrar.new gateways mint) = fresh at haccount ⊢
  constructor
  · exact (haccount actions).shaped.length_le_one
  · intro t hpending
    obtain ⟨e, htable, rfl, hunregistered⟩ :=
      (haccount actions).shaped.eq_singleton_of_pending hpending
    obtain ⟨hreply, -⟩ := (haccount actions).present e (by rw [htable]; exact List.mem_singleton_self e)
    refine ⟨e, htable, rfl, hunregistered, fun c => ⟨fun hc => ?_, fun hc => ?_⟩⟩
    · exact (haccount actions).unique c e.connection e.token hc hreply
    · rw [hc]
      exact hreply
  · -- A success that was told stays in the history, and the history decides.
    intro t hregistered later
    obtain ⟨c, hc⟩ := ((haccount actions).registered_iff t).mp hregistered
    have hlater := haccount (actions ++ later)
    have hstill : (fresh.run (actions ++ later)).registrar.registry.isRegistered? t = some true := by
      apply (hlater.registered_iff t).mpr
      refine ⟨c, ?_⟩
      rw [trace_append, pushesFor_append]
      exact List.mem_append_left _ hc
    refine ⟨hstill, fun connection definition during => ?_⟩
    rw [reply_registerDuring, hlater.shaped.request_of_registered hstill]
  · intro earlier between hactions t hheld hgone later
    obtain ⟨e, he, rfl⟩ := hheld
    have hreply : (e.connection, .accepted e.token) ∈
        fresh.trace Action.replies actions := by
      rw [hactions, trace_append]
      exact List.mem_append_left _ ((haccount earlier).present e he).1
    obtain ⟨c, hc⟩ := ((haccount actions).erased_iff e.token).mp ⟨⟨_, hreply⟩, hgone⟩
    apply And.right
    apply ((haccount (actions ++ later)).erased_iff e.token).mpr
    refine ⟨c, ?_⟩
    rw [trace_append, pushesFor_append]
    exact List.mem_append_left _ hc

theorem one_at_a_time_sample :
    let actions : List (Action ScriptedAdapter) :=
      [.start 0, .advance .none, .advance .none, .register ⟨1⟩ sampleDefinition [],
        .fire (.binding 0 1 .completed)]
    Function.Injective AccessToken.unary ∧
      (sample.run actions).registrar.registry.isRegistered? (.unary 0) = some true ∧
      OneAtATime sample actions :=
  ⟨AccessToken.unary_injective, by decide +kernel,
    one_at_a_time AccessToken.unary_injective _ _ _ _⟩

end Broker
end ResourceBroker
