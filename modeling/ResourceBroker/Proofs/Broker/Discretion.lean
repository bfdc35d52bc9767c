import ResourceBroker.Message.Line
import ResourceBroker.Proofs.Broker.Admission

/-!
What applications learn of errors. What exactly is wrong with a definition and what exactly the cloud
has failed with stays inside: two definitions that are both malformed are answered with the same bytes,
two failures are told in the same way, and after either the broker is in the same state. So two runs that
differ in nothing else cannot be told apart, neither then nor later.
-/

namespace ResourceBroker

def Definition.IsMalformed (text : String) : Prop := ∃ error, parse text = .error error

namespace Registry

/-- What a request is refused with that cannot succeed in any state. -/
def refusal : Registry → Status
  | ⟨.pending _, _⟩ => .registrationInProgress
  | ⟨.idle, _ :: _⟩ => .alreadyRegistered
  | ⟨.idle, []⟩ => .invalidDefinition

theorem request_of_malformed {definition : String} (h : Definition.IsMalformed definition)
    (connection : ConnectionId) (fresh : AccessToken) (r : Registry) :
    r.request connection definition fresh = .error r.refusal := by
  obtain ⟨registration, table⟩ := r
  cases registration with
  | pending token => exact request_waiting connection definition fresh token table
  | idle =>
    cases table with
    | nil =>
      obtain ⟨error, herror⟩ := h
      exact request_free_of_error herror connection fresh
    | cons e rest => exact request_occupied connection definition fresh e rest

end Registry

inductive Firing.Alike : Firing → Firing → Prop
  | same (firing : Firing) : Alike firing firing
  | bound (place : Nat) (error error' : CloudClientError) :
    Alike (.bound place (.failed error)) (.bound place (.failed error'))
  | binding (place index : Nat) (error error' : CloudClientError) :
    Alike (.binding place index (.failed error)) (.binding place index (.failed error'))

namespace Registrar

theorem deliver_failed (recipient : Recipient) (error error' : CloudClientError) (r : Registrar) :
    r.deliver recipient (.failed error) = r.deliver recipient (.failed error') := by
  cases recipient <;> rfl

theorem fire_of_alike {firing firing' : Firing} (h : firing.Alike firing') (r : Registrar) :
    r.fire firing = r.fire firing' := by
  cases h with
  | same => rfl
  | bound place error error' =>
    have hsame : (r.gateways place).reported? (.failed error) =
        (r.gateways place).reported? (.failed error') := rfl
    simp only [fire, Firing.delivery?, hsame]
    cases (r.gateways place).reported? (.failed error') with
    | none => rfl
    | some recipient => exact r.deliver_failed recipient error error'
  | binding place index error error' =>
    have hsame : (r.gateways place).bindings (.failed error) =
        (r.gateways place).bindings (.failed error') := rfl
    simp only [fire, Firing.delivery?, hsame]
    cases ((r.gateways place).bindings (.failed error'))[index]? with
    | none => rfl
    | some recipient => exact r.deliver_failed recipient error error'

theorem fireAll_of_alike {firings firings' : List Firing}
    (h : List.Forall₂ Firing.Alike firings firings') (r : Registrar) :
    r.fireAll firings = r.fireAll firings' := by
  induction h generalizing r with
  | nil => rfl
  | cons hfirst _ ih =>
    rw [fireAll_cons, fireAll_cons, fire_of_alike hfirst]
    exact bind_congr ih

theorem registerDuring_of_malformed {definition : String} (h : Definition.IsMalformed definition)
    (connection : ConnectionId) (during : List Firing) (r : Registrar) :
    registerDuring connection definition during r = pure (.rejected r.registry.refusal, r) :=
  registerDuring_of_error (Registry.request_of_malformed h connection r.nextToken r.registry) during

theorem registerDuring_of_alike {during during' : List Firing}
    (h : List.Forall₂ Firing.Alike during during') (connection : ConnectionId)
    (definition : String) :
    registerDuring connection definition during = registerDuring connection definition during' := by
  funext r
  unfold registerDuring
  simp only [fireAll_of_alike h]

end Registrar

variable {α : Type}

/-- Actions that differ at most in what is wrong with a definition, or in the failures that the cloud
reports. -/
inductive Action.Alike : Action α → Action α → Prop
  | same (a : Action α) : Alike a a
  | malformed (connection : ConnectionId) {definition definition' : String}
    (during during' : List Firing) (h : Definition.IsMalformed definition)
    (h' : Definition.IsMalformed definition') :
    Alike (.register connection definition during) (.register connection definition' during')
  | during (connection : ConnectionId) (definition : String) {during during' : List Firing}
    (h : List.Forall₂ Firing.Alike during during') :
    Alike (.register connection definition during) (.register connection definition during')
  | fire {firing firing' : Firing} (h : firing.Alike firing') : Alike (.fire firing) (.fire firing')

variable [Adapter α]

namespace Broker

theorem registerDuring_of_malformed {definition : String} (h : Definition.IsMalformed definition)
    (connection : ConnectionId) (during : List Firing) (b : Broker α) :
    b.registerDuring connection definition during =
      (.rejected b.registrar.registry.refusal, b) :=
  registerDuring_of_error (Registry.request_of_malformed h connection _ _) during

theorem dispatch_of_malformed {definition : String} (h : Definition.IsMalformed definition)
    (connection : ConnectionId) (id : UInt64) (b : Broker α) :
    requestHandler.dispatch connection (.new id (.register definition)) b =
      (RequestHandler.registrationResponse id (.rejected b.registrar.registry.refusal), b) := by
  have hregister : register connection definition b =
      (.rejected b.registrar.registry.refusal, b) := by
    rw [← registerDuring_nil]
    exact registerDuring_of_malformed h connection [] b
  have hdispatch : requestHandler.dispatch connection (.new id (.register definition)) b =
      (RequestHandler.registrationResponse id (register connection definition b).1,
        (register connection definition b).2) := rfl
  rw [hdispatch, hregister]

def answerLine (connection : ConnectionId) (id : UInt64) (definition : String) (b : Broker α) :
    List UInt8 :=
  (Outbound.response
    (requestHandler.dispatch connection (.new id (.register definition)) b).1).toLine

theorem deliver_failed (token : AccessToken) (error error' : CloudClientError) (b : Broker α) :
    b.deliver (.application token) (.failed error) =
      b.deliver (.application token) (.failed error') :=
  congrArg b.tell (b.registrar.deliver_failed _ error error')

end Broker

theorem Action.Alike.step {a a' : Action α} (h : a.Alike a') (b : Broker α) :
    a.step b = a'.step b ∧ a.replies b = a'.replies b ∧ a.attempts b = a'.attempts b := by
  cases h with
  | same => exact ⟨rfl, rfl, rfl⟩
  | malformed connection during during' h h' =>
    simp only [Action.step, replies, attempts, effect, Broker.registerDuring_of_malformed h,
      Broker.registerDuring_of_malformed h', Registrar.registerDuring_of_malformed h,
      Registrar.registerDuring_of_malformed h', and_self]
  | during connection definition h =>
    simp only [Action.step, replies, attempts, effect, Broker.registerDuring,
      Registrar.registerDuring_of_alike h, and_self]
  | fire h =>
    simp only [Action.step, replies, attempts, effect, Registrar.fire_of_alike h, and_self]

namespace Broker

theorem run_of_alike {actions actions' : List (Action α)}
    (h : List.Forall₂ Action.Alike actions actions') (b : Broker α) :
    b.run actions = b.run actions' ∧
      b.trace Action.replies actions = b.trace Action.replies actions' ∧
      b.trace Action.attempts actions = b.trace Action.attempts actions' := by
  induction h generalizing b with
  | nil => exact ⟨rfl, rfl, rfl⟩
  | @cons a a' rest rest' hfirst _ ih =>
    obtain ⟨hstep, hreplies, hattempts⟩ := hfirst.step b
    obtain ⟨hrun, hlaterReplies, hlaterAttempts⟩ := ih (a'.step b)
    simp only [run_cons, trace, hstep, hreplies, hattempts, hrun, hlaterReplies, hlaterAttempts,
      and_self]

/-- Where a request could succeed, all malformed definitions get the same line and leave the broker as it
is; all failures of a registration that waits are told to its application in the same way and leave the
broker in the same state; and no run gives away more. -/
theorem details_stay_inside {mint : Nat → AccessToken} (hmint : Function.Injective mint)
    (gateways : Nat → Gateway Recipient) (blueprint : α) (stopTimeout : Duration)
    (actions : List (Action α)) :
    let fresh := Broker.new blueprint stopTimeout (Registrar.new gateways mint)
    let b := fresh.run actions
    (b.registrar.registry.registration = .idle → b.registrar.registry.applications = [] →
      ∀ connection id definition definition', Definition.IsMalformed definition →
        Definition.IsMalformed definition' →
        b.answerLine connection id definition = b.answerLine connection id definition' ∧
        (requestHandler.dispatch connection (.new id (.register definition)) b).2 = b ∧
        (requestHandler.dispatch connection (.new id (.register definition')) b).2 = b) ∧
    (∀ t, b.registrar.registry.registration = .pending t →
      ∃ c, (∀ c', (c', .accepted t) ∈ fresh.trace Action.replies actions ↔ c' = c) ∧
        ∀ error error',
          (b.registrar.deliver (.application t) (.failed error)).pushes = [(c, .failed)] ∧
          (b.registrar.deliver (.application t) (.failed error')).pushes = [(c, .failed)] ∧
          b.deliver (.application t) (.failed error) =
            b.deliver (.application t) (.failed error')) ∧
    ∀ actions', List.Forall₂ Action.Alike actions actions' →
      fresh.run actions' = b ∧
      fresh.trace Action.replies actions' = fresh.trace Action.replies actions ∧
      fresh.trace Action.attempts actions' = fresh.trace Action.attempts actions := by
  intro fresh b
  refine ⟨fun _ _ connection id definition definition' h h' => ?_, fun t hpending => ?_,
    fun actions' halike => ?_⟩
  · rw [answerLine, answerLine, dispatch_of_malformed h, dispatch_of_malformed h']
    exact ⟨rfl, rfl, rfl⟩
  · have haccount := accounted_run hmint gateways blueprint stopTimeout actions
    obtain ⟨e, htable, rfl, hunregistered⟩ := haccount.shaped.eq_singleton_of_pending hpending
    obtain ⟨hreply, -⟩ := haccount.present e (by rw [htable]; exact List.mem_singleton_self e)
    have hregistry : b.registrar.registry = ⟨.pending e.token, [e]⟩ := by
      rw [← hpending, ← htable]
    have hpushes (error : CloudClientError) :
        (b.registrar.deliver (.application e.token) (.failed error)).pushes =
          [(e.connection, .failed)] := by
      rw [Registrar.pushes_deliver, hregistry, Registry.hear_own hunregistered]
      rfl
    refine ⟨e.connection, fun c' => ⟨fun hc' => ?_, fun hc' => ?_⟩,
      fun error error' => ⟨hpushes error, hpushes error', b.deliver_failed e.token error error'⟩⟩
    · exact haccount.unique c' e.connection e.token hc' hreply
    · rw [hc']
      exact hreply
  · obtain ⟨hrun, hreplies, hattempts⟩ := run_of_alike halike fresh
    exact ⟨hrun.symm, hreplies.symm, hattempts.symm⟩

/-- One definition cannot be read, the other one describes no objects. -/
theorem details_stay_inside_sample :
    let actions : List (Action ScriptedAdapter) := [.start 0, .advance .none, .advance .none]
    let waiting := actions ++ [.register ⟨1⟩ sampleDefinition []]
    let application : Recipient := .application (.unary 0)
    Function.Injective AccessToken.unary ∧
      (sample.run actions).registrar.registry.registration = .idle ∧
      (sample.run actions).registrar.registry.applications = [] ∧
      Definition.IsMalformed "" ∧ Definition.IsMalformed "\x7b\x7d" ∧
      (sample.run actions).answerLine ⟨2⟩ 7 "" = (sample.run actions).answerLine ⟨2⟩ 7 "\x7b\x7d" ∧
      (sample.run waiting).registrar.registry.registration = .pending (.unary 0) ∧
      (sample.run waiting).deliver application (.failed .timeout) =
        (sample.run waiting).deliver application (.failed .networkError) := by
  intro actions waiting application
  have hidle : (sample.run actions).registrar.registry.registration = .idle := by decide +kernel
  have hempty : (sample.run actions).registrar.registry.applications = [] := rfl
  have hpending : (sample.run waiting).registrar.registry.registration = .pending (.unary 0) := by
    decide +kernel
  have hunreadable : Definition.IsMalformed "" := ⟨.undecodable, by cbv⟩
  have hnothing : Definition.IsMalformed "\x7b\x7d" := ⟨.noObjects, by cbv⟩
  clear_value actions waiting
  have hquiet := details_stay_inside AccessToken.unary_injective (fun _ => .scripted)
    (ScriptedAdapter.new .none) (.ofMilliseconds 5000)
  obtain ⟨hanswers, -, -⟩ := hquiet actions
  obtain ⟨-, hfailures, -⟩ := hquiet waiting
  obtain ⟨c, -, htold⟩ := hfailures (.unary 0) hpending
  exact ⟨AccessToken.unary_injective, hidle, hempty, hunreadable, hnothing,
    (hanswers hidle hempty ⟨2⟩ 7 "" "\x7b\x7d" hunreadable hnothing).1, hpending,
    (htold .timeout .networkError).2.2⟩

end Broker
end ResourceBroker
