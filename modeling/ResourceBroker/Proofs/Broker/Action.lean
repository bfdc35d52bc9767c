import ResourceBroker.Proofs.Broker.Worker

/-!
Runs of a broker. An action is a call from its owner or from an application, one step of the worker,
something that an adapter goes through by itself, or a callback that a gateway runs, be it bound at
the moment or superseded long ago. Adapters and gateways are arbitrary: the first may change at any
time, the second run what they like from inside a trigger.

To the registrar each action is one of few effects, which `effect` lists; all that a run does to
registrations is read off there.
-/

namespace ResourceBroker

inductive UnsupportedCall where
  | deregister (connection : ConnectionId) (token : AccessToken)
  | addInstances (connection : ConnectionId) (token : AccessToken) (path : String)
      (ids : List UInt16)
  | removeInstances (connection : ConnectionId) (token : AccessToken) (path : String)
      (ids : List UInt16)
  | setValues (token : AccessToken) (operations : List ValueOperation)
  | getValues (token : AccessToken) (operations : List ValueOperation)

def UnsupportedCall.ask {m : Type → Type} [Monad m] (handler : RequestHandler m) :
    UnsupportedCall → m Status
  | .deregister connection token => handler.deregister connection token
  | .addInstances connection token path ids => handler.addInstances connection token path ids
  | .removeInstances connection token path ids => handler.removeInstances connection token path ids
  | .setValues token operations => do pure (← handler.setValues token operations).1
  | .getValues token operations => do pure (← handler.getValues token operations).1

/-- `advance` is a step of the worker, `transport` what an adapter goes through by itself, and
`blueprint` changes the adapters to be built. The callbacks of a registration are those that the
gateway runs from inside the trigger, beyond what its script tells it to report. -/
inductive Action (α : Type) where
  | start (place : Nat)
  | stop (interference : Interference)
  | deinit
  | advance (interference : Interference)
  | transport (place : Nat) (change : α → α)
  | blueprint (change : α → α)
  | register (connection : ConnectionId) (definition : String) (during : List Firing)
  | fire (firing : Firing)
  | script (place : Nat) (complete : Bool) (failure : Option CloudClientError)
  | connectionClosed (connection : ConnectionId)
  | unsupported (call : UnsupportedCall)

variable {α : Type} [Adapter α]

def Broker.registerDuring (connection : ConnectionId) (definition : String)
    (during : List Firing) : StateM (Broker α) RegistrationReply :=
  perform (Registrar.registerDuring connection definition during)

theorem Broker.registerDuring_nil (connection : ConnectionId) (definition : String) :
    (registerDuring connection definition [] : StateM (Broker α) RegistrationReply) =
      register connection definition :=
  congrArg perform (Registrar.registerDuring_nil connection definition)

theorem Broker.registerDuring_of_error {b : Broker α} {connection : ConnectionId} {definition : String}
    {status : Status}
    (h : b.registrar.registry.request connection definition b.registrar.nextToken = .error status)
    (during : List Firing) :
    b.registerDuring connection definition during = (.rejected status, b) := by
  unfold registerDuring perform
  dsimp only
  rw [Registrar.registerDuring_of_error h]
  rfl

theorem Broker.registerDuring_of_ok {b : Broker α} {connection : ConnectionId} {definition : String}
    {e : Application}
    (h : b.registrar.registry.request connection definition b.registrar.nextToken = .ok e)
    (during : List Firing) :
    b.registerDuring connection definition during =
      (.accepted e.token, b.tell (b.registrar.enroll e >>= Registrar.fireAll during)) := by
  have hrun : Registrar.registerDuring connection definition during b.registrar =
      (.accepted e.token, ·) <$> (b.registrar.enroll e >>= Registrar.fireAll during) := by
    rw [Registrar.registerDuring_of_ok h, Registrar.enroll_eq, Registrar.fireAll_append]
  unfold registerDuring perform
  dsimp only
  rw [hrun, Telling.value_map, Telling.pushes_map]

namespace Action

def step (b : Broker α) : Action α → Broker α
  | .start place => (b.start place).1
  | .stop interference => (b.stop interference).1
  | .deinit => b.deinit.1
  | .advance interference => b.advanceUnder interference
  | .transport place change => { b with adapters := b.adapters.modify place change }
  | .blueprint change => { b with blueprint := change b.blueprint }
  | .register connection definition during => (b.registerDuring connection definition during).2
  | .fire firing => b.tell (b.registrar.fire firing)
  | .script place complete failure =>
    { b with registrar := b.registrar.modifyGateway place (·.script complete failure) }
  | .connectionClosed connection => (Broker.requestHandler.connectionClosed connection b).2
  | .unsupported call => (call.ask Broker.requestHandler b).2

/-- What an action makes of the registrar, and what it tells applications. -/
def effect (b : Broker α) : Action α → Telling Registrar
  | .start place => pure (if b.worker.isUnfinished then b.registrar else b.registrar.attach place)
  | .advance interference =>
    pure (if b.takesOver interference then b.registrar.bind .broker else b.registrar)
  | .register connection definition during =>
    Prod.snd <$> Registrar.registerDuring connection definition during b.registrar
  | .fire firing => b.registrar.fire firing
  | .script place complete failure =>
    pure (b.registrar.modifyGateway place (·.script complete failure))
  | .stop _ | .deinit | .transport _ _ | .blueprint _ | .connectionClosed _ | .unsupported _ =>
    pure b.registrar

def replies (b : Broker α) : Action α → List (ConnectionId × RegistrationReply)
  | .register connection definition during =>
    [(connection, (b.registerDuring connection definition during).1)]
  | _ => []

/-- The callbacks that run in the course of an action, in order. -/
def deliveries (b : Broker α) : Action α → List Delivery
  | .register connection definition during =>
    match b.registrar.registry.request connection definition b.registrar.nextToken with
    | .ok application =>
      (b.registrar.takeUp application).deliveries (b.registrar.reportedOnTrigger ++ during)
    | .error _ => []
  | .fire firing => b.registrar.deliveries [firing]
  | _ => []

/-- The statuses that the broker attempts to push, in order. -/
def attempts (b : Broker α) (a : Action α) : List Push := (a.effect b).pushes

end Action

namespace Broker

def run (actions : List (Action α)) (b : Broker α) : Broker α := actions.foldl Action.step b

def trace {β : Type} (observe : Broker α → Action α → List β) : List (Action α) → Broker α → List β
  | [], _ => []
  | a :: rest, b => observe b a ++ trace observe rest (a.step b)

@[simp] theorem run_cons (a : Action α) (rest : List (Action α)) (b : Broker α) :
    b.run (a :: rest) = (a.step b).run rest := rfl

theorem run_append (first rest : List (Action α)) (b : Broker α) :
    b.run (first ++ rest) = (b.run first).run rest :=
  List.foldl_append

theorem run_concat (first : List (Action α)) (a : Action α) (b : Broker α) :
    b.run (first ++ [a]) = a.step (b.run first) := by
  rw [run_append]
  rfl

theorem trace_append {β : Type} (observe : Broker α → Action α → List β)
    (first rest : List (Action α)) (b : Broker α) :
    b.trace observe (first ++ rest) = b.trace observe first ++ (b.run first).trace observe rest := by
  induction first generalizing b with
  | nil => rfl
  | cons a first ih =>
    simp only [List.cons_append, trace, run_cons, ih, List.append_assoc]

theorem trace_concat {β : Type} (observe : Broker α → Action α → List β)
    (first : List (Action α)) (a : Action α) (b : Broker α) :
    b.trace observe (first ++ [a]) = b.trace observe first ++ observe (b.run first) a := by
  rw [trace_append]
  simp only [trace, List.append_nil]

/-- Each action of a run is of that kind, as the broker is when its turn comes. -/
def Throughout (P : Broker α → Action α → Prop) : List (Action α) → Broker α → Prop
  | [], _ => True
  | a :: rest, b => P b a ∧ Throughout P rest (a.step b)

theorem throughout_concat {P : Broker α → Action α → Prop} {b : Broker α}
    {first : List (Action α)} {a : Action α} :
    b.Throughout P (first ++ [a]) ↔ b.Throughout P first ∧ P (b.run first) a := by
  induction first generalizing b with
  | nil => simp [Throughout, run]
  | cons x first ih => simp only [List.cons_append, Throughout, run_cons, ih, and_assoc]

/-! One action -/

theorem unsupported_frame (b : Broker α) (call : UnsupportedCall) :
    call.ask requestHandler b = (.notSupported, b) := by
  cases call <;> rfl

theorem step_register (b : Broker α) (connection : ConnectionId) (definition : String)
    (during : List Firing) :
    (Action.register connection definition during).step b =
      b.tell ((Action.register connection definition during).effect b) := by
  have h := Telling.pushes_map Prod.snd
    (Registrar.registerDuring connection definition during b.registrar)
  unfold tell
  rw [Action.effect, h]
  rfl

theorem registrar_fire {b : Broker α} {firing : Firing} {d : Delivery}
    (h : firing.delivery? b.registrar = some d) :
    ((Action.fire firing).step b).registrar = d.after := by
  rw [Action.step, registrar_tell, Registrar.fire_of_delivery? h]
  rfl

theorem attempts_fire {b : Broker α} {firing : Firing} {d : Delivery}
    (h : firing.delivery? b.registrar = some d) :
    (Action.fire firing).attempts b = d.pushes := by
  rw [Action.attempts, Action.effect, Registrar.fire_of_delivery? h]
  rfl

theorem Orderly.step {b : Broker α} (h : Orderly b) (a : Action α) : Orderly (a.step b) := by
  cases a with
  | start place =>
    obtain hsame | ⟨_, hstarted⟩ := start_frame b place
    · simp only [Action.step, hsame]
      exact h
    · simp only [Action.step, hstarted]
      intro _
      exact ⟨rfl, rfl, fun _ hbuilt => by cases hbuilt⟩
  | stop i => exact (h.stop i).2
  | deinit =>
    obtain ⟨adapters, failure, result, hdeinit⟩ := deinit_frame b
    simp only [Action.step, hdeinit]
    intro hnot
    obtain ⟨hattached, htimed, -⟩ := h hnot
    exact ⟨hattached, htimed, fun _ _ => rfl⟩
  | advance i => exact h.advanceUnder i
  | transport place change => exact h
  | blueprint change => exact h
  | register connection definition during =>
    obtain ⟨adapters, htell⟩ := tell_frame b ((Action.register connection definition during).effect b)
    rw [step_register, htell]
    intro hnot
    obtain ⟨hattached, htimed, hheld⟩ := h hnot
    refine ⟨?_, htimed, hheld⟩
    rw [Action.effect, Telling.value_map, Registrar.attached_registerDuring]
    exact hattached
  | fire firing =>
    obtain ⟨adapters, htell⟩ := tell_frame b (b.registrar.fire firing)
    simp only [Action.step, htell]
    intro hnot
    obtain ⟨hattached, htimed, hheld⟩ := h hnot
    refine ⟨?_, htimed, hheld⟩
    rw [(Registrar.fire_frame firing b.registrar).2.2]
    exact hattached
  | script place complete failure => exact h
  | connectionClosed connection => exact h
  | unsupported call =>
    simp only [Action.step, unsupported_frame]
    exact h

theorem registrar_step {b : Broker α} (h : Orderly b) (a : Action α) :
    (a.step b).registrar = (a.effect b).value := by
  cases a with
  | start place =>
    obtain hsame | ⟨hidle, hstarted⟩ := start_frame b place
    · unfold start at hsame
      simp only [Action.step, Action.effect, Telling.value_pure, start]
      split <;> rfl
    · simp [Action.step, Action.effect, hstarted, hidle]
  | stop i => exact (h.stop i).1
  | deinit =>
    obtain ⟨adapters, failure, result, hdeinit⟩ := deinit_frame b
    simp only [Action.step, hdeinit]
    rfl
  | advance i => exact registrar_advanceUnder i b
  | transport place change => rfl
  | blueprint change => rfl
  | register connection definition during => rw [step_register, registrar_tell]
  | fire firing => exact registrar_tell b _
  | script place complete failure => rfl
  | connectionClosed connection => rfl
  | unsupported call =>
    simp only [Action.step, unsupported_frame]
    rfl

theorem Orderly.run {b : Broker α} (h : Orderly b) (actions : List (Action α)) :
    Orderly (b.run actions) := by
  induction actions generalizing b with
  | nil => exact h
  | cons a rest ih => exact ih (h.step a)

omit [Adapter α] in
theorem orderly_new (blueprint : α) (stopTimeout : Duration) (registrar : Registrar) :
    Orderly (Broker.new blueprint stopTimeout registrar) :=
  .of_isPastInit rfl

end Broker
end ResourceBroker
