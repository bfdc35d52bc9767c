import Mathlib.Data.List.Nodup
import ResourceBroker.Proofs.Binding

/-!
The broker as its applications and a scripted gateway see it: a machine with one slot, which is free,
or taken by a registration that waits, or taken for good. Nothing in the broker is such a machine. It
comes about by who is bound at the gateway, and a recipient whose application is gone stays bound, so
the free slot goes with any recipient at all.
-/

namespace ResourceBroker

inductive Slot where
  | free
  | pending (token : AccessToken) (connection : ConnectionId)
  | registered (token : AccessToken) (connection : ConnectionId)
deriving DecidableEq

namespace Slot

def hear (outcome : Outcome) : Slot → Telling Slot
  | .pending token connection =>
    match outcome with
    | .completed => ⟨.registered token connection, [(connection, .success)]⟩
    | .failed _ => ⟨.free, [(connection, .failed)]⟩
  | slot => pure slot

def registration : Slot → Registration
  | .pending token _ => .pending token
  | _ => .idle

def applications : Slot → Nat
  | .free => 0
  | _ => 1

def isRegistered? (token : AccessToken) : Slot → Option Bool
  | .free => none
  | .pending own _ => if own = token then some false else none
  | .registered own _ => if own = token then some true else none

/-- The registry that a slot stands for, and who is bound at the gateway meanwhile. -/
inductive Stands : Slot → Registry → Recipient → Prop where
  | free (recipient : Recipient) : Stands .free ⟨.idle, []⟩ recipient
  | pending (e : Application) (unregistered : e.registered = false) :
      Stands (.pending e.token e.connection) ⟨.pending e.token, [e]⟩ (.application e.token)
  | registered (e : Application) (registered : e.registered = true) :
      Stands (.registered e.token e.connection) ⟨.idle, [e]⟩ .broker

namespace Stands

variable {slot : Slot} {registry : Registry} {recipient : Recipient}

theorem hear (h : Stands slot registry recipient) (outcome : Outcome) :
    Stands (slot.hear outcome).value (registry.hear recipient outcome).value
      (recipient.after outcome) ∧
    (registry.hear recipient outcome).pushes = (slot.hear outcome).pushes := by
  cases h with
  | free recipient =>
    cases recipient with
    | broker => exact ⟨.free _, rfl⟩
    | application token =>
      cases outcome with
      | completed => exact ⟨.free _, rfl⟩
      | failed error => exact ⟨.free _, rfl⟩
  | pending e unregistered =>
    cases outcome with
    | completed =>
      have hmark : Stands (.registered e.token e.connection) ⟨.idle, [e.markRegistered]⟩ .broker :=
        .registered e.markRegistered rfl
      simp only [Registry.hear, Registry.complete_singleton, if_true]
      exact ⟨hmark, rfl⟩
    | failed error =>
      simp only [Registry.hear, Registry.fail_singleton, unregistered, if_true, Bool.false_eq_true,
        if_false]
      exact ⟨.free _, rfl⟩
  | registered e registered => exact ⟨.registered e registered, rfl⟩

theorem registration_eq (h : Stands slot registry recipient) :
    registry.registration = slot.registration := by
  cases h <;> rfl

theorem applications_eq (h : Stands slot registry recipient) :
    registry.applications.length = slot.applications := by
  cases h <;> rfl

theorem isRegistered?_eq (h : Stands slot registry recipient) (token : AccessToken) :
    registry.isRegistered? token = slot.isRegistered? token := by
  cases h with
  | free => rfl
  | pending e unregistered => rw [Registry.isRegistered?_singleton, unregistered]; rfl
  | registered e registered => rw [Registry.isRegistered?_singleton, registered]; rfl

end Stands
end Slot

/-- What is done to a broker that goes on running: requests, outcomes that its gateway reports to
whoever is bound, and what the gateway is to report from inside the next trigger. -/
inductive Input where
  | register (connection : ConnectionId) (definition : String)
  | complete
  | fail (error : CloudClientError)
  | script (completes : Bool) (failure : Option CloudClientError)

/-- The slot, the supply of tokens, what a trigger reports, and all that was answered and delivered. -/
structure Machine where
  slot : Slot
  mint : Nat → AccessToken
  issued : Nat
  complete : Bool
  failure : Option CloudClientError
  replies : List (ConnectionId × RegistrationReply)
  delivered : List Push

namespace Machine

def initial (mint : Nat → AccessToken) (complete : Bool) (failure : Option CloudClientError)
    (delivered : List Push) : Machine :=
  ⟨.free, mint, 0, complete, failure, [], delivered⟩

def answer (connection : ConnectionId) (reply : RegistrationReply) (m : Machine) : Machine :=
  { m with replies := m.replies ++ [(connection, reply)] }

def hear (m : Machine) (outcome : Outcome) : Machine :=
  { m with
    slot := (m.slot.hear outcome).value
    delivered := m.delivered ++ (m.slot.hear outcome).pushes }

def takeUp (connection : ConnectionId) (m : Machine) : Machine :=
  { m.answer connection (.accepted (m.mint m.issued)) with
    slot := .pending (m.mint m.issued) connection
    issued := m.issued + 1 }

def step (m : Machine) : Input → Machine
  | .register connection definition =>
    match m.slot with
    | .pending _ _ => m.answer connection (.rejected .registrationInProgress)
    | .registered _ _ => m.answer connection (.rejected .alreadyRegistered)
    | .free =>
      match Definition.parse definition with
      | .ok _ => (Outcome.scripted m.complete m.failure).foldl hear (m.takeUp connection)
      | .error _ => m.answer connection (.rejected .invalidDefinition)
  | .complete => m.hear .completed
  | .fail error => m.hear (.failed error)
  | .script completes failure => { m with complete := completes, failure := failure }

def run (inputs : List Input) (m : Machine) : Machine := inputs.foldl step m

end Machine

def tokens (replies : List (ConnectionId × RegistrationReply)) : List AccessToken :=
  replies.filterMap fun reply => reply.2.token

/-- What can be told of a broker from outside. -/
structure Observation where
  replies : List (ConnectionId × RegistrationReply)
  registration : Registration
  applications : Nat
  isRegistered? : AccessToken → Option Bool
  delivered : List Push

def Machine.observation (m : Machine) : Observation where
  replies := m.replies
  registration := m.slot.registration
  applications := m.slot.applications
  isRegistered? token := m.slot.isRegistered? token
  delivered := m.delivered

namespace Machine

variable {m : Machine}

structure Consecutive (mint : Nat → AccessToken) (m : Machine) : Prop where
  mint_eq : m.mint = mint
  tokens_eq : tokens m.replies = (List.range m.issued).map mint

variable {mint : Nat → AccessToken}

theorem Consecutive.hearAll (h : m.Consecutive mint) (outcomes : List Outcome) :
    (outcomes.foldl hear m).Consecutive mint := by
  induction outcomes generalizing m with
  | nil => exact h
  | cons outcome rest ih =>
    have hheard : (m.hear outcome).Consecutive mint := ⟨h.mint_eq, h.tokens_eq⟩
    exact ih hheard

theorem Consecutive.reject (h : m.Consecutive mint) (connection : ConnectionId) (status : Status) :
    (m.answer connection (.rejected status)).Consecutive mint := by
  refine ⟨h.mint_eq, ?_⟩
  change tokens (m.replies ++ [(connection, .rejected status)]) = _
  rw [tokens, List.filterMap_append]
  exact (List.append_nil _).trans h.tokens_eq

theorem Consecutive.takeUp (h : m.Consecutive mint) (connection : ConnectionId) :
    (m.takeUp connection).Consecutive mint := by
  refine ⟨h.mint_eq, ?_⟩
  change tokens (m.replies ++ [(connection, .accepted (m.mint m.issued))]) =
    (List.range (m.issued + 1)).map mint
  rw [tokens, List.filterMap_append, List.range_succ, List.map_append, h.mint_eq]
  exact congrArg (· ++ [mint m.issued]) h.tokens_eq

theorem Consecutive.step (h : m.Consecutive mint) (input : Input) :
    (m.step input).Consecutive mint := by
  cases input with
  | register connection definition =>
    unfold Machine.step
    dsimp only
    split
    · exact h.reject connection _
    · exact h.reject connection _
    · split
      · exact (h.takeUp connection).hearAll _
      · exact h.reject connection _
  | complete => exact ⟨h.mint_eq, h.tokens_eq⟩
  | fail error => exact ⟨h.mint_eq, h.tokens_eq⟩
  | script completes failure => exact ⟨h.mint_eq, h.tokens_eq⟩

theorem Consecutive.run (h : m.Consecutive mint) (inputs : List Input) :
    (m.run inputs).Consecutive mint := by
  induction inputs generalizing m with
  | nil => exact h
  | cons input rest ih => exact ih (h.step input)

theorem Consecutive.nodup (h : m.Consecutive mint) (hmint : Function.Injective mint) :
    (tokens m.replies).Nodup := by
  rw [h.tokens_eq]
  exact List.nodup_range.map hmint

end Machine

structure Machine.Follows (place : Nat) (m : Machine) (r : Registrar) : Prop where
  attached : r.attached = some place
  kind : (r.gateways place).kind = .scripted m.complete m.failure
  mint : r.mint = m.mint
  issued : r.issued = m.issued
  slot : ∃ recipient, r.ReportsTo place (some recipient) ∧ m.slot.Stands r.registry recipient

def Machine.Answers (place : Nat) (m after : Machine) (connection : ConnectionId)
    (told : Telling (RegistrationReply × Registrar)) : Prop :=
  after.Follows place told.value.2 ∧
    after.replies = m.replies ++ [(connection, told.value.1)] ∧
    after.delivered = m.delivered ++ told.pushes

namespace Machine.Follows

variable {place : Nat} {m : Machine} {r : Registrar}

theorem hear (h : m.Follows place r) (outcome : Outcome) :
    (m.hear outcome).Follows place (r.fire (.bound place outcome)).value ∧
      (m.hear outcome).delivered = m.delivered ++ (r.fire (.bound place outcome)).pushes := by
  obtain ⟨recipient, hreports, hstands⟩ := h.slot
  obtain ⟨hstands', hpushes⟩ := hstands.hear outcome
  rw [hreports.fire_some outcome]
  refine ⟨⟨?_, ?_, ?_, ?_, recipient.after outcome, ?_, ?_⟩, ?_⟩
  · rw [Registrar.attached_deliver]
    exact h.attached
  · rw [Registrar.kind_deliver]
    exact h.kind
  · rw [Registrar.mint_deliver]
    exact h.mint
  · rw [Registrar.issued_deliver]
    exact h.issued
  · exact hreports.deliver h.attached outcome
  · rw [Registrar.registry_deliver]
    exact hstands'
  · rw [Registrar.pushes_deliver, hpushes]
    rfl

theorem hearAll (h : m.Follows place r) (outcomes : List Outcome) :
    let told := r.fireAll (outcomes.map (.bound place))
    (outcomes.foldl Machine.hear m).Follows place told.value ∧
      (outcomes.foldl Machine.hear m).delivered = m.delivered ++ told.pushes ∧
      (outcomes.foldl Machine.hear m).replies = m.replies := by
  induction outcomes generalizing m r with
  | nil => exact ⟨h, (List.append_nil _).symm, rfl⟩
  | cons outcome rest ih =>
    obtain ⟨hfirst, hdelivered⟩ := h.hear outcome
    obtain ⟨hrest, hdelivered', hreplies⟩ := ih hfirst
    refine ⟨hrest, ?_, hreplies⟩
    rw [List.foldl_cons, hdelivered', hdelivered, List.append_assoc, List.map_cons,
      Registrar.fireAll_cons, Telling.pushes_bind]

theorem takeUp (h : m.Follows place r) {e : Application} (hfree : r.registry = ⟨.idle, []⟩)
    (htoken : e.token = r.nextToken) (hunregistered : e.registered = false) :
    (m.takeUp e.connection).Follows place (r.takeUp e) := by
  obtain ⟨recipient, hreports, _⟩ := h.slot
  have hnext : m.mint m.issued = e.token := by
    rw [htoken, Registrar.nextToken, h.mint, h.issued]
  refine ⟨?_, ?_, ?_, ?_, .application e.token, hreports.takeUp h.attached e, ?_⟩
  · rw [Registrar.attached_takeUp]
    exact h.attached
  · rw [Registrar.gateways_takeUp h.attached, Gateway.kind_trigger]
    exact h.kind
  · rw [Registrar.mint_takeUp]
    exact h.mint
  · rw [Registrar.issued_takeUp, h.issued]
    rfl
  · rw [Registrar.registry_takeUp, hfree]
    change Slot.Stands (.pending (m.mint m.issued) e.connection) _ _
    rw [hnext]
    exact .pending e hunregistered

theorem reject (h : m.Follows place r) {connection : ConnectionId} {definition : String}
    {status : Status}
    (hrequest : r.registry.request connection definition r.nextToken = .error status) :
    Answers place m (m.answer connection (.rejected status)) connection
      (Registrar.registerDuring connection definition [] r) := by
  rw [Registrar.registerDuring_of_error hrequest]
  exact ⟨⟨h.attached, h.kind, h.mint, h.issued, h.slot⟩, rfl, (List.append_nil _).symm⟩

theorem accept (h : m.Follows place r) (hfree : r.registry = ⟨.idle, []⟩)
    {definition : String} {objects : List ResourceObject}
    (hparse : Definition.parse definition = .ok objects) (connection : ConnectionId) :
    Answers place m
      ((Outcome.scripted m.complete m.failure).foldl Machine.hear (m.takeUp connection))
      connection (Registrar.registerDuring connection definition [] r) := by
  let e : Application := ⟨connection, r.nextToken, objects, false, some ()⟩
  have hrequest : r.registry.request connection definition r.nextToken = .ok e := by
    rw [hfree, Registry.request_free_of_ok hparse]
  have hnext : m.mint m.issued = e.token := by
    rw [← h.mint, ← h.issued]
    rfl
  obtain ⟨hfollows, hdelivered, hreplies⟩ :=
    (h.takeUp (e := e) hfree rfl rfl).hearAll (Outcome.scripted m.complete m.failure)
  rw [Registrar.registerDuring_of_ok hrequest, List.append_nil,
    Registrar.reportedOnTrigger_of_kind h.attached h.kind]
  refine ⟨hfollows, ?_, ?_⟩
  · change _ = m.replies ++ [(connection, .accepted e.token)]
    rw [← hnext]
    exact hreplies
  · rw [Telling.pushes_map]
    exact hdelivered

theorem register (h : m.Follows place r) (connection : ConnectionId) (definition : String) :
    Answers place m (m.step (.register connection definition)) connection
      (Registrar.registerDuring connection definition [] r) := by
  -- The slot alone tells what the registry answers, whoever is bound.
  obtain ⟨recipient, _, hstands⟩ := h.slot
  generalize hslot : m.slot = slot at hstands
  generalize hregistry : r.registry = registry at hstands
  cases hstands with
  | pending e unregistered =>
    rw [Machine.step, hslot]
    apply h.reject
    rw [hregistry]
    exact Registry.request_waiting ..
  | registered e registered =>
    rw [Machine.step, hslot]
    apply h.reject
    rw [hregistry]
    exact Registry.request_occupied ..
  | free recipient =>
    cases hparse : Definition.parse definition with
    | error why =>
      rw [Machine.step, hslot, hparse]
      apply h.reject
      rw [hregistry]
      exact Registry.request_free_of_error hparse ..
    | ok objects =>
      rw [Machine.step, hslot, hparse]
      exact h.accept hregistry hparse connection

end Machine.Follows
end ResourceBroker
