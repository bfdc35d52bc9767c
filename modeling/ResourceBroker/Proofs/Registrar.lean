import ResourceBroker.Proofs.Registry
import ResourceBroker.Registrar

/-!
Callbacks that gateways run. A gateway may run what is bound at the moment, but also anything that
was bound at some time, as often as it likes. Whatever it runs ends in a delivery to the recipient
that was bound, and what a run of callbacks tells applications is what its deliveries tell them.

A request that is accepted is taken apart here: the application is admitted first, and what the
gateway reports from inside the trigger is a run of callbacks like any other.
-/

namespace ResourceBroker

def Gateway.bindings {H : Type} (g : Gateway H) : Outcome → List H
  | .completed => g.updateBindings
  | .failed _ => g.failureBindings

/-- A callback that runs, and the registrar that it finds. -/
structure Delivery where
  recipient : Recipient
  outcome : Outcome
  before : Registrar

namespace Delivery

def told (d : Delivery) : Telling Registrar := d.before.deliver d.recipient d.outcome

def after (d : Delivery) : Registrar := d.told.value

def pushes (d : Delivery) : List Push := d.told.pushes

end Delivery

/-- How a gateway comes by a callback: it is bound at the moment, it was bound as the one with that
index at some time, or an update that is underway waits to run it. -/
inductive Firing where
  | bound (place : Nat) (outcome : Outcome)
  | binding (place index : Nat) (outcome : Outcome)
  | underway (place index : Nat)

/-- The delivery that a gateway makes, if it has come by a callback. An update underway is completed
only once. -/
def Firing.delivery? (r : Registrar) : Firing → Option Delivery
  | .bound place outcome => ((r.gateways place).reported? outcome).map (⟨·, outcome, r⟩)
  | .binding place index outcome =>
    ((r.gateways place).bindings outcome)[index]?.map (⟨·, outcome, r⟩)
  | .underway place index => (r.gateways place).underway[index]?.map (⟨·, .completed,
      r.modifyGateway place fun g => { g with underway := g.underway.eraseIdx index }⟩)

def Registry.hear (recipient : Recipient) (outcome : Outcome) (r : Registry) : Telling Registry :=
  match recipient, outcome with
  | .broker, _ => pure r.finish
  | .application token, .completed => r.complete token
  | .application token, .failed _ => r.fail token

theorem Registry.Shaped.hear {r : Registry} (h : r.Shaped) (recipient : Recipient)
    (outcome : Outcome) : (r.hear recipient outcome).value.Shaped := by
  cases recipient with
  | broker => exact h.finish
  | application token =>
    cases outcome with
    | completed => exact h.complete token
    | failed error => exact h.fail token

/-- All that an outcome can do: it leaves the table as it is and tells nothing, or it marks its own
application, or it takes its own unregistered application out of the table. -/
theorem Registry.Shaped.hear_cases {r : Registry} (h : r.Shaped) (recipient : Recipient)
    (outcome : Outcome) :
    ((r.hear recipient outcome).value.applications = r.applications ∧
      (r.hear recipient outcome).pushes = []) ∨
    (∃ e, recipient = .application e.token ∧ r.applications = [e] ∧
      r.hear recipient outcome = ⟨⟨.idle, [e.markRegistered]⟩, [(e.connection, .success)]⟩) ∨
    (∃ e, recipient = .application e.token ∧ r.applications = [e] ∧ e.registered = false ∧
      r.hear recipient outcome = ⟨⟨.idle, []⟩, [(e.connection, .failed)]⟩) := by
  cases recipient with
  | broker => exact .inl ⟨rfl, rfl⟩
  | application token =>
    obtain ⟨registration, table⟩ := r
    have hone : table = [] ∨ ∃ e, table = [e] := by
      cases h with
      | free => exact .inl rfl
      | waiting e _ => exact .inr ⟨e, rfl⟩
      | resolved e => exact .inr ⟨e, rfl⟩
    cases outcome with
    | completed =>
      obtain rfl | ⟨e, rfl⟩ := hone
      · exact .inl ⟨rfl, rfl⟩
      · by_cases htoken : e.token = token
        · subst htoken
          exact .inr (.inl ⟨e, rfl, rfl, by rw [Registry.hear, complete_singleton, if_pos rfl]⟩)
        · left
          rw [Registry.hear, complete_singleton, if_neg htoken]
          exact ⟨rfl, rfl⟩
    | failed error =>
      obtain rfl | ⟨e, rfl⟩ := hone
      · exact .inl ⟨rfl, rfl⟩
      · by_cases htoken : e.token = token
        · subst htoken
          cases hr : e.registered
          · exact .inr (.inr ⟨e, rfl, rfl, hr, by
              rw [Registry.hear, fail_singleton, if_pos rfl, hr]; rfl⟩)
          · left
            rw [Registry.hear, fail_singleton, if_pos rfl, hr]
            exact ⟨rfl, rfl⟩
        · left
          rw [Registry.hear, fail_singleton, if_neg htoken]
          exact ⟨rfl, rfl⟩

def Outcome.status : Outcome → Status
  | .completed => .success
  | .failed _ => .failed

def Outcome.resolve (e : Application) : Outcome → List Application
  | .completed => [e.markRegistered]
  | .failed _ => []

theorem Registry.hear_own {e : Application} (hunregistered : e.registered = false)
    (registration : Registration) (outcome : Outcome) :
    hear (.application e.token) outcome ⟨registration, [e]⟩ =
      ⟨⟨.idle, outcome.resolve e⟩, [(e.connection, outcome.status)]⟩ := by
  cases outcome with
  | completed => rw [hear, complete_singleton, if_pos rfl]; rfl
  | failed error => rw [hear, fail_singleton, if_pos rfl, hunregistered]; rfl

theorem Registry.hear_other {e : Application} {token : AccessToken} (hother : e.token ≠ token)
    (registration : Registration) (outcome : Outcome) :
    hear (.application token) outcome ⟨registration, [e]⟩ = ⟨⟨.idle, [e]⟩, []⟩ := by
  cases outcome with
  | completed => rw [hear, complete_singleton, if_neg hother]
  | failed error => rw [hear, fail_singleton, if_neg hother]

/-- Which outcomes a trigger reports at once is a matter of the script alone. -/
theorem Gateway.trigger_snd_of_kind_eq {H : Type} {g g' : Gateway H} (h : g.kind = g'.kind) :
    g.trigger.2 = g'.trigger.2 := by
  unfold trigger
  rw [h]
  cases g'.kind <;> rfl

namespace Registrar

@[simp] theorem registry_modifyGateway (place : Nat)
    (change : Gateway Recipient → Gateway Recipient) (r : Registrar) :
    (r.modifyGateway place change).registry = r.registry := rfl

@[simp] theorem issued_modifyGateway (place : Nat)
    (change : Gateway Recipient → Gateway Recipient) (r : Registrar) :
    (r.modifyGateway place change).issued = r.issued := rfl

@[simp] theorem mint_modifyGateway (place : Nat)
    (change : Gateway Recipient → Gateway Recipient) (r : Registrar) :
    (r.modifyGateway place change).mint = r.mint := rfl

@[simp] theorem gateways_modifyGateway (place other : Nat)
    (change : Gateway Recipient → Gateway Recipient) (r : Registrar) :
    (r.modifyGateway place change).gateways other =
      if other = place then change (r.gateways place) else r.gateways other := rfl

@[simp] theorem modifyGateway_modifyGateway (place : Nat)
    (first second : Gateway Recipient → Gateway Recipient) (r : Registrar) :
    (r.modifyGateway place first).modifyGateway place second =
      r.modifyGateway place fun g => second (first g) := by
  simp only [modifyGateway, if_true, mk.injEq, and_self, and_true]
  funext i
  by_cases h : i = place
  · simp [h]
  · simp [h]

theorem kind_bind (recipient : Recipient) (r : Registrar) (place : Nat) :
    ((r.bind recipient).gateways place).kind = (r.gateways place).kind := by
  unfold bind
  split
  · rw [gateways_modifyGateway]
    split
    · next h => rw [h]; rfl
    · rfl
  · rfl

@[simp] theorem registry_bind (recipient : Recipient) (r : Registrar) :
    (r.bind recipient).registry = r.registry := by
  unfold bind
  split <;> rfl

@[simp] theorem issued_bind (recipient : Recipient) (r : Registrar) :
    (r.bind recipient).issued = r.issued := by
  unfold bind
  split <;> rfl

@[simp] theorem mint_bind (recipient : Recipient) (r : Registrar) :
    (r.bind recipient).mint = r.mint := by
  unfold bind
  split <;> rfl

@[simp] theorem attached_bind (recipient : Recipient) (r : Registrar) :
    (r.bind recipient).attached = r.attached := by
  unfold bind
  split <;> rfl

/-! Deliveries -/

@[simp] theorem registry_deliver (recipient : Recipient) (outcome : Outcome) (r : Registrar) :
    (r.deliver recipient outcome).value.registry = (r.registry.hear recipient outcome).value := by
  cases recipient with
  | broker => rfl
  | application token =>
    cases outcome with
    | completed => simp [deliver, Registry.hear]
    | failed error => rfl

@[simp] theorem pushes_deliver (recipient : Recipient) (outcome : Outcome) (r : Registrar) :
    (r.deliver recipient outcome).pushes = (r.registry.hear recipient outcome).pushes := by
  cases recipient with
  | broker => rfl
  | application token => cases outcome <;> simp [deliver, Registry.hear]

@[simp] theorem issued_deliver (recipient : Recipient) (outcome : Outcome) (r : Registrar) :
    (r.deliver recipient outcome).value.issued = r.issued := by
  cases recipient with
  | broker => rfl
  | application token => cases outcome <;> simp [deliver]

@[simp] theorem mint_deliver (recipient : Recipient) (outcome : Outcome) (r : Registrar) :
    (r.deliver recipient outcome).value.mint = r.mint := by
  cases recipient with
  | broker => rfl
  | application token => cases outcome <;> simp [deliver]

@[simp] theorem attached_deliver (recipient : Recipient) (outcome : Outcome) (r : Registrar) :
    (r.deliver recipient outcome).value.attached = r.attached := by
  cases recipient with
  | broker => rfl
  | application token => cases outcome <;> simp [deliver]

/-- A delivery finds the books as they are; at most the gateway has noted that it was made. -/
theorem before_of_delivery? {firing : Firing} {r : Registrar} {d : Delivery}
    (h : firing.delivery? r = some d) :
    d.before.registry = r.registry ∧ d.before.issued = r.issued ∧ d.before.mint = r.mint ∧
      d.before.attached = r.attached := by
  cases firing with
  | bound place outcome =>
    obtain ⟨recipient, -, rfl⟩ := Option.map_eq_some_iff.mp h
    exact ⟨rfl, rfl, rfl, rfl⟩
  | binding place index outcome =>
    obtain ⟨recipient, -, rfl⟩ := Option.map_eq_some_iff.mp h
    exact ⟨rfl, rfl, rfl, rfl⟩
  | underway place index =>
    obtain ⟨recipient, -, rfl⟩ := Option.map_eq_some_iff.mp h
    exact ⟨rfl, rfl, rfl, rfl⟩

def fire (firing : Firing) (r : Registrar) : Telling Registrar :=
  match firing.delivery? r with
  | some d => d.told
  | none => pure r

def fireAll (firings : List Firing) (r : Registrar) : Telling Registrar :=
  firings.foldlM (fun r firing => r.fire firing) r

def deliveries : List Firing → Registrar → List Delivery
  | [], _ => []
  | firing :: rest, r => (firing.delivery? r).toList ++ deliveries rest (r.fire firing).value

theorem fire_of_delivery? {firing : Firing} {r : Registrar} {d : Delivery}
    (h : firing.delivery? r = some d) : r.fire firing = d.told := by
  unfold fire
  rw [h]

theorem fire_of_no_delivery {firing : Firing} {r : Registrar} (h : firing.delivery? r = none) :
    r.fire firing = pure r := by
  unfold fire
  rw [h]

@[simp] theorem fireAll_nil (r : Registrar) : r.fireAll [] = pure r := rfl

@[simp] theorem fireAll_cons (firing : Firing) (rest : List Firing) (r : Registrar) :
    r.fireAll (firing :: rest) = r.fire firing >>= fireAll rest := rfl

theorem fireAll_append (first rest : List Firing) (r : Registrar) :
    r.fireAll (first ++ rest) = r.fireAll first >>= fireAll rest := by
  unfold fireAll
  rw [List.foldlM_append]

theorem fire_frame (firing : Firing) (r : Registrar) :
    (r.fire firing).value.issued = r.issued ∧ (r.fire firing).value.mint = r.mint ∧
      (r.fire firing).value.attached = r.attached := by
  cases h : firing.delivery? r with
  | none =>
    rw [fire_of_no_delivery h]
    exact ⟨rfl, rfl, rfl⟩
  | some d =>
    obtain ⟨-, hissued, hmint, hattached⟩ := before_of_delivery? h
    rw [fire_of_delivery? h]
    exact ⟨(issued_deliver ..).trans hissued, (mint_deliver ..).trans hmint,
      (attached_deliver ..).trans hattached⟩

theorem attached_fireAll (firings : List Firing) (r : Registrar) :
    (r.fireAll firings).value.attached = r.attached := by
  induction firings generalizing r with
  | nil => rfl
  | cons firing rest ih =>
    rw [fireAll_cons, Telling.value_bind, ih]
    exact (fire_frame firing r).2.2

theorem pushes_fire (firing : Firing) (r : Registrar) :
    (r.fire firing).pushes = (firing.delivery? r).toList.flatMap Delivery.pushes := by
  cases h : firing.delivery? r with
  | none => rw [fire_of_no_delivery h]; rfl
  | some d => rw [fire_of_delivery? h]; simp [Delivery.pushes]

theorem pushes_fireAll (firings : List Firing) (r : Registrar) :
    (r.fireAll firings).pushes = (r.deliveries firings).flatMap Delivery.pushes := by
  induction firings generalizing r with
  | nil => rfl
  | cons firing rest ih =>
    rw [fireAll_cons, Telling.pushes_bind, ih, pushes_fire, deliveries, List.flatMap_append]

theorem report_eq_fire (place : Nat) (outcome : Outcome) (r : Registrar) :
    r.report place outcome = r.fire (.bound place outcome) := by
  unfold report fire
  simp only [Firing.delivery?]
  cases (r.gateways place).reported? outcome <;> rfl

theorem trigger_eq_fireAll (place : Nat) (r : Registrar) :
    r.trigger place =
      (r.modifyGateway place fun g => g.trigger.1).fireAll
        ((r.gateways place).trigger.2.map (.bound place)) := by
  unfold trigger fireAll
  simp only [List.foldlM_map, report_eq_fire]
  rfl

/-! Requests -/

/-- Takes up an application, up to the moment at which the gateway may report something. -/
def takeUp (application : Application) (r : Registrar) : Registrar :=
  let bound := r.bind (.application application.token)
  let r := { bound with registry := bound.registry.insert application, issued := bound.issued + 1 }
  match r.attached with
  | some place => r.modifyGateway place fun g => (g.addObjects application.objects).trigger.1
  | none => r

def reportedOnTrigger (r : Registrar) : List Firing :=
  match r.attached with
  | some place => (r.gateways place).trigger.2.map (.bound place)
  | none => []

theorem enroll_eq (application : Application) (r : Registrar) :
    r.enroll application = (r.takeUp application).fireAll r.reportedOnTrigger := by
  have hkind := kind_bind (.application application.token) r
  unfold enroll takeUp reportedOnTrigger
  simp only [attached_bind]
  cases r.attached with
  | none => rfl
  | some place =>
    dsimp only
    rw [trigger_eq_fireAll, modifyGateway_modifyGateway]
    congr 2
    apply Gateway.trigger_snd_of_kind_eq
    rw [gateways_modifyGateway, if_pos rfl]
    exact hkind place

@[simp] theorem registry_takeUp (application : Application) (r : Registrar) :
    (r.takeUp application).registry = r.registry.insert application := by
  unfold takeUp
  dsimp only
  split <;> simp

@[simp] theorem issued_takeUp (application : Application) (r : Registrar) :
    (r.takeUp application).issued = r.issued + 1 := by
  unfold takeUp
  dsimp only
  split <;> simp

@[simp] theorem mint_takeUp (application : Application) (r : Registrar) :
    (r.takeUp application).mint = r.mint := by
  unfold takeUp
  dsimp only
  split <;> simp

@[simp] theorem attached_takeUp (application : Application) (r : Registrar) :
    (r.takeUp application).attached = r.attached := by
  have hbind := attached_bind (.application application.token) r
  unfold takeUp
  dsimp only
  split
  · exact hbind
  · exact hbind

/-- A request to a gateway that runs further callbacks from inside the trigger, which is the last that
is done for an application. -/
def registerDuring (connection : ConnectionId) (definition : String) (during : List Firing) :
    StateT Registrar Telling RegistrationReply := fun r => do
  let (reply, r) ← register connection definition r
  pure (reply, ← if reply.token.isSome then r.fireAll during else pure r)

theorem register_of_error {connection : ConnectionId} {definition : String} {r : Registrar}
    {status : Status}
    (h : r.registry.request connection definition r.nextToken = .error status) :
    register connection definition r = pure (.rejected status, r) := by
  unfold register
  rw [h]

theorem register_of_ok {connection : ConnectionId} {definition : String} {r : Registrar}
    {application : Application}
    (h : r.registry.request connection definition r.nextToken = .ok application) :
    register connection definition r = (.accepted application.token, ·) <$> r.enroll application := by
  unfold register
  rw [h]
  simp only [map_eq_pure_bind]

theorem registerDuring_nil (connection : ConnectionId) (definition : String) :
    registerDuring connection definition [] = register connection definition := by
  funext r
  unfold registerDuring
  simp

theorem registerDuring_of_error {connection : ConnectionId} {definition : String} {r : Registrar}
    {status : Status}
    (h : r.registry.request connection definition r.nextToken = .error status)
    (during : List Firing) :
    registerDuring connection definition during r = pure (.rejected status, r) := by
  unfold registerDuring
  rw [register_of_error h]
  rfl

theorem registerDuring_of_ok {connection : ConnectionId} {definition : String} {r : Registrar}
    {application : Application}
    (h : r.registry.request connection definition r.nextToken = .ok application)
    (during : List Firing) :
    registerDuring connection definition during r =
      (.accepted application.token, ·) <$>
        (r.takeUp application).fireAll (r.reportedOnTrigger ++ during) := by
  unfold registerDuring
  rw [register_of_ok h, fireAll_append, enroll_eq]
  simp [RegistrationReply.accepted]

theorem attached_registerDuring (connection : ConnectionId) (definition : String)
    (during : List Firing) (r : Registrar) :
    (registerDuring connection definition during r).value.2.attached = r.attached := by
  cases h : r.registry.request connection definition r.nextToken with
  | error status => rw [registerDuring_of_error h]; rfl
  | ok application =>
    rw [registerDuring_of_ok h, Telling.value_map, attached_fireAll, attached_takeUp]

end Registrar
end ResourceBroker
