import ResourceBroker.Proofs.Binding
import ResourceBroker.Proofs.Broker.Account

/-!
The answer to a request to register, in every state of a broker. A request is refused for the first of
three reasons that there is, and then nothing has changed. Otherwise the application is admitted: it
comes into the table, and outcomes become its own, before its gateway sees any of it. Then the gateway
is asked twice, once to take the objects and once to update, and whatever callbacks it runs in the
meantime, they do not make it ask again.
-/

namespace ResourceBroker

/-- Handlers may have been bound at a gateway, and have run, but nothing else was asked of it. -/
structure Gateway.LeftAlone {H : Type} (g g' : Gateway H) : Prop where
  kind : g'.kind = g.kind
  objects : g'.objects = g.objects
  triggers : g'.triggers = g.triggers

namespace Gateway.LeftAlone

variable {H : Type} {g g' g'' : Gateway H}

theorem refl (g : Gateway H) : LeftAlone g g := ⟨rfl, rfl, rfl⟩

theorem trans (h : LeftAlone g g') (h' : LeftAlone g' g'') : LeftAlone g g'' :=
  ⟨h'.kind.trans h.kind, h'.objects.trans h.objects, h'.triggers.trans h.triggers⟩

end Gateway.LeftAlone

namespace Registrar

def LeftAlone (r r' : Registrar) : Prop :=
  ∀ place, (r.gateways place).LeftAlone (r'.gateways place)

theorem LeftAlone.refl (r : Registrar) : r.LeftAlone r := fun place => .refl (r.gateways place)

theorem LeftAlone.trans {r r' r'' : Registrar} (h : r.LeftAlone r') (h' : r'.LeftAlone r'') :
    r.LeftAlone r'' := fun place => (h place).trans (h' place)

theorem leftAlone_modifyGateway {place : Nat} (change : Gateway Recipient → Gateway Recipient)
    {r : Registrar} (h : (r.gateways place).LeftAlone (change (r.gateways place))) :
    r.LeftAlone (r.modifyGateway place change) := by
  intro other
  rw [gateways_modifyGateway]
  split
  · next hother =>
    rw [hother]
    exact h
  · exact .refl _

theorem leftAlone_bind (recipient : Recipient) (r : Registrar) : r.LeftAlone (r.bind recipient) := by
  unfold bind
  split
  · exact leftAlone_modifyGateway (·.bind recipient) ⟨rfl, rfl, rfl⟩
  · exact .refl r

theorem leftAlone_deliver (recipient : Recipient) (outcome : Outcome) (r : Registrar) :
    r.LeftAlone (r.deliver recipient outcome).value := by
  cases recipient with
  | broker => exact .refl r
  | application token =>
    cases outcome with
    | completed => exact leftAlone_bind .broker { r with registry := (r.registry.complete token).value }
    | failed error => exact .refl r

theorem leftAlone_fire (firing : Firing) (r : Registrar) :
    r.LeftAlone (r.fire firing).value := by
  cases h : firing.delivery? r with
  | none =>
    rw [fire_of_no_delivery h]
    exact .refl r
  | some d =>
    have hbefore : r.LeftAlone d.before := by
      cases firing with
      | bound place outcome =>
        obtain ⟨_, -, rfl⟩ := Option.map_eq_some_iff.mp h
        exact .refl r
      | binding place index outcome =>
        obtain ⟨_, -, rfl⟩ := Option.map_eq_some_iff.mp h
        exact .refl r
      | underway place index =>
        obtain ⟨_, -, rfl⟩ := Option.map_eq_some_iff.mp h
        exact leftAlone_modifyGateway
          (fun g => { g with underway := g.underway.eraseIdx index }) ⟨rfl, rfl, rfl⟩
    rw [fire_of_delivery? h]
    exact hbefore.trans (leftAlone_deliver d.recipient d.outcome d.before)

theorem leftAlone_fireAll (firings : List Firing) (r : Registrar) :
    r.LeftAlone (r.fireAll firings).value := by
  induction firings generalizing r with
  | nil => exact .refl r
  | cons firing rest ih => exact (leftAlone_fire firing r).trans (ih (r.fire firing).value)

/-- What is done for an application before the gateway is asked for anything. -/
def accept (e : Application) (r : Registrar) : Registrar :=
  let bound := r.bind (.application e.token)
  { bound with registry := bound.registry.insert e, issued := bound.issued + 1 }

theorem registry_accept {r : Registrar} (h : r.registry = ⟨.idle, []⟩) (e : Application) :
    (r.accept e).registry = ⟨.pending e.token, [e]⟩ := by
  rw [accept, registry_bind, h]
  rfl

theorem handler?_accept {r : Registrar} {place : Nat} (h : r.attached = some place)
    (e : Application) (outcome : Outcome) :
    ((r.accept e).gateways place).handler? outcome = some (.application e.token) := by
  have hbind := gateways_bind h (.application e.token)
  change ((r.bind _).gateways place).handler? outcome = _
  rw [hbind, Gateway.handler?_bind]

theorem enroll_of_attached {r : Registrar} {place : Nat} (h : r.attached = some place)
    (e : Application) :
    r.enroll e = ((r.accept e).modifyGateway place (·.addObjects e.objects)).trigger place := by
  have hattached : (r.bind (.application e.token)).attached = some place :=
    (attached_bind _ r).trans h
  unfold enroll
  dsimp only
  split
  · next other hother =>
    obtain rfl := Option.some.inj (hattached.symm.trans hother)
    rfl
  · next hnone => cases hattached.symm.trans hnone

theorem enroll_of_unattached {r : Registrar} (h : r.attached = none) (e : Application) :
    r.enroll e = pure (r.accept e) := by
  have hattached : (r.bind (.application e.token)).attached = none := (attached_bind _ r).trans h
  unfold enroll
  dsimp only
  split
  · next hsome => cases hattached.symm.trans hsome
  · rfl

end Registrar

theorem Gateway.triggers_trigger {H : Type} (g : Gateway H) :
    g.trigger.1.triggers = g.triggers + 1 := by
  unfold trigger
  split <;> rfl

theorem Gateway.objects_trigger {H : Type} (g : Gateway H) :
    g.trigger.1.objects = if g.isLoopback then [] else g.objects := by
  unfold trigger isLoopback
  cases g.kind with
  | scripted complete failure => rfl
  | loopback => rfl

namespace Broker

variable {α : Type} [Adapter α]

/-- An application that was admitted, and what the gateway was asked for it. The update reports as the
gateway likes, first by its script and then by the further callbacks. -/
structure Admits (b : Broker α) (e : Application) (during : List Firing)
    (answer : RegistrationReply × Broker α) : Prop where
  reply : answer.1 = .accepted e.token
  entered : (b.registrar.accept e).registry = ⟨.pending e.token, [e]⟩
  bound : ∀ place, b.registrar.attached = some place → ∀ outcome,
    ((b.registrar.accept e).gateways place).handler? outcome = some (.application e.token)
  unasked : b.registrar.LeftAlone (b.registrar.accept e)
  asked : ∀ place, b.registrar.attached = some place → b.registrar.enroll e =
    ((b.registrar.accept e).modifyGateway place (·.addObjects e.objects)).trigger place
  unattached : b.registrar.attached = none → b.registrar.enroll e = pure (b.registrar.accept e)
  enrolled : answer.2 = b.tell (b.registrar.enroll e >>= Registrar.fireAll during)
  triggers : ∀ place, b.registrar.attached = some place →
    (answer.2.registrar.gateways place).triggers = (b.registrar.gateways place).triggers + 1
  objects : ∀ place, b.registrar.attached = some place →
    (answer.2.registrar.gateways place).objects =
      if (b.registrar.gateways place).isLoopback then []
      else (b.registrar.gateways place).objects ++ e.objects
  others : ∀ place, b.registrar.attached ≠ some place →
    (b.registrar.gateways place).LeftAlone (answer.2.registrar.gateways place)

structure Decides (b : Broker α) (connection : ConnectionId) (definition : String)
    (during : List Firing) (answer : RegistrationReply × Broker α) : Prop where
  pending : b.registrar.registry.registration.isPending = true →
    answer = (.rejected .registrationInProgress, b)
  occupied : b.registrar.registry.registration.isPending = false →
    b.registrar.registry.applications ≠ [] → answer = (.rejected .alreadyRegistered, b)
  invalid : b.registrar.registry.registration.isPending = false →
    b.registrar.registry.applications = [] → ∀ why, Definition.parse definition = .error why →
      answer = (.rejected .invalidDefinition, b)
  admitted : b.registrar.registry.registration.isPending = false →
    b.registrar.registry.applications = [] → ∀ objects, Definition.parse definition = .ok objects →
      b.Admits ⟨connection, b.registrar.nextToken, objects, false, some ()⟩ during answer
  statuses : answer.1.status = .registrationInProgress ∨ answer.1.status = .alreadyRegistered ∨
    answer.1.status = .invalidDefinition ∨ answer.1.status = .success
  refused : answer.1.status ≠ .success → answer.1.token = none ∧ answer.2 = b

theorem admits_of_free {b : Broker α} (hfree : b.registrar.registry = ⟨.idle, []⟩)
    (e : Application) (during : List Firing) :
    b.Admits e during
      (.accepted e.token, b.tell (b.registrar.enroll e >>= Registrar.fireAll during)) := by
  have halone : (b.registrar.takeUp e).LeftAlone
      (b.registrar.enroll e >>= Registrar.fireAll during).value := by
    rw [Registrar.enroll_eq, ← Registrar.fireAll_append]
    exact Registrar.leftAlone_fireAll _ _
  constructor
  · rfl
  · exact Registrar.registry_accept hfree e
  · exact fun place hattached => Registrar.handler?_accept hattached e
  · exact Registrar.leftAlone_bind (.application e.token) b.registrar
  · exact fun place hattached => Registrar.enroll_of_attached hattached e
  · exact fun hunattached => Registrar.enroll_of_unattached hunattached e
  · rfl
  · intro place hattached
    rw [registrar_tell, (halone place).triggers, Registrar.gateways_takeUp hattached,
      Gateway.triggers_trigger]
    rfl
  · intro place hattached
    rw [registrar_tell, (halone place).objects, Registrar.gateways_takeUp hattached,
      Gateway.objects_trigger]
    rfl
  · intro place hother
    rw [registrar_tell]
    have hsame : (b.registrar.takeUp e).gateways place = b.registrar.gateways place := by
      cases hattached : b.registrar.attached with
      | none => rw [Registrar.gateways_takeUp_of_unattached hattached]
      | some attached =>
        apply Registrar.gateways_takeUp_other hattached
        intro hplace
        rw [hplace] at hother
        exact hother hattached
    rw [← hsame]
    exact halone place

theorem decides_registerDuring (b : Broker α) (connection : ConnectionId) (definition : String)
    (during : List Firing) :
    b.Decides connection definition during (b.registerDuring connection definition during) := by
  have hbusy {P : Prop} (hpending : b.registrar.registry.registration.isPending = true)
      (hidle : b.registrar.registry.registration.isPending = false) : P :=
    absurd hpending (Bool.eq_false_iff.mp hidle)
  obtain ⟨hpending, hrequest⟩ | ⟨hidle, hfilled, hrequest⟩ | ⟨why, hfree, hparse, hrequest⟩ |
      ⟨objects, hfree, hparse, hrequest⟩ :=
    Registry.request_cases connection definition b.registrar.nextToken b.registrar.registry
  · rw [registerDuring_of_error hrequest]
    exact {
      pending := fun _ => rfl
      occupied := hbusy hpending
      invalid := hbusy hpending
      admitted := hbusy hpending
      statuses := .inl rfl
      refused := fun _ => ⟨rfl, rfl⟩ }
  · rw [registerDuring_of_error hrequest]
    exact {
      pending := fun hpending => hbusy hpending hidle
      occupied := fun _ _ => rfl
      invalid := fun _ hempty => absurd hempty hfilled
      admitted := fun _ hempty => absurd hempty hfilled
      statuses := .inr (.inl rfl)
      refused := fun _ => ⟨rfl, rfl⟩ }
  · rw [registerDuring_of_error hrequest]
    have hidle : b.registrar.registry.registration.isPending = false := by rw [hfree]; rfl
    exact {
      pending := fun hpending => hbusy hpending hidle
      occupied := fun _ hfilled => absurd (congrArg Registry.applications hfree) hfilled
      invalid := fun _ _ _ _ => rfl
      admitted := fun _ _ _ hobjects => nomatch hparse.symm.trans hobjects
      statuses := .inr (.inr (.inl rfl))
      refused := fun _ => ⟨rfl, rfl⟩ }
  · rw [registerDuring_of_ok hrequest]
    have hidle : b.registrar.registry.registration.isPending = false := by rw [hfree]; rfl
    exact {
      pending := fun hpending => hbusy hpending hidle
      occupied := fun _ hfilled => absurd (congrArg Registry.applications hfree) hfilled
      invalid := fun _ _ _ hwhy => nomatch hparse.symm.trans hwhy
      admitted := by
        intro _ _ objects' hobjects
        obtain rfl := Except.ok.inj (hparse.symm.trans hobjects)
        exact admits_of_free hfree _ during
      statuses := .inr (.inr (.inr rfl))
      refused := fun hfailed => absurd rfl hfailed }

/-- Whatever state a broker is in, and whatever callbacks its gateway runs from inside the trigger. -/
theorem register_decides (b : Broker α) (connection : ConnectionId) (definition : String)
    (during : List Firing) :
    b.Decides connection definition [] (b.register connection definition) ∧
      b.Decides connection definition during (b.registerDuring connection definition during) := by
  constructor
  · rw [← registerDuring_nil]
    exact decides_registerDuring b connection definition []
  · exact decides_registerDuring b connection definition during

end Broker
end ResourceBroker
