import ResourceBroker.Proofs.Registrar

/-!
Whom the next outcome at a scripted gateway reaches. Where a gateway runs nothing but the handlers
bound at the moment, an outcome is heard by the recipient that was bound last, and the registry and
that recipient together decide what comes next.
-/

namespace ResourceBroker

def Recipient.after (outcome : Outcome) : Recipient → Recipient
  | .broker => .broker
  | .application token =>
    match outcome with
    | .completed => .broker
    | .failed _ => .application token

def Outcome.scripted (complete : Bool) (failure : Option CloudClientError) : List Outcome :=
  (if complete then [.completed] else []) ++ (failure.map .failed).toList

namespace Gateway

variable {H : Type}

@[simp] theorem kind_addObjects (objects : List ResourceObject) (g : Gateway H) :
    (g.addObjects objects).kind = g.kind := rfl

@[simp] theorem handler?_addObjects (objects : List ResourceObject) (g : Gateway H)
    (outcome : Outcome) : (g.addObjects objects).handler? outcome = g.handler? outcome := by
  cases outcome <;> rfl

@[simp] theorem kind_trigger (g : Gateway H) : g.trigger.1.kind = g.kind := by
  unfold trigger
  split <;> rfl

@[simp] theorem handler?_trigger (g : Gateway H) (outcome : Outcome) :
    g.trigger.1.handler? outcome = g.handler? outcome := by
  unfold trigger
  split <;> cases outcome <;> rfl

@[simp] theorem handler?_script (complete : Bool) (failure : Option CloudClientError)
    (g : Gateway H) (outcome : Outcome) :
    (g.script complete failure).handler? outcome = g.handler? outcome := by
  unfold script
  split <;> cases outcome <;> rfl

theorem kind_script {g : Gateway H} (h : g.kind ≠ .loopback) (complete : Bool)
    (failure : Option CloudClientError) :
    (g.script complete failure).kind = .scripted complete failure := by
  unfold script
  split
  · rfl
  · next hkind => exact absurd hkind h

end Gateway

namespace Registrar

variable {r r' : Registrar} {place : Nat} {recipient : Recipient} {bound : Option Recipient}

theorem gateways_bind (h : r.attached = some place) (recipient : Recipient) :
    (r.bind recipient).gateways place = (r.gateways place).bind recipient := by
  unfold bind
  rw [h]
  exact if_pos rfl

theorem gateways_bind_other (h : r.attached = some place) (recipient : Recipient) {other : Nat}
    (hother : other ≠ place) : (r.bind recipient).gateways other = r.gateways other := by
  unfold bind
  rw [h]
  exact if_neg hother

theorem bind_of_unattached (h : r.attached = none) (recipient : Recipient) :
    r.bind recipient = r := by
  unfold bind
  rw [h]

theorem kind_deliver (recipient : Recipient) (outcome : Outcome) (r : Registrar) (place : Nat) :
    ((r.deliver recipient outcome).value.gateways place).kind = (r.gateways place).kind := by
  cases recipient with
  | broker => rfl
  | application token =>
    cases outcome with
    | completed => exact kind_bind ..
    | failed error => rfl

theorem gateways_takeUp (h : r.attached = some place) (e : Application) :
    (r.takeUp e).gateways place =
      (((r.gateways place).bind (.application e.token)).addObjects e.objects).trigger.1 := by
  have hbind := gateways_bind h (.application e.token)
  unfold takeUp
  simp only [attached_bind, h]
  rw [gateways_modifyGateway, if_pos rfl]
  simp only [hbind]

theorem gateways_takeUp_other (h : r.attached = some place) (e : Application) {other : Nat}
    (hother : other ≠ place) : (r.takeUp e).gateways other = r.gateways other := by
  have hbind := gateways_bind_other h (.application e.token) hother
  unfold takeUp
  simp only [attached_bind, h]
  rw [gateways_modifyGateway, if_neg hother]
  exact hbind

theorem gateways_takeUp_of_unattached (h : r.attached = none) (e : Application) :
    (r.takeUp e).gateways = r.gateways := by
  unfold takeUp
  simp only [bind_of_unattached h, h]

/-- The gateway reports when it is told to, and what it reports reaches this recipient, if any. -/
structure ReportsTo (place : Nat) (bound : Option Recipient) (r : Registrar) : Prop where
  scripted : (r.gateways place).kind ≠ .loopback
  handler : ∀ outcome, (r.gateways place).handler? outcome = bound

namespace ReportsTo

theorem congr (h : r.ReportsTo place bound)
    (hkind : (r'.gateways place).kind = (r.gateways place).kind)
    (hhandler : ∀ outcome,
      (r'.gateways place).handler? outcome = (r.gateways place).handler? outcome) :
    r'.ReportsTo place bound where
  scripted := by rw [hkind]; exact h.scripted
  handler := by
    intro outcome
    rw [hhandler]
    exact h.handler outcome

theorem delivery? (h : r.ReportsTo place bound) (outcome : Outcome) :
    (Firing.bound place outcome).delivery? r = bound.map (⟨·, outcome, r⟩) := by
  have hloop : (r.gateways place).isLoopback = false := decide_eq_false h.scripted
  simp only [Firing.delivery?, Gateway.reported?, hloop, h.handler]
  rfl

theorem fire_some (h : r.ReportsTo place (some recipient)) (outcome : Outcome) :
    r.fire (.bound place outcome) = r.deliver recipient outcome := by
  rw [fire_of_delivery? (h.delivery? outcome)]
  rfl

theorem fire_none (h : r.ReportsTo place none) (outcome : Outcome) :
    r.fire (.bound place outcome) = pure r :=
  fire_of_no_delivery (h.delivery? outcome)

theorem bind (h : r.ReportsTo place bound) (hattached : r.attached = some place)
    (recipient : Recipient) : (r.bind recipient).ReportsTo place (some recipient) where
  scripted := by rw [kind_bind]; exact h.scripted
  handler := by
    intro outcome
    rw [gateways_bind hattached, Gateway.handler?_bind]

theorem deliver (h : r.ReportsTo place (some recipient)) (hattached : r.attached = some place)
    (outcome : Outcome) :
    (r.deliver recipient outcome).value.ReportsTo place (some (recipient.after outcome)) := by
  cases recipient with
  | broker => exact h.congr rfl fun _ => rfl
  | application token =>
    cases outcome with
    | completed =>
      have hmarked : ReportsTo place (some (.application token))
          { r with registry := (r.registry.complete token).value } :=
        h.congr rfl fun _ => rfl
      exact hmarked.bind hattached .broker
    | failed error => exact h.congr rfl fun _ => rfl

theorem takeUp (h : r.ReportsTo place bound) (hattached : r.attached = some place)
    (e : Application) : (r.takeUp e).ReportsTo place (some (.application e.token)) := by
  have hbind := h.bind hattached (.application e.token)
  apply hbind.congr
  · simp [gateways_takeUp hattached, gateways_bind hattached]
  · intro outcome
    simp [gateways_takeUp hattached, gateways_bind hattached]

theorem script (h : r.ReportsTo place bound) (other : Nat) (complete : Bool)
    (failure : Option CloudClientError) :
    (r.modifyGateway other (·.script complete failure)).ReportsTo place bound := by
  by_cases hother : place = other
  · subst hother
    have hgateway : (r.modifyGateway place (·.script complete failure)).gateways place =
        (r.gateways place).script complete failure := if_pos rfl
    constructor
    · rw [hgateway, Gateway.kind_script h.scripted]
      intro hkind
      cases hkind
    · intro outcome
      rw [hgateway, Gateway.handler?_script]
      exact h.handler outcome
  · have hgateway : (r.modifyGateway other (·.script complete failure)).gateways place =
        r.gateways place := if_neg hother
    apply h.congr
    · rw [hgateway]
    · intro outcome
      rw [hgateway]

end ReportsTo

theorem reportedOnTrigger_of_kind {complete : Bool} {failure : Option CloudClientError}
    (hattached : r.attached = some place)
    (hkind : (r.gateways place).kind = .scripted complete failure) :
    r.reportedOnTrigger = (Outcome.scripted complete failure).map (.bound place) := by
  unfold reportedOnTrigger Gateway.trigger
  rw [hattached]
  simp only [hkind]
  rfl

end Registrar
end ResourceBroker
