import ResourceBroker.Proofs.Binding

/-!
Updates underway at loopback gateways. Such a gateway runs no callback but that of an update whose
delay is over, and it settled who that is when the update began. Whatever is bound behind it, there or
at another gateway, concerns later updates only.
-/

namespace ResourceBroker

namespace Gateway

variable {H : Type}

/-- A loopback gateway notes who is bound when an update begins. -/
theorem underway_trigger {g : Gateway H} (h : g.kind = .loopback) :
    g.trigger.1.underway = g.underway ++ g.updateBindings.getLast?.toList := by
  unfold trigger
  rw [h]

theorem trigger_snd_of_loopback {g : Gateway H} (h : g.kind = .loopback) : g.trigger.2 = [] := by
  unfold trigger
  rw [h]

theorem script_of_loopback {g : Gateway H} (h : g.kind = .loopback) (complete : Bool)
    (failure : Option CloudClientError) : g.script complete failure = g := by
  unfold script
  rw [h]

end Gateway

namespace Registrar

theorem underway_bind (recipient : Recipient) (r : Registrar) (place : Nat) :
    ((r.bind recipient).gateways place).underway = (r.gateways place).underway := by
  unfold bind
  split
  · rw [gateways_modifyGateway]
    split
    · next h => rw [h]; rfl
    · rfl
  · rfl

theorem underway_deliver (recipient : Recipient) (outcome : Outcome) (r : Registrar)
    (place : Nat) :
    ((r.deliver recipient outcome).value.gateways place).underway =
      (r.gateways place).underway := by
  cases recipient with
  | broker => rfl
  | application token =>
    cases outcome with
    | completed => exact underway_bind ..
    | failed error => rfl

/-- There are loopback gateways only, and this is who waits at each of them. -/
structure Awaits (waiting : Nat → List Recipient) (r : Registrar) : Prop where
  loopback : ∀ place, (r.gateways place).kind = .loopback
  underway : ∀ place, (r.gateways place).underway = waiting place

def nobody : Nat → List Recipient := fun _ => []

def only (place : Nat) (recipient : Recipient) : Nat → List Recipient := fun other =>
  if other = place then [recipient] else []

namespace Awaits

variable {waiting : Nat → List Recipient} {r : Registrar} {place : Nat} {recipient : Recipient}

theorem attach (h : Awaits waiting r) (place : Nat) : Awaits waiting (r.attach place) :=
  ⟨h.loopback, h.underway⟩

theorem bind (h : Awaits waiting r) (recipient : Recipient) :
    Awaits waiting (r.bind recipient) where
  loopback other := by rw [kind_bind]; exact h.loopback other
  underway other := by rw [underway_bind]; exact h.underway other

theorem deliver (h : Awaits waiting r) (recipient : Recipient) (outcome : Outcome) :
    Awaits waiting (r.deliver recipient outcome).value where
  loopback other := by rw [kind_deliver]; exact h.loopback other
  underway other := by rw [underway_deliver]; exact h.underway other

theorem script (h : Awaits waiting r) (place : Nat) (complete : Bool)
    (failure : Option CloudClientError) :
    Awaits waiting (r.modifyGateway place (·.script complete failure)) := by
  have hsame (other : Nat) :
      (r.modifyGateway place (·.script complete failure)).gateways other = r.gateways other := by
    rw [gateways_modifyGateway]
    split
    · next hplace => rw [hplace, Gateway.script_of_loopback (h.loopback place)]
    · rfl
  constructor
  · intro other
    rw [hsame]
    exact h.loopback other
  · intro other
    rw [hsame]
    exact h.underway other

theorem reportedOnTrigger (h : Awaits waiting r) : r.reportedOnTrigger = [] := by
  unfold Registrar.reportedOnTrigger
  split
  · next place _ => rw [Gateway.trigger_snd_of_loopback (h.loopback place)]; rfl
  · rfl

theorem takeUp (h : Awaits nobody r) (hattached : r.attached = some place) (e : Application) :
    Awaits (only place (.application e.token)) (r.takeUp e) := by
  have hkind : (((r.gateways place).bind (.application e.token)).addObjects e.objects).kind =
      .loopback := h.loopback place
  have hbound : (((r.gateways place).bind (.application e.token)).addObjects
      e.objects).updateBindings.getLast? = some (.application e.token) :=
    List.getLast?_concat
  constructor
  · intro other
    by_cases hplace : other = place
    · rw [hplace, gateways_takeUp hattached, Gateway.kind_trigger]
      exact hkind
    · rw [gateways_takeUp_other hattached e hplace]
      exact h.loopback other
  · intro other
    unfold only
    split
    · next hplace =>
      rw [hplace, gateways_takeUp hattached, Gateway.underway_trigger hkind, hbound]
      exact congrArg (· ++ [Recipient.application e.token]) (h.underway place)
    · next hplace =>
      rw [gateways_takeUp_other hattached e hplace]
      exact h.underway other

theorem delivery?_nobody (h : Awaits nobody r) (place index : Nat) :
    (Firing.underway place index).delivery? r = none := by
  simp only [Firing.delivery?, h.underway place]
  rfl

theorem delivery?_self (h : Awaits (only place recipient) r) :
    ∃ before, (Firing.underway place 0).delivery? r = some ⟨recipient, .completed, before⟩ ∧
      Awaits nobody before := by
  have hunderway : (r.gateways place).underway = [recipient] := by
    rw [h.underway place]
    exact if_pos rfl
  refine ⟨r.modifyGateway place fun g => { g with underway := g.underway.eraseIdx 0 }, ?_, ?_, ?_⟩
  · simp only [Firing.delivery?, hunderway]
    rfl
  · intro other
    rw [gateways_modifyGateway]
    split
    · exact h.loopback place
    · exact h.loopback other
  · intro other
    rw [gateways_modifyGateway]
    split
    · rw [hunderway]
      rfl
    · next hne =>
      rw [h.underway other]
      exact if_neg hne

theorem delivery?_only (h : Awaits (only place recipient) r) (other index : Nat) :
    (Firing.underway other index).delivery? r = none ∨ other = place ∧ index = 0 := by
  by_cases hplace : other = place
  · have hunderway : (r.gateways other).underway = [recipient] := by
      rw [h.underway other]
      exact if_pos hplace
    cases index with
    | zero => exact .inr ⟨hplace, rfl⟩
    | succ index =>
      left
      simp only [Firing.delivery?, hunderway]
      rfl
  · have hunderway : (r.gateways other).underway = [] := by
      rw [h.underway other]
      exact if_neg hplace
    left
    simp only [Firing.delivery?, hunderway]
    rfl

end Awaits
end Registrar
end ResourceBroker
