import ResourceBroker.Proofs.Binding

/-!
Where a registration stands at a gateway that runs nothing but what is bound. The flag of the registry
is cleared by any outcome, the table changes only by way of the application's own recipient. Both keep
together as long as that recipient is bound while the registration waits; once the broker has bound
itself over it, the next outcome clears the flag and leaves the application unregistered for good.
-/

namespace ResourceBroker

namespace Registry

/-- With no registration underway, all applications are registered. -/
def Agrees (r : Registry) : Prop :=
  r.registration = .idle → ∀ e ∈ r.applications, e.registered = true

instance (r : Registry) : Decidable r.Agrees :=
  inferInstanceAs (Decidable (r.registration = .idle → ∀ e ∈ r.applications, e.registered = true))

end Registry

/-- A registration that waits may be `unheard`, when nobody is bound yet, or `superseded`, when the
broker is bound in place of its application. -/
inductive Stage where
  | free
  | unheard (token : AccessToken)
  | awaited (token : AccessToken)
  | superseded (token : AccessToken)
  | registered
  | stranded

namespace Stage

def pendingToken? : Stage → Option AccessToken
  | .unheard token | .awaited token | .superseded token => some token
  | .free | .registered | .stranded => none

def hear (outcome : Outcome) : Stage → Stage
  | .awaited _ =>
    match outcome with
    | .completed => .registered
    | .failed _ => .free
  | .superseded _ => .stranded
  | stage => stage

def takeOver : Stage → Stage
  | .unheard token | .awaited token => .superseded token
  | stage => stage

inductive Stands : Stage → Registry → Option Recipient → Prop where
  | free (bound : Option Recipient) : Stands .free ⟨.idle, []⟩ bound
  | unheard (e : Application) (unregistered : e.registered = false) :
      Stands (.unheard e.token) ⟨.pending e.token, [e]⟩ none
  | awaited (e : Application) (unregistered : e.registered = false) :
      Stands (.awaited e.token) ⟨.pending e.token, [e]⟩ (some (.application e.token))
  | superseded (e : Application) (unregistered : e.registered = false) :
      Stands (.superseded e.token) ⟨.pending e.token, [e]⟩ (some .broker)
  | registered (e : Application) (registered : e.registered = true) (bound : Option Recipient) :
      Stands .registered ⟨.idle, [e]⟩ bound
  | stranded (e : Application) (unregistered : e.registered = false) :
      Stands .stranded ⟨.idle, [e]⟩ (some .broker)

namespace Stands

variable {stage : Stage} {registry : Registry} {recipient : Recipient} {bound : Option Recipient}

theorem pending_iff (h : Stands stage registry bound) (token : AccessToken) :
    registry.registration = .pending token ↔ stage.pendingToken? = some token := by
  cases h <;> simp [pendingToken?]

theorem agrees_iff (h : Stands stage registry bound) : registry.Agrees ↔ stage ≠ .stranded := by
  unfold Registry.Agrees
  cases h with
  | free => simp
  | unheard | awaited | superseded => simp
  | registered e registered => simp [registered]
  | stranded e unregistered => simp [unregistered]

theorem hear_registered {e : Application} (registered : e.registered = true)
    (recipient : Recipient) (outcome : Outcome) (bound : Option Recipient) :
    Stands .registered (Registry.hear recipient outcome ⟨.idle, [e]⟩).value bound := by
  cases recipient with
  | broker => exact .registered e registered bound
  | application token =>
    cases outcome with
    | completed =>
      rw [Registry.hear, Registry.complete_singleton]
      split
      · exact .registered e.markRegistered rfl bound
      · exact .registered e registered bound
    | failed error =>
      rw [Registry.hear, Registry.fail_singleton, if_pos registered]
      split
      · exact .registered e registered bound
      · exact .registered e registered bound

theorem hear (h : Stands stage registry (some recipient)) (outcome : Outcome) :
    Stands (stage.hear outcome) (registry.hear recipient outcome).value
      (some (recipient.after outcome)) := by
  cases h with
  | free =>
    cases recipient with
    | broker => exact .free _
    | application token => cases outcome <;> exact .free _
  | awaited e unregistered =>
    cases outcome with
    | completed =>
      rw [Registry.hear, Registry.complete_singleton, if_pos rfl]
      exact .registered e.markRegistered rfl _
    | failed error =>
      rw [Registry.hear, Registry.fail_singleton, if_pos rfl, unregistered]
      exact .free _
  | superseded e unregistered => exact .stranded e unregistered
  | registered e registered => exact hear_registered registered recipient outcome _
  | stranded e unregistered => exact .stranded e unregistered

theorem takeOver (h : Stands stage registry bound) :
    Stands stage.takeOver registry (some .broker) := by
  cases h with
  | free => exact .free _
  | unheard e unregistered => exact .superseded e unregistered
  | awaited e unregistered => exact .superseded e unregistered
  | superseded e unregistered => exact .superseded e unregistered
  | registered e registered => exact .registered e registered _
  | stranded e unregistered => exact .stranded e unregistered

theorem eq_free (h : Stands stage ⟨.idle, []⟩ bound) : stage = .free := by
  cases h
  rfl

theorem hear_none (h : Stands stage registry none) (outcome : Outcome) :
    stage.hear outcome = stage := by
  cases h <;> rfl

end Stands

/-- The registrar and its one gateway are at this stage. Nobody is bound before the gateway is
attached. -/
def At (place : Nat) (stage : Stage) (r : Registrar) : Prop :=
  ∃ bound, r.ReportsTo place bound ∧ stage.Stands r.registry bound ∧
    (r.attached = some place ∨ r.attached = none ∧ bound = none)

namespace At

variable {place : Nat} {stage : Stage} {r : Registrar}

theorem fire (h : At place stage r) (outcome : Outcome) :
    At place (stage.hear outcome) (r.fire (.bound place outcome)).value := by
  obtain ⟨bound, hreports, hstands, hattached⟩ := h
  cases bound with
  | none =>
    rw [hreports.fire_none, hstands.hear_none]
    exact ⟨none, hreports, hstands, hattached⟩
  | some recipient =>
    have hplace : r.attached = some place := by simpa using hattached
    rw [hreports.fire_some]
    refine ⟨_, hreports.deliver hplace outcome, ?_, ?_⟩
    · rw [Registrar.registry_deliver]
      exact hstands.hear outcome
    · rw [Registrar.attached_deliver]
      exact .inl hplace

theorem takeOver (h : At place stage r) (hattached : r.attached.isSome = true) :
    At place stage.takeOver (r.bind .broker) := by
  obtain ⟨bound, hreports, hstands, hplace | ⟨hnone, -⟩⟩ := h
  · refine ⟨_, hreports.bind hplace .broker, ?_, ?_⟩
    · rw [Registrar.registry_bind]
      exact hstands.takeOver
    · rw [Registrar.attached_bind]
      exact .inl hplace
  · rw [hnone] at hattached
    cases hattached

theorem attach (h : At place stage r) : At place stage (r.attach place) := by
  obtain ⟨bound, hreports, hstands, -⟩ := h
  exact ⟨bound, hreports.congr rfl fun _ => rfl, hstands, .inl rfl⟩

theorem reportedOnTrigger (h : At place stage r) {firing : Firing}
    (hfiring : firing ∈ r.reportedOnTrigger) : ∃ outcome, firing = .bound place outcome := by
  obtain ⟨bound, -, -, hattached⟩ := h
  unfold Registrar.reportedOnTrigger at hfiring
  obtain hplace | ⟨hnone, -⟩ := hattached
  · rw [hplace] at hfiring
    obtain ⟨outcome, -, rfl⟩ := List.mem_map.mp hfiring
    exact ⟨outcome, rfl⟩
  · rw [hnone] at hfiring
    cases hfiring

theorem script (h : At place stage r) (other : Nat) (complete : Bool)
    (failure : Option CloudClientError) :
    At place stage (r.modifyGateway other (·.script complete failure)) := by
  obtain ⟨bound, hreports, hstands, hattached⟩ := h
  exact ⟨bound, hreports.script other complete failure, hstands, hattached⟩

end At

def Sound : Stage → Prop
  | .superseded _ | .stranded => False
  | .free | .unheard _ | .awaited _ | .registered => True

theorem Sound.hear {stage : Stage} (h : stage.Sound) (outcome : Outcome) :
    (stage.hear outcome).Sound := by
  cases stage with
  | awaited token => cases outcome <;> exact True.intro
  | superseded token => exact h
  | free | unheard _ | registered | stranded => exact h

namespace At

variable {place : Nat} {stage : Stage} {r : Registrar}

theorem fireAll (h : At place stage r) (hsound : stage.Sound) {firings : List Firing}
    (hbound : ∀ firing ∈ firings, ∃ outcome, firing = .bound place outcome) :
    ∃ after : Stage, after.Sound ∧ At place after (r.fireAll firings).value := by
  induction firings generalizing stage r with
  | nil => exact ⟨stage, hsound, h⟩
  | cons firing rest ih =>
    obtain ⟨outcome, rfl⟩ := hbound firing List.mem_cons_self
    exact ih (h.fire outcome) (hsound.hear outcome) fun f hf =>
      hbound f (List.mem_cons_of_mem _ hf)

theorem takeUp (h : At place .free r) {e : Application} (hunregistered : e.registered = false) :
    ∃ after : Stage, after.Sound ∧ At place after (r.takeUp e) := by
  obtain ⟨bound, hreports, hstands, hattached⟩ := h
  have hregistry : (r.takeUp e).registry = ⟨.pending e.token, [e]⟩ := by
    rw [Registrar.registry_takeUp]
    generalize r.registry = registry at hstands
    cases hstands
    rfl
  unfold At
  simp only [hregistry, Registrar.attached_takeUp]
  obtain hplace | ⟨hnone, rfl⟩ := hattached
  · exact ⟨.awaited e.token, True.intro, _, hreports.takeUp hplace e, .awaited e hunregistered,
      .inl hplace⟩
  · have hsame := Registrar.gateways_takeUp_of_unattached hnone e
    have hreports' : (r.takeUp e).ReportsTo place none := by
      apply hreports.congr
      · rw [hsame]
      · intro outcome
        rw [hsame]
    exact ⟨.unheard e.token, True.intro, none, hreports', .unheard e hunregistered,
      .inr ⟨hnone, rfl⟩⟩

end At
end Stage
end ResourceBroker
