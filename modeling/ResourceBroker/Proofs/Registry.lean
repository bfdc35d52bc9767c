import ResourceBroker.Registry

/-!
The shapes that a registry can have, and what the operations do to each. There is room for one
application, so a request can only succeed on the empty registry, and an outcome concerns either the
one application or nobody.
-/

namespace ResourceBroker.Registry

/-- A registration waits only for the one application in the table, and only while that application is
unregistered. Without a registration that waits, the application may be in either state. -/
inductive Shaped : Registry → Prop where
  | free : Shaped ⟨.idle, []⟩
  | waiting (e : Application) (unregistered : e.registered = false) :
      Shaped ⟨.pending e.token, [e]⟩
  | resolved (e : Application) : Shaped ⟨.idle, [e]⟩

theorem Shaped.length_le_one {r : Registry} (h : Shaped r) : r.applications.length ≤ 1 := by
  cases h with
  | free => exact Nat.zero_le 1
  | waiting e _ => exact Nat.le_refl 1
  | resolved e => exact Nat.le_refl 1

theorem Shaped.eq_singleton_of_pending {r : Registry} (h : Shaped r) {token : AccessToken}
    (hpending : r.registration = .pending token) :
    ∃ e, r.applications = [e] ∧ e.token = token ∧ e.registered = false := by
  cases h with
  | free => cases hpending
  | waiting e unregistered => exact ⟨e, rfl, Registration.pending.inj hpending, unregistered⟩
  | resolved e => cases hpending

def Holds (token : AccessToken) (r : Registry) : Prop := ∃ e ∈ r.applications, e.token = token

@[simp] theorem not_holds_free (token : AccessToken) (g : Registration) :
    ¬ Holds token ⟨g, []⟩ := by
  simp [Holds]

@[simp] theorem holds_singleton (token : AccessToken) (g : Registration) (e : Application) :
    Holds token ⟨g, [e]⟩ ↔ e.token = token := by
  simp [Holds]

@[simp] theorem finish_mk (g : Registration) (table : List Application) :
    finish ⟨g, table⟩ = ⟨.idle, table⟩ := rfl

/-- A completed update marks its own application, and ends the wait of any. -/
theorem complete_singleton (token : AccessToken) (g : Registration) (e : Application) :
    complete token ⟨g, [e]⟩ =
      if e.token = token then ⟨⟨.idle, [e.markRegistered]⟩, [(e.connection, .success)]⟩
      else ⟨⟨.idle, [e]⟩, []⟩ := by
  unfold complete mark find?
  by_cases h : e.token = token
  · simp [h]
  · simp [h]

/-- A failure takes its own application out of the table, unless that one is registered. -/
theorem fail_singleton (token : AccessToken) (g : Registration) (e : Application) :
    fail token ⟨g, [e]⟩ =
      if e.token = token then
        if e.registered then ⟨⟨g, [e]⟩, []⟩ else ⟨⟨.idle, []⟩, [(e.connection, .failed)]⟩
      else ⟨⟨.idle, [e]⟩, []⟩ := by
  unfold fail find?
  by_cases h : e.token = token
  · cases hr : e.registered
    · simp [h, hr, erase]
    · simp only [h, hr, List.find?_cons, decide_true, if_true]
      rfl
  · simp only [h, List.find?_cons, decide_false, List.find?_nil, if_false]
    rfl

theorem Shaped.finish {r : Registry} (h : Shaped r) : Shaped r.finish := by
  cases h with
  | free => exact .free
  | waiting e _ => exact .resolved e
  | resolved e => exact .resolved e

theorem Shaped.complete {r : Registry} (h : Shaped r) (token : AccessToken) :
    Shaped (r.complete token).value := by
  cases h with
  | free => exact .free
  | waiting e _ =>
    rw [complete_singleton]
    split
    · exact .resolved _
    · exact .resolved _
  | resolved e =>
    rw [complete_singleton]
    split
    · exact .resolved _
    · exact .resolved _

theorem Shaped.fail {r : Registry} (h : Shaped r) (token : AccessToken) :
    Shaped (r.fail token).value := by
  cases h with
  | free => exact .free
  | waiting e unregistered =>
    rw [fail_singleton, unregistered]
    split
    · exact .free
    · exact .resolved _
  | resolved e =>
    rw [fail_singleton]
    split
    · split
      · exact .resolved _
      · exact .free
    · exact .resolved _

theorem isRegistered?_singleton (token : AccessToken) (g : Registration) (e : Application) :
    isRegistered? token ⟨g, [e]⟩ = if e.token = token then some e.registered else none := by
  unfold isRegistered? find?
  by_cases h : e.token = token
  · simp [h]
  · simp [h]

theorem Shaped.isRegistered?_eq_some_iff {r : Registry} (h : Shaped r) (token : AccessToken)
    (registered : Bool) :
    r.isRegistered? token = some registered ↔
      ∃ e ∈ r.applications, e.token = token ∧ e.registered = registered := by
  cases h with
  | free => simp [isRegistered?, find?]
  | waiting e _ => simp [isRegistered?_singleton]
  | resolved e => simp [isRegistered?_singleton]

/-! Requests -/

theorem request_waiting (connection : ConnectionId) (definition : String) (fresh token : AccessToken)
    (table : List Application) :
    request connection definition fresh ⟨.pending token, table⟩ = .error .registrationInProgress :=
  rfl

theorem request_occupied (connection : ConnectionId) (definition : String) (fresh : AccessToken)
    (e : Application) (rest : List Application) :
    request connection definition fresh ⟨.idle, e :: rest⟩ = .error .alreadyRegistered := by
  have hidle : ¬ maxConcurrentRegistrations ≤ Registration.idle.inFlight := by decide
  have hfull : maxApplications ≤ (e :: rest).length := by simp [maxApplications]
  unfold request
  rw [Registration.check, if_neg hidle, if_pos hfull]
  rfl

theorem request_free_of_ok {definition : String} {objects : List ResourceObject}
    (h : Definition.parse definition = .ok objects) (connection : ConnectionId)
    (fresh : AccessToken) :
    request connection definition fresh ⟨.idle, []⟩ =
      .ok ⟨connection, fresh, objects, false, some ()⟩ := by
  unfold request Endpoint.create
  rw [h]
  rfl

theorem request_free_of_error {definition : String} {why : DefinitionError}
    (h : Definition.parse definition = .error why) (connection : ConnectionId)
    (fresh : AccessToken) :
    request connection definition fresh ⟨.idle, []⟩ = .error .invalidDefinition := by
  unfold request Endpoint.create
  rw [h]
  rfl

/-- All that a request can come to: there are three reasons to refuse it, in this order. -/
theorem request_cases (connection : ConnectionId) (definition : String) (fresh : AccessToken)
    (r : Registry) :
    (r.registration.isPending = true ∧
      r.request connection definition fresh = .error .registrationInProgress) ∨
    (r.registration.isPending = false ∧ r.applications ≠ [] ∧
      r.request connection definition fresh = .error .alreadyRegistered) ∨
    (∃ why, r = ⟨.idle, []⟩ ∧ Definition.parse definition = .error why ∧
      r.request connection definition fresh = .error .invalidDefinition) ∨
    ∃ objects, r = ⟨.idle, []⟩ ∧ Definition.parse definition = .ok objects ∧
      r.request connection definition fresh = .ok ⟨connection, fresh, objects, false, some ()⟩ := by
  obtain ⟨registration, table⟩ := r
  cases registration with
  | pending token => exact .inl ⟨rfl, request_waiting ..⟩
  | idle =>
    right
    cases table with
    | cons e rest => exact .inl ⟨rfl, List.cons_ne_nil e rest, request_occupied ..⟩
    | nil =>
      right
      cases hparse : Definition.parse definition with
      | error why => exact .inl ⟨why, rfl, rfl, request_free_of_error hparse connection fresh⟩
      | ok objects => exact .inr ⟨objects, rfl, rfl, request_free_of_ok hparse connection fresh⟩

theorem request_eq_ok {connection : ConnectionId} {definition : String} {fresh : AccessToken}
    {r : Registry} {e : Application} (h : r.request connection definition fresh = .ok e) :
    r = ⟨.idle, []⟩ ∧ e.connection = connection ∧ e.token = fresh ∧ e.registered = false := by
  obtain ⟨-, hanswer⟩ | ⟨-, -, hanswer⟩ | ⟨_, -, -, hanswer⟩ | ⟨objects, hfree, -, hanswer⟩ :=
    request_cases connection definition fresh r
  · cases hanswer.symm.trans h
  · cases hanswer.symm.trans h
  · cases hanswer.symm.trans h
  · cases hanswer.symm.trans h
    exact ⟨hfree, rfl, rfl, rfl⟩

theorem Shaped.request_of_registered {r : Registry} (h : Shaped r) {token : AccessToken}
    (hregistered : r.isRegistered? token = some true) (connection : ConnectionId)
    (definition : String) (fresh : AccessToken) :
    r.request connection definition fresh = .error .alreadyRegistered := by
  obtain ⟨e, he, -, her⟩ := (h.isRegistered?_eq_some_iff token true).mp hregistered
  cases h with
  | free => cases he
  | waiting e' unregistered =>
    rw [List.mem_singleton.mp he, unregistered] at her
    cases her
  | resolved e' => exact request_occupied connection definition fresh e' []

end ResourceBroker.Registry
