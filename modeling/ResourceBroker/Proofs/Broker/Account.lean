import Mathlib.Data.List.Induction
import ResourceBroker.Proofs.Broker.Action

/-!
The account of a run: the registrations that were accepted and the callbacks that ran, held against
the table. An application in the table has been told of a success if and only if it is registered; a
registration that was accepted and is no longer in the table has ended with one failure. From there
the history of a token can be read off the table, and the fate of a token off its history.
-/

namespace ResourceBroker

def pushesFor (token : AccessToken) (deliveries : List Delivery) : List Push :=
  (deliveries.filter fun d => d.recipient = .application token).flatMap Delivery.pushes

theorem pushesFor_append (token : AccessToken) (first rest : List Delivery) :
    pushesFor token (first ++ rest) = pushesFor token first ++ pushesFor token rest := by
  unfold pushesFor
  rw [List.filter_append, List.flatMap_append]

theorem pushesFor_self {token : AccessToken} {d : Delivery}
    (h : d.recipient = .application token) : pushesFor token [d] = d.pushes := by
  simp [pushesFor, h]

theorem pushesFor_other {token : AccessToken} {d : Delivery}
    (h : d.recipient ≠ .application token) : pushesFor token [d] = [] := by
  simp [pushesFor, h]

theorem pushesFor_ne {token own : AccessToken} {d : Delivery}
    (h : d.recipient = .application own) (hne : own ≠ token) : pushesFor token [d] = [] := by
  apply pushesFor_other
  rw [h]
  intro hsame
  cases hsame
  exact hne rfl

theorem pushesFor_silent (token : AccessToken) {d : Delivery} (h : d.pushes = []) :
    pushesFor token [d] = [] := by
  by_cases hd : d.recipient = .application token
  · rw [pushesFor_self hd, h]
  · exact pushesFor_other hd

theorem pushesFor_eq_nil {t : AccessToken} {deliveries : List Delivery}
    (h : ∀ d ∈ deliveries, d.recipient ≠ .application t) : pushesFor t deliveries = [] := by
  have hnone : deliveries.filter (fun d => d.recipient = .application t) = [] := by
    rw [List.filter_eq_nil_iff]
    intro d hd
    simpa using h d hd
  rw [pushesFor, hnone]
  rfl

/-- What an application in the table has been told so far. -/
def Heard (e : Application) (pushes : List Push) : Prop :=
  if e.registered then ∃ n, pushes = List.replicate (n + 1) (e.connection, .success)
  else pushes = []

theorem Heard.success {e : Application} {pushes : List Push} (h : Heard e pushes) :
    Heard e.markRegistered (pushes ++ [(e.connection, .success)]) := by
  unfold Heard at h
  split at h
  · obtain ⟨n, rfl⟩ := h
    exact ⟨n + 1, List.replicate_succ'.symm⟩
  · rw [h]
    exact ⟨0, rfl⟩

namespace Delivery

def Erases (d : Delivery) (token : AccessToken) : Prop :=
  d.recipient = .application token ∧ d.before.registry.Holds token ∧
    ¬ d.after.registry.Holds token

theorem registry_after (d : Delivery) :
    d.after.registry = (d.before.registry.hear d.recipient d.outcome).value :=
  Registrar.registry_deliver ..

theorem pushes_eq (d : Delivery) :
    d.pushes = (d.before.registry.hear d.recipient d.outcome).pushes :=
  Registrar.pushes_deliver ..

theorem issued_after (d : Delivery) : d.after.issued = d.before.issued :=
  Registrar.issued_deliver ..

theorem mint_after (d : Delivery) : d.after.mint = d.before.mint :=
  Registrar.mint_deliver ..

end Delivery

/-- Replies and deliveries agree with the table. -/
structure Accounted (replies : List (ConnectionId × RegistrationReply))
    (deliveries : List Delivery) (r : Registrar) : Prop where
  shaped : r.registry.Shaped
  distinct : Function.Injective r.mint
  minted : ∀ c t, (c, .accepted t) ∈ replies → ∃ k < r.issued, r.mint k = t
  unique : ∀ c c' t, (c, .accepted t) ∈ replies → (c', .accepted t) ∈ replies → c = c'
  present : ∀ e ∈ r.registry.applications, (e.connection, .accepted e.token) ∈ replies ∧
    Heard e (pushesFor e.token deliveries)
  absent : ∀ c t, (c, .accepted t) ∈ replies → ¬ r.registry.Holds t →
    pushesFor t deliveries = [(c, .failed)]
  unknown : ∀ t, (∀ c, (c, .accepted t) ∉ replies) → pushesFor t deliveries = []
  erasing : ∀ d ∈ deliveries, ∀ c, (c, .failed) ∈ d.pushes → ∃ t, d.Erases t

namespace Accounted

variable {replies : List (ConnectionId × RegistrationReply)} {deliveries : List Delivery}
  {r r' : Registrar} {d : Delivery}

theorem congr (h : Accounted replies deliveries r) (hregistry : r'.registry = r.registry)
    (hissued : r'.issued = r.issued) (hmint : r'.mint = r.mint) :
    Accounted replies deliveries r' where
  shaped := by rw [hregistry]; exact h.shaped
  distinct := by rw [hmint]; exact h.distinct
  minted := by rw [hissued, hmint]; exact h.minted
  unique := h.unique
  present := by rw [hregistry]; exact h.present
  absent := by rw [hregistry]; exact h.absent
  unknown := h.unknown
  erasing := h.erasing

/-- A delivery, given what it means for the application in the table and for those gone. -/
theorem of_delivery (h : Accounted replies deliveries d.before)
    (present : ∀ e ∈ d.after.registry.applications, (e.connection, .accepted e.token) ∈ replies ∧
      Heard e (pushesFor e.token (deliveries ++ [d])))
    (absent : ∀ c t, (c, .accepted t) ∈ replies → ¬ d.after.registry.Holds t →
      pushesFor t (deliveries ++ [d]) = [(c, .failed)])
    (unknown : ∀ t, (∀ c, (c, .accepted t) ∉ replies) → pushesFor t [d] = [])
    (erasing : ∀ c, (c, .failed) ∈ d.pushes → ∃ t, d.Erases t) :
    Accounted replies (deliveries ++ [d]) d.after where
  shaped := by rw [d.registry_after]; exact h.shaped.hear _ _
  distinct := by rw [d.mint_after]; exact h.distinct
  minted := by rw [d.issued_after, d.mint_after]; exact h.minted
  unique := h.unique
  present := present
  absent := absent
  unknown := by
    intro t hnone
    rw [pushesFor_append, h.unknown t hnone, unknown t hnone]
    rfl
  erasing := by
    intro d' hd' c hfailed
    obtain hd' | hd' := List.mem_append.mp hd'
    · exact h.erasing d' hd' c hfailed
    · rw [List.mem_singleton.mp hd'] at hfailed ⊢
      exact erasing c hfailed

theorem of_silent (h : Accounted replies deliveries d.before)
    (htable : d.after.registry.applications = d.before.registry.applications)
    (hpushes : d.pushes = []) : Accounted replies (deliveries ++ [d]) d.after := by
  have hsame (t : AccessToken) : pushesFor t (deliveries ++ [d]) = pushesFor t deliveries := by
    rw [pushesFor_append, pushesFor_silent t hpushes, List.append_nil]
  apply h.of_delivery
  · intro e he
    rw [htable] at he
    rw [hsame]
    exact h.present e he
  · intro c t hreply hgone
    unfold Registry.Holds at hgone
    rw [htable] at hgone
    rw [hsame]
    exact h.absent c t hreply hgone
  · intro t _
    exact pushesFor_silent t hpushes
  · intro c hfailed
    rw [hpushes] at hfailed
    cases hfailed

theorem of_success {e : Application} (h : Accounted replies deliveries d.before)
    (hrecipient : d.recipient = .application e.token)
    (hbefore : d.before.registry.applications = [e])
    (hafter : d.after.registry = ⟨.idle, [e.markRegistered]⟩)
    (hpushes : d.pushes = [(e.connection, .success)]) :
    Accounted replies (deliveries ++ [d]) d.after := by
  obtain ⟨hreply, hheard⟩ := h.present e (by rw [hbefore]; exact List.mem_singleton_self e)
  apply h.of_delivery
  · intro e' he'
    rw [hafter] at he'
    rw [List.mem_singleton.mp he', pushesFor_append]
    refine ⟨hreply, ?_⟩
    change Heard e.markRegistered (pushesFor e.token deliveries ++ pushesFor e.token [d])
    rw [pushesFor_self hrecipient, hpushes]
    exact hheard.success
  · intro c t hc hgone
    rw [hafter, Registry.holds_singleton] at hgone
    have hne : e.token ≠ t := hgone
    have hgone' : ¬ d.before.registry.Holds t := by
      unfold Registry.Holds
      simpa [hbefore] using hne
    rw [pushesFor_append, pushesFor_ne hrecipient hne, List.append_nil]
    exact h.absent c t hc hgone'
  · intro t hnone
    apply pushesFor_ne hrecipient
    intro ht
    rw [← ht] at hnone
    exact hnone e.connection hreply
  · intro c hfailed
    rw [hpushes, List.mem_singleton] at hfailed
    cases hfailed

theorem of_failure {e : Application} (h : Accounted replies deliveries d.before)
    (hrecipient : d.recipient = .application e.token)
    (hbefore : d.before.registry.applications = [e]) (hunregistered : e.registered = false)
    (hafter : d.after.registry = ⟨.idle, []⟩) (hpushes : d.pushes = [(e.connection, .failed)]) :
    Accounted replies (deliveries ++ [d]) d.after := by
  obtain ⟨hreply, hheard⟩ := h.present e (by rw [hbefore]; exact List.mem_singleton_self e)
  have hquiet : pushesFor e.token deliveries = [] := by
    unfold Heard at hheard
    rwa [hunregistered, if_neg (by decide)] at hheard
  apply h.of_delivery
  · intro e' he'
    rw [hafter] at he'
    cases he'
  · intro c t hc _
    rw [pushesFor_append]
    by_cases ht : e.token = t
    · subst ht
      rw [hquiet, pushesFor_self hrecipient, hpushes, h.unique c e.connection e.token hc hreply]
      rfl
    · have hgone : ¬ d.before.registry.Holds t := by
        unfold Registry.Holds
        simpa [hbefore] using ht
      rw [pushesFor_ne hrecipient ht, List.append_nil]
      exact h.absent c t hc hgone
  · intro t hnone
    apply pushesFor_ne hrecipient
    intro ht
    rw [← ht] at hnone
    exact hnone e.connection hreply
  · intro c _
    refine ⟨e.token, hrecipient, ⟨e, ?_, rfl⟩, ?_⟩
    · rw [hbefore]
      exact List.mem_singleton_self e
    · rw [hafter]
      exact Registry.not_holds_free _ _

theorem deliver (h : Accounted replies deliveries d.before) :
    Accounted replies (deliveries ++ [d]) d.after := by
  obtain ⟨htable, hpushes⟩ | ⟨e, hrecipient, hbefore, htold⟩ |
      ⟨e, hrecipient, hbefore, hunregistered, htold⟩ := h.shaped.hear_cases d.recipient d.outcome
  · exact h.of_silent (by rw [d.registry_after, htable]) (by rw [d.pushes_eq, hpushes])
  · exact h.of_success hrecipient hbefore (by rw [d.registry_after, htold])
      (by rw [d.pushes_eq, htold])
  · exact h.of_failure hrecipient hbefore hunregistered (by rw [d.registry_after, htold])
      (by rw [d.pushes_eq, htold])

/-! The table read off the history -/

theorem registered_iff (h : Accounted replies deliveries r) (t : AccessToken) :
    r.registry.isRegistered? t = some true ↔ ∃ c, (c, .success) ∈ pushesFor t deliveries := by
  constructor
  · intro hregistered
    obtain ⟨e, he, rfl, her⟩ := (h.shaped.isRegistered?_eq_some_iff t true).mp hregistered
    obtain ⟨-, hheard⟩ := h.present e he
    unfold Heard at hheard
    rw [her, if_pos rfl] at hheard
    obtain ⟨n, hpushes⟩ := hheard
    rw [hpushes]
    exact ⟨e.connection, List.mem_cons_self⟩
  · rintro ⟨c, hc⟩
    by_cases hholds : r.registry.Holds t
    · obtain ⟨e, he, rfl⟩ := hholds
      obtain ⟨-, hheard⟩ := h.present e he
      unfold Heard at hheard
      split at hheard
      · next her => exact (h.shaped.isRegistered?_eq_some_iff _ true).mpr ⟨e, he, rfl, her⟩
      · rw [hheard] at hc
        cases hc
    · by_cases hknown : ∃ c', (c', .accepted t) ∈ replies
      · obtain ⟨c', hc'⟩ := hknown
        rw [h.absent c' t hc' hholds, List.mem_singleton] at hc
        cases hc
      · rw [h.unknown t (not_exists.mp hknown)] at hc
        cases hc

theorem erased_iff (h : Accounted replies deliveries r) (t : AccessToken) :
    ((∃ c, (c, .accepted t) ∈ replies) ∧ ¬ r.registry.Holds t) ↔
      ∃ c, (c, .failed) ∈ pushesFor t deliveries := by
  constructor
  · rintro ⟨⟨c, hc⟩, hgone⟩
    rw [h.absent c t hc hgone]
    exact ⟨c, List.mem_singleton_self _⟩
  · rintro ⟨c, hc⟩
    constructor
    · by_contra hunknown
      rw [h.unknown t (not_exists.mp hunknown)] at hc
      cases hc
    · rintro ⟨e, he, rfl⟩
      obtain ⟨-, hheard⟩ := h.present e he
      unfold Heard at hheard
      split at hheard
      · obtain ⟨n, hpushes⟩ := hheard
        rw [hpushes] at hc
        cases (List.mem_replicate.mp hc).2
      · rw [hheard] at hc
        cases hc

theorem eq_singleton_of_quiet (h : Accounted replies deliveries r)
    {c : ConnectionId} {t : AccessToken} (hreply : (c, .accepted t) ∈ replies)
    (hquiet : pushesFor t deliveries = []) :
    ∃ e, r.registry = ⟨r.registry.registration, [e]⟩ ∧ e.token = t ∧ e.connection = c ∧
      e.registered = false := by
  by_cases hholds : r.registry.Holds t
  · obtain ⟨e, he, rfl⟩ := hholds
    obtain ⟨hown, hheard⟩ := h.present e he
    have hunregistered : e.registered = false := by
      rw [hquiet] at hheard
      unfold Heard at hheard
      split at hheard
      · obtain ⟨n, hpushes⟩ := hheard
        cases hpushes
      · next hr => exact Bool.eq_false_iff.mpr hr
    have htable : r.registry.applications = [e] := by
      have hshaped := h.shaped
      generalize r.registry = registry at he hshaped
      cases hshaped with
      | free => cases he
      | waiting e' _ => rw [List.mem_singleton.mp he]
      | resolved e' => rw [List.mem_singleton.mp he]
    exact ⟨e, by rw [← htable], rfl, h.unique _ _ _ hown hreply, hunregistered⟩
  · rw [h.absent c t hreply hholds] at hquiet
    cases hquiet

/-! From deliveries to runs -/

theorem fire (h : Accounted replies deliveries r) (firing : Firing) :
    Accounted replies (deliveries ++ (firing.delivery? r).toList) (r.fire firing).value := by
  cases hd : firing.delivery? r with
  | none =>
    rw [Registrar.fire_of_no_delivery hd, Option.toList_none, List.append_nil]
    exact h
  | some d =>
    obtain ⟨hregistry, hissued, hmint, -⟩ := Registrar.before_of_delivery? hd
    rw [Registrar.fire_of_delivery? hd]
    exact (h.congr hregistry hissued hmint).deliver

theorem fireAll (h : Accounted replies deliveries r) (firings : List Firing) :
    Accounted replies (deliveries ++ r.deliveries firings) (r.fireAll firings).value := by
  induction firings generalizing deliveries r with
  | nil =>
    rw [Registrar.deliveries, List.append_nil]
    exact h
  | cons firing rest ih =>
    have hrest := ih (h.fire firing)
    rw [List.append_assoc] at hrest
    exact hrest

theorem refuse (h : Accounted replies deliveries r) (connection : ConnectionId) (status : Status) :
    Accounted (replies ++ [(connection, .rejected status)]) deliveries r := by
  have hsame (c : ConnectionId) (t : AccessToken) :
      (c, .accepted t) ∈ replies ++ [(connection, .rejected status)] ↔
        (c, .accepted t) ∈ replies := by
    simp [RegistrationReply.accepted, RegistrationReply.rejected]
  constructor
  · exact h.shaped
  · exact h.distinct
  · intro c t hc
    exact h.minted c t ((hsame c t).mp hc)
  · intro c c' t hc hc'
    exact h.unique c c' t ((hsame c t).mp hc) ((hsame c' t).mp hc')
  · intro e he
    obtain ⟨hreply, hheard⟩ := h.present e he
    exact ⟨(hsame _ _).mpr hreply, hheard⟩
  · intro c t hc
    exact h.absent c t ((hsame c t).mp hc)
  · intro t hnone
    exact h.unknown t fun c hc => hnone c ((hsame c t).mpr hc)
  · exact h.erasing

theorem takeUp {e : Application} (h : Accounted replies deliveries r)
    (hfree : r.registry = ⟨.idle, []⟩) (htoken : e.token = r.nextToken)
    (hunregistered : e.registered = false) :
    Accounted (replies ++ [(e.connection, .accepted e.token)]) deliveries (r.takeUp e) := by
  have hregistry : (r.takeUp e).registry = ⟨.pending e.token, [e]⟩ := by
    rw [Registrar.registry_takeUp, hfree]
    rfl
  -- A token that was answered before has a smaller number, and tokens are distinct.
  have hfresh (c : ConnectionId) : (c, .accepted e.token) ∉ replies := by
    intro hc
    obtain ⟨k, hk, hmint⟩ := h.minted c e.token hc
    rw [htoken] at hmint
    have hsame := h.distinct hmint
    omega
  have hmem (c : ConnectionId) (t : AccessToken) :
      (c, .accepted t) ∈ replies ++ [(e.connection, .accepted e.token)] ↔
        (c, .accepted t) ∈ replies ∨ c = e.connection ∧ t = e.token := by
    simp [RegistrationReply.accepted]
  constructor
  · rw [hregistry]
    exact .waiting e hunregistered
  · rw [Registrar.mint_takeUp]
    exact h.distinct
  · intro c t hc
    rw [Registrar.issued_takeUp, Registrar.mint_takeUp]
    obtain hc | ⟨-, rfl⟩ := (hmem c t).mp hc
    · obtain ⟨k, hk, hmint⟩ := h.minted c t hc
      exact ⟨k, by omega, hmint⟩
    · exact ⟨r.issued, by omega, htoken.symm⟩
  · intro c c' t hc hc'
    obtain hc | ⟨rfl, rfl⟩ := (hmem c t).mp hc
    · obtain hc' | ⟨-, rfl⟩ := (hmem c' t).mp hc'
      · exact h.unique c c' t hc hc'
      · exact absurd hc (hfresh c)
    · obtain hc' | ⟨rfl, -⟩ := (hmem c' e.token).mp hc'
      · exact absurd hc' (hfresh c')
      · rfl
  · intro e' he'
    rw [hregistry] at he'
    rw [List.mem_singleton.mp he']
    refine ⟨(hmem _ _).mpr (.inr ⟨rfl, rfl⟩), ?_⟩
    unfold Heard
    rw [hunregistered, if_neg (by decide)]
    exact h.unknown e.token hfresh
  · intro c t hc hgone
    rw [hregistry, Registry.holds_singleton] at hgone
    obtain hc | ⟨-, rfl⟩ := (hmem c t).mp hc
    · apply h.absent c t hc
      rw [hfree]
      exact Registry.not_holds_free t _
    · exact absurd rfl hgone
  · intro t hnone
    exact h.unknown t fun c hc => hnone c ((hmem c t).mpr (.inl hc))
  · exact h.erasing

end Accounted

namespace Broker

variable {α : Type} [Adapter α]

theorem reply_registerDuring (b : Broker α) (connection : ConnectionId) (definition : String)
    (during : List Firing) :
    (b.registerDuring connection definition during).1 =
      match b.registrar.registry.request connection definition b.registrar.nextToken with
      | .error status => .rejected status
      | .ok application => .accepted application.token := by
  cases h : b.registrar.registry.request connection definition b.registrar.nextToken with
  | error status => rw [registerDuring_of_error h]
  | ok application => rw [registerDuring_of_ok h]

theorem accounted_step {b : Broker α} {replies : List (ConnectionId × RegistrationReply)}
    {deliveries : List Delivery} (horderly : Orderly b)
    (h : Accounted replies deliveries b.registrar) (a : Action α) :
    Accounted (replies ++ a.replies b) (deliveries ++ a.deliveries b) (a.step b).registrar := by
  rw [registrar_step horderly]
  cases a with
  | start place =>
    simp only [Action.replies, Action.deliveries, List.append_nil, Action.effect,
      Telling.value_pure]
    split
    · exact h
    · exact h.congr rfl rfl rfl
  | advance i =>
    simp only [Action.replies, Action.deliveries, List.append_nil, Action.effect,
      Telling.value_pure]
    split
    · exact h.congr (Registrar.registry_bind _ _) (Registrar.issued_bind _ _)
        (Registrar.mint_bind _ _)
    · exact h
  | register connection definition during =>
    simp only [Action.replies, Action.deliveries, Action.effect, Telling.value_map,
      reply_registerDuring]
    cases hrequest :
      b.registrar.registry.request connection definition b.registrar.nextToken with
    | error status =>
      rw [Registrar.registerDuring_of_error hrequest, List.append_nil]
      exact h.refuse connection status
    | ok application =>
      obtain ⟨hfree, rfl, htoken, hunregistered⟩ := Registry.request_eq_ok hrequest
      rw [Registrar.registerDuring_of_ok hrequest]
      exact (h.takeUp hfree htoken hunregistered).fireAll _
  | fire firing =>
    simp only [Action.replies, Action.deliveries, Registrar.deliveries, List.append_nil]
    exact h.fire firing
  | script place complete failure =>
    simp only [Action.replies, Action.deliveries, List.append_nil]
    exact h.congr rfl rfl rfl
  | stop _ | deinit | transport _ _ | blueprint _ | connectionClosed _ | unsupported _ =>
    simp only [Action.replies, Action.deliveries, List.append_nil]
    exact h

theorem accounted_new {mint : Nat → AccessToken} (hmint : Function.Injective mint)
    (gateways : Nat → Gateway Recipient) : Accounted [] [] (Registrar.new gateways mint) where
  shaped := .free
  distinct := hmint
  minted := by simp
  unique := by simp
  present := by simp [Registrar.new, Registry.empty]
  absent := by simp
  unknown := by simp [pushesFor]
  erasing := by simp

/-- The account of a run agrees with the table at its end. -/
theorem accounted_run {mint : Nat → AccessToken} (hmint : Function.Injective mint)
    (gateways : Nat → Gateway Recipient) (blueprint : α) (stopTimeout : Duration)
    (actions : List (Action α)) :
    let fresh := Broker.new blueprint stopTimeout (Registrar.new gateways mint)
    Accounted (fresh.trace Action.replies actions)
      (fresh.trace Action.deliveries actions) (fresh.run actions).registrar := by
  intro fresh
  induction actions using List.reverseRecOn with
  | nil => exact accounted_new hmint gateways
  | append_singleton first a ih =>
    rw [trace_concat, trace_concat, run_concat]
    exact accounted_step ((orderly_new blueprint stopTimeout _).run first) ih a

end Broker
end ResourceBroker
