import ResourceBroker.Proofs.Broker.FirstStart
import ResourceBroker.Proofs.Broker.Tries
import ResourceBroker.Proofs.Broker.Verdict
import ResourceBroker.Proofs.Underway

/-!
A broker over loopback gateways, which complete every update after a delay. Restarts bind the broker at
this or at another gateway, but an update that is underway has its recipient already, so no restart
comes between an application and its completion. Since nothing fails there, the first registration that
is accepted is the only one.
-/

namespace ResourceBroker

def acceptances (replies : List (ConnectionId × RegistrationReply)) :
    List (ConnectionId × AccessToken) :=
  replies.filterMap fun reply =>
    (if reply.2.status = .success then reply.2.token else none).map (reply.1, ·)

theorem mem_acceptances {replies : List (ConnectionId × RegistrationReply)} {c : ConnectionId}
    {t : AccessToken} : (c, t) ∈ acceptances replies ↔ (c, .accepted t) ∈ replies := by
  unfold acceptances
  rw [List.mem_filterMap]
  constructor
  · rintro ⟨⟨c', status, token⟩, hreply, hsome⟩
    obtain ⟨t', htoken, hpair⟩ := Option.map_eq_some_iff.mp hsome
    obtain ⟨rfl, rfl⟩ := Prod.mk.inj hpair
    split at htoken
    · next hsuccess =>
      obtain rfl : status = .success := hsuccess
      obtain rfl : token = some t' := htoken
      exact hreply
    · cases htoken
  · intro hreply
    exact ⟨_, hreply, rfl⟩

theorem acceptances_append (first rest : List (ConnectionId × RegistrationReply)) :
    acceptances (first ++ rest) = acceptances first ++ acceptances rest :=
  List.filterMap_append

/-- How far a registration has come over loopback gateways, and what there is to show for it: nobody
has been accepted, one was and waits for its completion, or was completed. -/
inductive Course (replies : List (ConnectionId × RegistrationReply)) (deliveries : List Delivery)
    (r : Registrar) : Prop where
  | vacant (registry : r.registry = ⟨.idle, []⟩) (awaits : r.Awaits Registrar.nobody)
      (accepted : acceptances replies = []) (delivered : deliveries = [])
  | waiting (e : Application) (place : Nat) (unregistered : e.registered = false)
      (registry : r.registry = ⟨.pending e.token, [e]⟩)
      (awaits : r.Awaits (Registrar.only place (.application e.token)))
      (accepted : acceptances replies = [(e.connection, e.token)]) (delivered : deliveries = [])
  | completed (e : Application) (d : Delivery) (registered : e.registered = true)
      (registry : r.registry = ⟨.idle, [e]⟩) (awaits : r.Awaits Registrar.nobody)
      (accepted : acceptances replies = [(e.connection, e.token)]) (delivered : deliveries = [d])
      (recipient : d.recipient = .application e.token) (outcome : d.outcome = .completed)
      (pushes : d.pushes = [(e.connection, .success)])

namespace Course

variable {replies : List (ConnectionId × RegistrationReply)} {deliveries : List Delivery}
  {r r' : Registrar}

theorem congr (h : Course replies deliveries r) (hregistry : r'.registry = r.registry)
    (hawaits : ∀ waiting, r.Awaits waiting → r'.Awaits waiting) : Course replies deliveries r' := by
  cases h with
  | vacant registry awaits accepted delivered =>
    exact .vacant (hregistry.trans registry) (hawaits _ awaits) accepted delivered
  | waiting e place unregistered registry awaits accepted delivered =>
    exact .waiting e place unregistered (hregistry.trans registry) (hawaits _ awaits) accepted
      delivered
  | completed e d registered registry awaits accepted delivered recipient outcome pushes =>
    exact .completed e d registered (hregistry.trans registry) (hawaits _ awaits) accepted delivered
      recipient outcome pushes

theorem fire (h : Course replies deliveries r) (place index : Nat) :
    Course replies (deliveries ++ ((Firing.underway place index).delivery? r).toList)
      (r.fire (.underway place index)).value := by
  have hstay (hnone : (Firing.underway place index).delivery? r = none) :
      Course replies (deliveries ++ ((Firing.underway place index).delivery? r).toList)
        (r.fire (.underway place index)).value := by
    rw [Registrar.fire_of_no_delivery hnone, hnone, Option.toList_none, List.append_nil]
    exact h
  cases h with
  | vacant registry awaits accepted delivered => exact hstay (awaits.delivery?_nobody place index)
  | completed e d registered registry awaits accepted delivered recipient outcome pushes =>
    exact hstay (awaits.delivery?_nobody place index)
  | waiting e own unregistered registry awaits accepted delivered =>
    obtain hnone | ⟨rfl, rfl⟩ := awaits.delivery?_only place index
    · exact hstay hnone
    · obtain ⟨before, hd, hbefore⟩ := awaits.delivery?_self
      obtain ⟨hregistry, -⟩ := Registrar.before_of_delivery? hd
      have hhear : before.registry.hear (.application e.token) .completed =
          ⟨⟨.idle, [e.markRegistered]⟩, [(e.connection, .success)]⟩ := by
        rw [hregistry, registry]
        exact Registry.hear_own unregistered _ _
      rw [Registrar.fire_of_delivery? hd, hd, delivered]
      refine .completed e.markRegistered _ rfl ?_ (hbefore.deliver _ _) accepted rfl rfl rfl ?_
      · exact (Registrar.registry_deliver ..).trans (congrArg Telling.value hhear)
      · exact (Registrar.pushes_deliver ..).trans (congrArg Telling.pushes hhear)

theorem fireAll (h : Course replies deliveries r) {firings : List Firing}
    (hunderway : ∀ firing ∈ firings, ∃ place index, firing = .underway place index) :
    Course replies (deliveries ++ r.deliveries firings) (r.fireAll firings).value := by
  induction firings generalizing deliveries r with
  | nil =>
    rw [Registrar.deliveries, List.append_nil]
    exact h
  | cons firing rest ih =>
    obtain ⟨place, index, rfl⟩ := hunderway firing List.mem_cons_self
    have hrest := ih (h.fire place index) fun f hf => hunderway f (List.mem_cons_of_mem _ hf)
    rw [List.append_assoc] at hrest
    exact hrest

theorem refuse (h : Course replies deliveries r) (connection : ConnectionId) (status : Status) :
    Course (replies ++ [(connection, .rejected status)]) deliveries r := by
  have hsame : acceptances (replies ++ [(connection, .rejected status)]) = acceptances replies := by
    rw [acceptances_append]
    simp [acceptances, RegistrationReply.rejected]
  cases h with
  | vacant registry awaits accepted delivered =>
    exact .vacant registry awaits (hsame.trans accepted) delivered
  | waiting e place unregistered registry awaits accepted delivered =>
    exact .waiting e place unregistered registry awaits (hsame.trans accepted) delivered
  | completed e d registered registry awaits accepted delivered recipient outcome pushes =>
    exact .completed e d registered registry awaits (hsame.trans accepted) delivered recipient
      outcome pushes

theorem reportedOnTrigger (h : Course replies deliveries r) : r.reportedOnTrigger = [] := by
  cases h with
  | vacant registry awaits => exact awaits.reportedOnTrigger
  | waiting e place unregistered registry awaits => exact awaits.reportedOnTrigger
  | completed e d registered registry awaits => exact awaits.reportedOnTrigger

theorem takeUp (h : Course replies deliveries r) {e : Application} {place : Nat}
    (hattached : r.attached = some place) (hfree : r.registry = ⟨.idle, []⟩)
    (hunregistered : e.registered = false) :
    Course (replies ++ [(e.connection, .accepted e.token)]) deliveries (r.takeUp e) := by
  cases h with
  | vacant registry awaits accepted delivered =>
    refine .waiting e place hunregistered ?_ (awaits.takeUp hattached e) ?_ delivered
    · rw [Registrar.registry_takeUp, hfree]
      rfl
    · rw [acceptances_append, accepted]
      rfl
  | waiting e' place' unregistered registry =>
    rw [hfree] at registry
    cases registry
  | completed e' d registered registry =>
    rw [hfree] at registry
    cases registry

theorem length_acceptances_le_one (h : Course replies deliveries r) :
    (acceptances replies).length ≤ 1 := by
  cases h with
  | vacant registry awaits accepted => rw [accepted]; exact Nat.zero_le 1
  | waiting e place unregistered registry awaits accepted => rw [accepted]; exact Nat.le_refl 1
  | completed e d registered registry awaits accepted => rw [accepted]; exact Nat.le_refl 1

theorem pending_iff (h : Course replies deliveries r) (t : AccessToken) :
    r.registry.registration = .pending t ↔
      (∃ c, (c, .accepted t) ∈ replies) ∧ ∀ d ∈ deliveries, d.recipient ≠ .application t := by
  simp only [← mem_acceptances]
  cases h with
  | vacant registry awaits accepted delivered => simp [registry, accepted]
  | waiting e place unregistered registry awaits accepted delivered =>
    simp [registry, accepted, delivered, eq_comm]
  | completed e d registered registry awaits accepted delivered recipient =>
    simp [registry, accepted, delivered, recipient, eq_comm]

theorem deliveries_eq_nil (h : Course replies deliveries r)
    (hnone : ∀ c t, (c, .accepted t) ∉ replies) : deliveries = [] := by
  simp only [← mem_acceptances] at hnone
  cases h with
  | vacant registry awaits accepted delivered => exact delivered
  | waiting e place unregistered registry awaits accepted delivered => exact delivered
  | completed e d registered registry awaits accepted =>
    rw [accepted] at hnone
    exact absurd (List.mem_singleton_self _) (hnone _ _)

theorem failed_not_mem (h : Course replies deliveries r) (c : ConnectionId) :
    (c, .failed) ∉ deliveries.flatMap Delivery.pushes := by
  cases h with
  | vacant registry awaits accepted delivered => simp [delivered]
  | waiting e place unregistered registry awaits accepted delivered => simp [delivered]
  | completed e d registered registry awaits accepted delivered recipient outcome pushes =>
    simp [delivered, pushes]

end Course

/-- The broker is called through an adapter that it has built, and the gateways run nothing but the
completions of updates that are underway. -/
def Action.OverLoopback {α : Type} (b : Broker α) : Action α → Prop
  | .register _ _ during =>
    b.adapters ≠ [] ∧ ∀ firing ∈ during, ∃ place index, firing = .underway place index
  | .fire firing => ∃ place index, firing = .underway place index
  | _ => True

namespace Broker

variable {α : Type} [Adapter α]

theorem course_step {b : Broker α} {replies : List (ConnectionId × RegistrationReply)}
    {deliveries : List Delivery} (horderly : Orderly b) (hfirst : b.AttachedFirst)
    (h : Course replies deliveries b.registrar) {a : Action α} (ha : a.OverLoopback b) :
    Course (replies ++ a.replies b) (deliveries ++ a.deliveries b) (a.step b).registrar := by
  rw [registrar_step horderly]
  cases a with
  | start place =>
    simp only [Action.replies, Action.deliveries, List.append_nil, Action.effect,
      Telling.value_pure]
    split
    · exact h
    · exact h.congr rfl fun _ hawaits => hawaits.attach place
  | advance i =>
    simp only [Action.replies, Action.deliveries, List.append_nil, Action.effect,
      Telling.value_pure]
    split
    · exact h.congr (Registrar.registry_bind _ _) fun _ hawaits => hawaits.bind _
    · exact h
  | register connection definition during =>
    obtain ⟨hbuilt, hduring⟩ := ha
    obtain ⟨place, hattached⟩ := hfirst.attached_of_built hbuilt
    simp only [Action.replies, Action.deliveries, Action.effect, Telling.value_map,
      reply_registerDuring]
    cases hrequest :
      b.registrar.registry.request connection definition b.registrar.nextToken with
    | error status =>
      rw [Registrar.registerDuring_of_error hrequest, List.append_nil]
      exact h.refuse connection status
    | ok application =>
      obtain ⟨hfree, rfl, -, hunregistered⟩ := Registry.request_eq_ok hrequest
      rw [Registrar.registerDuring_of_ok hrequest, h.reportedOnTrigger]
      exact (h.takeUp hattached hfree hunregistered).fireAll hduring
  | fire firing =>
    obtain ⟨place, index, rfl⟩ := ha
    simp only [Action.replies, Action.deliveries, Registrar.deliveries, List.append_nil]
    exact h.fire place index
  | script place complete failure =>
    simp only [Action.replies, Action.deliveries, List.append_nil]
    exact h.congr rfl fun _ hawaits => hawaits.script place complete failure
  | stop _ | deinit | transport _ _ | blueprint _ | connectionClosed _ | unsupported _ =>
    simp only [Action.replies, Action.deliveries, List.append_nil]
    exact h

theorem course_run {gateways : Nat → Gateway Recipient} (hgateways : ∀ place, gateways place = .loopback)
    (mint : Nat → AccessToken) (blueprint : α) (stopTimeout : Duration)
    {actions : List (Action α)} :
    let fresh := Broker.new blueprint stopTimeout (Registrar.new gateways mint)
    fresh.Throughout Action.OverLoopback actions →
      Course (fresh.trace Action.replies actions) (fresh.trace Action.deliveries actions)
        (fresh.run actions).registrar := by
  intro fresh hactions
  have horderly : fresh.Orderly := orderly_new blueprint stopTimeout _
  have hfirst : fresh.AttachedFirst := attachedFirst_new blueprint stopTimeout _
  induction actions using List.reverseRecOn with
  | nil =>
    refine .vacant rfl ⟨fun place => ?_, fun place => ?_⟩ rfl rfl
    · change (gateways place).kind = .loopback
      rw [hgateways]
      rfl
    · change (gateways place).underway = []
      rw [hgateways]
      rfl
  | append_singleton first a ih =>
    obtain ⟨hbefore, ha⟩ := throughout_concat.mp hactions
    rw [trace_concat, trace_concat, run_concat]
    exact course_step (horderly.run first) (hfirst.run horderly first) (ih hbefore) ha

/-- The broker after a run in which the request of `c` was answered with the token `t`, as long as
the update is underway. -/
structure AwaitsCompletion (fresh : Broker α) (actions : List (Action α)) (t : AccessToken) :
    Prop where
  pending : (fresh.run actions).registrar.registry.registration = .pending t
  unregistered : (fresh.run actions).registrar.registry.isRegistered? t = some false
  delivered : fresh.trace Action.deliveries actions = []
  attempts : fresh.trace Action.attempts actions = []
  refused : ∀ connection definition during,
    ((fresh.run actions).registerDuring connection definition during).1 =
      .rejected .registrationInProgress

structure Completed (fresh : Broker α) (actions : List (Action α)) (c : ConnectionId)
    (t : AccessToken) : Prop where
  idle : (fresh.run actions).registrar.registry.registration = .idle
  registered : (fresh.run actions).registrar.registry.isRegistered? t = some true
  delivered : ∃ d, fresh.trace Action.deliveries actions = [d] ∧ d.recipient = .application t ∧
    d.outcome = .completed
  attempts : fresh.trace Action.attempts actions = [(c, .success)]
  quiet : ∀ place, ((fresh.run actions).registrar.gateways place).underway = []
  refused : ∀ connection definition during,
    ((fresh.run actions).registerDuring connection definition during).1 =
      .rejected .alreadyRegistered

theorem awaitsCompletion_or_completed {fresh : Broker α} {actions : List (Action α)}
    {c : ConnectionId} {t : AccessToken}
    (h : Course (fresh.trace Action.replies actions) (fresh.trace Action.deliveries actions)
      (fresh.run actions).registrar)
    (hreply : (c, .accepted t) ∈ fresh.trace Action.replies actions) :
    (AwaitsCompletion fresh actions t ∧
      ∃ place, (fresh.run actions).registrar.Awaits (Registrar.only place (.application t))) ∨
    Completed fresh actions c t := by
  have haccepted := mem_acceptances.mpr hreply
  have hattempts := trace_attempts fresh actions
  cases h with
  | vacant registry awaits accepted =>
    rw [accepted] at haccepted
    cases haccepted
  | waiting e place unregistered registry awaits accepted delivered =>
    rw [accepted, List.mem_singleton] at haccepted
    obtain ⟨rfl, rfl⟩ := Prod.mk.inj haccepted
    refine .inl ⟨⟨?_, ?_, delivered, ?_, ?_⟩, place, awaits⟩
    · rw [registry]
    · rw [registry, Registry.isRegistered?_singleton, if_pos rfl, unregistered]
    · rw [hattempts, delivered]
      rfl
    · intro connection definition during
      rw [reply_registerDuring, registry, Registry.request_waiting]
  | completed e d registered registry awaits accepted delivered recipient outcome pushes =>
    rw [accepted, List.mem_singleton] at haccepted
    obtain ⟨rfl, rfl⟩ := Prod.mk.inj haccepted
    refine .inr ⟨?_, ?_, ⟨d, delivered, recipient, outcome⟩, ?_, awaits.underway, ?_⟩
    · rw [registry]
    · rw [registry, Registry.isRegistered?_singleton, if_pos rfl, registered]
    · rw [hattempts, delivered]
      simpa using pushes
    · intro connection definition during
      rw [reply_registerDuring, registry, Registry.request_occupied]

/-- What a run over loopback gateways comes to: one registration at most, and one completion of it
that nothing prevents. -/
structure CompletesOnce (fresh : Broker α) (actions : List (Action α)) : Prop where
  single : (acceptances (fresh.trace Action.replies actions)).length ≤ 1
  pending_iff : ∀ t, (fresh.run actions).registrar.registry.registration = .pending t ↔
    (∃ c, (c, .accepted t) ∈ fresh.trace Action.replies actions) ∧
      ∀ d ∈ fresh.trace Action.deliveries actions, d.recipient ≠ .application t
  accepted : ∀ c t, (c, .accepted t) ∈ fresh.trace Action.replies actions →
    AwaitsCompletion fresh actions t ∨ Completed fresh actions c t
  /-- The completion is underway at one gateway and at no other, and has its effect when it runs. -/
  underway : ∀ c t, (c, .accepted t) ∈ fresh.trace Action.replies actions →
    AwaitsCompletion fresh actions t →
      ∃ place, (∀ other, ((fresh.run actions).registrar.gateways other).underway =
          if other = place then [.application t] else []) ∧
        Completed fresh (actions ++ [.fire (.underway place 0)]) c t
  unaccepted : (∀ c t, (c, .accepted t) ∉ fresh.trace Action.replies actions) →
    fresh.trace Action.deliveries actions = [] ∧ fresh.trace Action.attempts actions = []
  failed : ∀ c, (c, .failed) ∉ fresh.trace Action.attempts actions
  /-- Attempts are calls of the adapter that is in use at the time, and there are no other ones. -/
  reached : fresh.Throughout Action.Reaches actions
  tried : ((fresh.trace Action.tries actions).map Try.push).Sublist
    (fresh.trace Action.attempts actions)

theorem CompletesOnce.of_course {fresh : Broker α} {actions : List (Action α)}
    (h : Course (fresh.trace Action.replies actions) (fresh.trace Action.deliveries actions)
      (fresh.run actions).registrar)
    (hnext : ∀ place, Course
      (fresh.trace Action.replies (actions ++ [.fire (.underway place 0)]))
      (fresh.trace Action.deliveries (actions ++ [.fire (.underway place 0)]))
      (fresh.run (actions ++ [.fire (.underway place 0)])).registrar) :
    CompletesOnce fresh actions := by
  have hattempts := trace_attempts fresh actions
  constructor
  · exact h.length_acceptances_le_one
  · exact h.pending_iff
  · intro c t hreply
    obtain ⟨hawaits, -⟩ | hcompleted := awaitsCompletion_or_completed h hreply
    · exact .inl hawaits
    · exact .inr hcompleted
  · intro c t hreply hpending
    obtain ⟨-, place, hawaits⟩ | hcompleted := awaitsCompletion_or_completed h hreply
    · refine ⟨place, hawaits.underway, ?_⟩
      have hreply' : (c, .accepted t) ∈
          fresh.trace Action.replies (actions ++ [.fire (.underway place 0)]) := by
        rw [trace_append]
        exact List.mem_append_left _ hreply
      obtain ⟨hstill, -⟩ | hcompleted := awaitsCompletion_or_completed (hnext place) hreply'
      · -- The completion was delivered, so it is not awaited any more.
        obtain ⟨before, hd, -⟩ := hawaits.delivery?_self
        have hdelivered := hstill.delivered
        simp [trace_concat, Action.deliveries, Registrar.deliveries, hd] at hdelivered
      · exact hcompleted
    · have hidle := hcompleted.idle.symm.trans hpending.pending
      cases hidle
  · intro hnone
    have hdelivered := h.deliveries_eq_nil hnone
    rw [hattempts, hdelivered]
    exact ⟨rfl, rfl⟩
  · intro c
    rw [hattempts]
    exact h.failed_not_mem c
  · exact throughout_reaches actions fresh
  · exact sublist_tries actions fresh

theorem completes_once {gateways : Nat → Gateway Recipient}
    (hgateways : ∀ place, gateways place = .loopback) (mint : Nat → AccessToken) (blueprint : α)
    (stopTimeout : Duration) (actions : List (Action α)) :
    let fresh := Broker.new blueprint stopTimeout (Registrar.new gateways mint)
    fresh.Throughout Action.OverLoopback actions → CompletesOnce fresh actions := by
  intro fresh hactions
  have hcourse := course_run hgateways mint blueprint stopTimeout hactions
  have hcompletion (place : Nat) :
      (Action.fire (.underway place 0)).OverLoopback (fresh.run actions) := ⟨place, 0, rfl⟩
  have hnext (place : Nat) := course_run hgateways mint blueprint stopTimeout
    (throughout_concat.mpr ⟨hactions, hcompletion place⟩)
  exact .of_course hcourse hnext

theorem completes_once_sample :
    let fresh : Broker ScriptedAdapter :=
      .new (.new .none) (.ofMilliseconds 5000) (.new (fun _ => .loopback) .unary)
    let actions : List (Action ScriptedAdapter) :=
      [.start 0, .advance .none, .advance .none, .register ⟨1⟩ sampleDefinition [], .stop .none,
        .start 1, .advance .none, .advance .none, .fire (.underway 0 0)]
    (∀ place : Nat, (fun _ => Gateway.loopback : Nat → Gateway Recipient) place = .loopback) ∧
      fresh.Throughout Action.OverLoopback actions ∧
      (⟨1⟩, .accepted (.unary 0)) ∈ fresh.trace Action.replies actions ∧
      CompletesOnce fresh actions := by
  intro fresh actions
  have hgateways (place : Nat) :
      (fun _ => Gateway.loopback : Nat → Gateway Recipient) place = .loopback := rfl
  have hreply : (⟨1⟩, .accepted (.unary 0)) ∈ fresh.trace Action.replies actions := by
    decide +kernel
  have hbuilt : (fresh.run (actions.take 3)).adapters ≠ [] := by decide +kernel
  have hactions : fresh.Throughout Action.OverLoopback actions :=
    ⟨trivial, trivial, trivial, ⟨hbuilt, nofun⟩, trivial, trivial, trivial, trivial, ⟨0, 0, rfl⟩,
      trivial⟩
  clear_value actions
  exact ⟨hgateways, hactions, hreply, completes_once hgateways .unary _ _ actions hactions⟩

end Broker
end ResourceBroker
