import ResourceBroker.Proofs.Broker.Adapters
import ResourceBroker.Proofs.Broker.Admission
import ResourceBroker.Proofs.Slot

/-!
A broker that was started with success, observed through its answers, its table, and what its adapter
delivers. As long as it is not stopped and the gateway runs only what is bound, nothing tells it from
the machine with one slot.
-/

namespace ResourceBroker

def Input.action {α : Type} (place : Nat) : Input → Action α
  | .register connection definition => .register connection definition []
  | .complete => .fire (.bound place .completed)
  | .fail error => .fire (.bound place (.failed error))
  | .script completes failure => .script place completes failure

/-- A record of the statuses that an adapter delivers while it is able to. -/
structure DeliveryLog (α : Type) [Adapter α] where
  delivered : α → List Push
  able : α → Prop
  delivered_push : ∀ a, able a → ∀ p : Push,
    delivered (Adapter.push p.1 p.2 a).1 = delivered a ++ [p]
  able_push : ∀ a, able a → ∀ p : Push, able (Adapter.push p.1 p.2 a).1

def ScriptedAdapter.log : DeliveryLog ScriptedAdapter where
  delivered := ScriptedAdapter.updates
  able a := a.faults.updates = false
  delivered_push := by
    intro a hable p
    change (ScriptedAdapter.push p.1 p.2 a).1.updates = _
    unfold ScriptedAdapter.push
    rw [hable]
    rfl
  able_push := by
    intro a hable p
    change (ScriptedAdapter.push p.1 p.2 a).1.faults.updates = false
    unfold ScriptedAdapter.push
    rw [hable]
    exact hable

namespace DeliveryLog

variable {α : Type} [Adapter α]

structure Serves (log : DeliveryLog α) (place : Nat) (sent : List Push) (b : Broker α) : Prop where
  held : b.held = some place
  adapter : ∃ a, b.adapters[place]? = some a ∧ log.able a ∧ log.delivered a = sent

variable {log : DeliveryLog α} {place : Nat} {sent : List Push} {b : Broker α}

theorem Serves.push (h : log.Serves place sent b) (p : Push) :
    log.Serves place (sent ++ [p]) (b.push p) := by
  obtain ⟨a, ha, hable, hsent⟩ := h.adapter
  have hplace : place < b.adapters.length := (List.getElem?_eq_some_iff.mp ha).1
  rw [Broker.push_of_getElem? h.held ha]
  refine ⟨h.held, (Adapter.push p.1 p.2 a).1, ?_, log.able_push a hable p, ?_⟩
  · exact List.getElem?_set_self hplace
  · rw [log.delivered_push a hable p, hsent]

theorem Serves.tell (h : log.Serves place sent b) (told : Telling Registrar) :
    log.Serves place (sent ++ told.pushes) (b.tell told) := by
  have hfold (pushes : List Push) {sent : List Push} {b : Broker α}
      (h : log.Serves place sent b) :
      log.Serves place (sent ++ pushes) (pushes.foldl Broker.push b) := by
    induction pushes generalizing sent b with
    | nil => rwa [List.append_nil]
    | cons p rest ih =>
      have hrest := ih (h.push p)
      rwa [List.append_assoc] at hrest
  exact hfold told.pushes ⟨h.held, h.adapter⟩

end DeliveryLog

namespace Machine

variable {α : Type} [Adapter α]

/-- One input does the same to the broker as to the machine. -/
structure Mirrors (log : DeliveryLog α) (gateway adapter : Nat) (m : Machine)
    (replies : List (ConnectionId × RegistrationReply)) (b : Broker α) : Prop where
  follows : m.Follows gateway b.registrar
  replies : m.replies = replies
  serves : log.Serves adapter m.delivered b

variable {log : DeliveryLog α} {gateway adapter : Nat} {m : Machine} {b : Broker α}
  {replies : List (ConnectionId × RegistrationReply)}

theorem Mirrors.step (h : m.Mirrors log gateway adapter replies b) (input : Input) :
    (m.step input).Mirrors log gateway adapter
      (replies ++ (input.action (α := α) gateway).replies b) ((input.action gateway).step b) := by
  obtain ⟨hfollows, rfl, hserves⟩ := h
  have hheard (outcome : Outcome) :
      (m.hear outcome).Mirrors log gateway adapter (m.replies ++ [])
        ((Action.fire (.bound gateway outcome)).step b) := by
    obtain ⟨hnext, hdelivered⟩ := hfollows.hear outcome
    refine ⟨?_, (List.append_nil _).symm, ?_⟩
    · rw [Action.step, Broker.registrar_tell]
      exact hnext
    · rw [hdelivered]
      exact hserves.tell _
  cases input with
  | register connection definition =>
    obtain ⟨hnext, hreplies, hdelivered⟩ := hfollows.register connection definition
    rw [Input.action, Broker.step_register]
    refine ⟨?_, hreplies, ?_⟩
    · rw [Broker.registrar_tell]
      exact hnext
    · have htold := hserves.tell ((Action.register connection definition []).effect b)
      rw [Action.effect, Telling.pushes_map, ← hdelivered] at htold
      exact htold
  | complete => exact hheard .completed
  | fail error => exact hheard (.failed error)
  | script completes failure =>
    obtain ⟨recipient, hreports, hstands⟩ := hfollows.slot
    refine ⟨⟨hfollows.attached, ?_, hfollows.mint, hfollows.issued, recipient, ?_, hstands⟩,
      (List.append_nil _).symm, hserves.held, hserves.adapter⟩
    · change ((b.registrar.modifyGateway gateway (·.script completes failure)).gateways gateway).kind = _
      rw [Registrar.gateways_modifyGateway, if_pos rfl, Gateway.kind_script hreports.scripted]
      rfl
    · exact hreports.script gateway completes failure

theorem Mirrors.run (h : m.Mirrors log gateway adapter replies b) (inputs : List Input) :
    (m.run inputs).Mirrors log gateway adapter
      (replies ++ b.trace Action.replies (inputs.map (Input.action gateway)))
      (b.run (inputs.map (Input.action gateway))) := by
  induction inputs generalizing m b replies with
  | nil =>
    change m.Mirrors log gateway adapter (replies ++ []) b
    rwa [List.append_nil]
  | cons input rest ih =>
    have hrest := ih (h.step input)
    rw [List.append_assoc] at hrest
    exact hrest

end Machine

namespace Broker

variable {α : Type} [Adapter α]

/-! A start -/

/-- How far a worker has come that was started over this registrar. It is in its event loop only
after the outcomes of the gateway have become the broker's own. -/
def Startup (r : Registrar) (b : Broker α) : Prop :=
  match b.worker with
  | .starting | .built _ => b.registrar = r ∧ b.held = none
  | .looping place => b.registrar = r.bind .broker ∧ b.held = some place
  | .absent | .returned _ | .finished _ | .panicked => True

theorem Startup.initAdapter {r : Registrar} {b : Broker α} (hregistrar : b.registrar = r)
    (place : Nat) : Startup r (b.initAdapter place) := by
  unfold Broker.initAdapter
  obtain ⟨adapters, result, hinit⟩ := call_frame b place Adapter.init
  rw [hinit]
  cases result with
  | error e => exact True.intro
  | ok _ =>
    dsimp only
    unfold enterLoop
    dsimp only
    obtain ⟨entered, result, henter⟩ := call_frame
      { b with
        adapters := adapters
        held := some place
        registrar := b.registrar.bind .broker
        phase := .running } place Adapter.enter
    rw [henter]
    cases result with
    | error e => exact True.intro
    | ok _ => exact ⟨congrArg (Registrar.bind .broker) hregistrar, rfl⟩

theorem Startup.advance {r : Registrar} {b : Broker α} (h : Startup r b) :
    Startup r b.advance := by
  unfold Startup at h
  unfold Broker.advance
  cases hw : b.worker with
  | starting =>
    rw [hw] at h
    obtain ⟨hregistrar, hheld⟩ := h
    have hbuild : b.build =
        { b with adapters := b.adapters ++ [b.blueprint], worker := .built b.adapters.length } := by
      rw [Broker.build, hheld]
    simp only [hbuild]
    exact ⟨hregistrar, hheld⟩
  | built place =>
    rw [hw] at h
    exact .initAdapter h.1 place
  | looping place =>
    obtain hleave | ⟨adapters, reason, hleave⟩ := leaveLoop_frame b place
    · simp only [hleave, Startup, hw]
      rwa [hw] at h
    · simp only [hleave, Startup]
  | returned result =>
    obtain ⟨adapters, failure, report, hconclude⟩ := conclude_frame b result
    simp only [hconclude, Startup]
  | absent | finished _ | panicked => simp only [Startup, hw]

theorem Startup.advanceUnder (i : Interference) {r : Registrar} {b : Broker α}
    (h : Startup r b) : Startup r (b.advanceUnder i) := by
  unfold Broker.advanceUnder
  split
  · split
    · exact h
    · exact h.advance
  · split
    · exact h
    · split
      · exact True.intro
      · exact h.advance
  · exact h.advance

def started (b : Broker α) (place : Nat) (worker : List Interference) : Broker α :=
  b.run (.start place :: worker.map .advance)

theorem startup_started (blueprint : α) (stopTimeout : Duration) (r : Registrar) (place : Nat)
    (worker : List Interference) :
    Startup (r.attach place) ((Broker.new blueprint stopTimeout r).started place worker) := by
  have hworker {b : Broker α} (h : Startup (r.attach place) b) :
      Startup (r.attach place) (b.run (worker.map .advance)) := by
    induction worker generalizing b with
    | nil => exact h
    | cons i rest ih => exact ih (h.advanceUnder i)
  exact hworker ⟨rfl, rfl⟩

/-! The broker seen from outside -/

def observation (log : DeliveryLog α) (actions : List (Action α)) (b : Broker α) : Observation where
  replies := b.trace Action.replies actions
  registration := (b.run actions).registrar.registry.registration
  applications := (b.run actions).registrar.registry.applications.length
  isRegistered? token := (b.run actions).registrar.registry.isRegistered? token
  delivered :=
    match (b.run actions).held.bind ((b.run actions).adapters[·]?) with
    | some a => log.delivered a
    | none => []

theorem observation_of_mirrors {log : DeliveryLog α} {gateway adapter : Nat} {m : Machine}
    {b : Broker α} {actions : List (Action α)}
    (h : m.Mirrors log gateway adapter (b.trace Action.replies actions) (b.run actions)) :
    b.observation log actions = m.observation := by
  obtain ⟨recipient, -, hstands⟩ := h.follows.slot
  obtain ⟨a, ha, -, hdelivered⟩ := h.serves.adapter
  have hadapter : (b.run actions).held.bind ((b.run actions).adapters[·]?) = some a := by
    rw [h.serves.held]
    exact ha
  unfold observation Machine.observation
  rw [hadapter, h.replies, hstands.registration_eq, hstands.applications_eq]
  simp only [hstands.isRegistered?_eq, hdelivered]

omit [Adapter α] in
theorem follows_initial {b : Broker α} {mint : Nat → AccessToken}
    {gateways : Nat → Gateway Recipient} {place adapter : Nat} {complete : Bool}
    {failure : Option CloudClientError}
    (hscripted : (gateways place).kind = .scripted complete failure)
    (h : Startup ((Registrar.new gateways mint).attach place) b)
    (hlooping : b.worker = .looping adapter) (delivered : List Push) :
    b.held = some adapter ∧
      (Machine.initial mint complete failure delivered).Follows place b.registrar := by
  unfold Startup at h
  rw [hlooping] at h
  obtain ⟨hregistrar, hheld⟩ := h
  refine ⟨hheld, ?_⟩
  rw [hregistrar]
  have hreports : (((Registrar.new gateways mint).attach place).bind .broker).ReportsTo place
      (some .broker) := by
    constructor
    · rw [Registrar.kind_bind]
      intro hkind
      cases hscripted.symm.trans hkind
    · intro outcome
      rw [Registrar.gateways_bind rfl, Gateway.handler?_bind]
  refine ⟨?_, ?_, ?_, ?_, .broker, hreports, ?_⟩
  · rw [Registrar.attached_bind]
    rfl
  · rw [Registrar.kind_bind]
    exact hscripted
  · rw [Registrar.mint_bind]
    rfl
  · rw [Registrar.issued_bind]
    rfl
  · rw [Registrar.registry_bind]
    exact .free _

/-- No sequence of inputs tells a broker that was started with success from the machine, and no token
is answered twice. -/
theorem observation_eq (log : DeliveryLog α) (mint : Nat → AccessToken)
    (gateways : Nat → Gateway Recipient) (place : Nat) {complete : Bool}
    {failure : Option CloudClientError}
    (hscripted : (gateways place).kind = .scripted complete failure) (blueprint : α)
    (stopTimeout : Duration) (worker : List Interference) (adapter : Nat) (a : α) :
    let b := (Broker.new blueprint stopTimeout (Registrar.new gateways mint)).started place worker
    b.worker = .looping adapter → b.adapters[adapter]? = some a → log.able a →
    ∀ inputs : List Input,
      let m := (Machine.initial mint complete failure (log.delivered a)).run inputs
      b.observation log (inputs.map (Input.action place)) = m.observation ∧
        (Function.Injective mint → (tokens m.observation.replies).Nodup) := by
  intro b hlooping hadapter hable inputs m
  have hstartup := startup_started blueprint stopTimeout (Registrar.new gateways mint) place worker
  obtain ⟨hheld, hfollows⟩ := follows_initial hscripted hstartup hlooping (log.delivered a)
  have hmirrors : (Machine.initial mint complete failure (log.delivered a)).Mirrors log place
      adapter [] b :=
    ⟨hfollows, rfl, hheld, a, hadapter, hable, rfl⟩
  have hconsecutive : (Machine.initial mint complete failure (log.delivered a)).Consecutive mint :=
    ⟨rfl, rfl⟩
  exact ⟨observation_of_mirrors (hmirrors.run inputs), (hconsecutive.run inputs).nodup⟩

theorem observation_eq_sample :
    let a : ScriptedAdapter := ⟨.none, true, true, none, 1, 0, [], []⟩
    let inputs : List Input :=
      [.register ⟨1⟩ sampleDefinition, .register ⟨2⟩ sampleDefinition, .fail .timeout, .complete,
        .script true none, .register ⟨2⟩ sampleDefinition, .fail .timeout]
    let m := (Machine.initial .unary false none []).run inputs
    (sample.started 0 [.none, .none]).worker = .looping 0 ∧
      (sample.started 0 [.none, .none]).adapters[0]? = some a ∧
      ScriptedAdapter.log.able a ∧
      m.delivered = [(⟨1⟩, .failed), (⟨2⟩, .success)] ∧
      (sample.started 0 [.none, .none]).observation ScriptedAdapter.log
        (inputs.map (Input.action 0)) = m.observation ∧
      (tokens m.observation.replies).Nodup := by
  intro a inputs m
  have hequal := observation_eq ScriptedAdapter.log AccessToken.unary (fun _ => .scripted)
    0 rfl (.new .none) (.ofMilliseconds 5000) [.none, .none] 0 a rfl rfl rfl inputs
  exact ⟨rfl, rfl, rfl, by decide +kernel, hequal.1, hequal.2 AccessToken.unary_injective⟩

end Broker
end ResourceBroker
