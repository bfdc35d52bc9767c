import ResourceBroker.Proofs.Broker.Admission
import ResourceBroker.Proofs.Stage

/-!
Restarts with a registration underway. A worker that takes its adapter into use binds the broker at
the gateway without a look at the registration that waits. That registration is then past resolving:
the next outcome only ends the wait. This is the one way in which flag and table come apart, and what
has come apart stays so.
-/

namespace ResourceBroker

variable {α : Type} [Adapter α]

/-- The broker uses one gateway, which runs nothing but what is bound at it. -/
def Action.OnGateway (place : Nat) : Action α → Prop
  | .start other => other = place
  | .register _ _ during => ∀ firing ∈ during, ∃ outcome, firing = .bound place outcome
  | .fire firing => ∃ outcome, firing = .bound place outcome
  | _ => True

namespace Stage

inductive Step (place : Nat) (b : Broker α) : Stage → Action α → Stage → Prop where
  | stay {stage : Stage} {a : Action α} : Step place b stage a stage
  | takeOver {stage : Stage} (i : Interference) (taken : b.takesOver i = true) :
      Step place b stage (.advance i) stage.takeOver
  | hear {stage : Stage} (outcome : Outcome) :
      Step place b stage (.fire (.bound place outcome)) (stage.hear outcome)
  | takeUp {a : Action α} {after : Stage} (sound : after.Sound) : Step place b .free a after

namespace Step

variable {place : Nat} {b : Broker α} {stage after : Stage} {a : Action α}

theorem of_stranded (h : Step place b .stranded a after) : after = .stranded := by
  cases h <;> rfl

theorem of_superseded {token : AccessToken} (h : Step place b (.superseded token) a after) :
    after = .superseded token ∨ after = .stranded := by
  cases h with
  | stay => exact .inl rfl
  | takeOver => exact .inl rfl
  | hear => exact .inr rfl

theorem to_superseded {token : AccessToken} (h : Step place b stage a after)
    (hafter : after = .superseded token) :
    stage = .superseded token ∨
      ∃ i, a = .advance i ∧ b.takesOver i = true ∧ stage.pendingToken? = some token := by
  cases h with
  | stay => exact .inl hafter
  | takeOver i taken =>
    refine .inr ⟨i, rfl, taken, ?_⟩
    cases stage <;> cases hafter <;> rfl
  | hear outcome =>
    cases stage with
    | awaited own => cases outcome <;> cases hafter
    | superseded own => cases hafter
    | free | unheard _ | registered | stranded => exact .inl hafter
  | takeUp sound =>
    rw [hafter] at sound
    exact sound.elim

theorem to_stranded (h : Step place b stage a after) (hafter : after = .stranded) :
    stage = .stranded ∨
      ∃ token outcome, stage = .superseded token ∧ a = .fire (.bound place outcome) := by
  cases h with
  | stay => exact .inl hafter
  | takeOver i taken =>
    left
    cases stage <;> cases hafter
    rfl
  | hear outcome =>
    cases stage with
    | awaited own => cases outcome <;> cases hafter
    | superseded own => exact .inr ⟨own, outcome, rfl, rfl⟩
    | free | unheard _ | registered | stranded => exact .inl hafter
  | takeUp sound =>
    rw [hafter] at sound
    exact sound.elim

end Step

theorem At.step {place : Nat} {stage : Stage} {b : Broker α} (h : stage.At place b.registrar)
    (horderly : b.Orderly) {a : Action α} (ha : a.OnGateway place) :
    ∃ after : Stage, after.At place (a.step b).registrar ∧ Step place b stage a after := by
  rw [Broker.registrar_step horderly]
  cases a with
  | start other =>
    obtain rfl : other = place := ha
    refine ⟨stage, ?_, .stay⟩
    rw [Action.effect, Telling.value_pure]
    split
    · exact h
    · exact h.attach
  | advance i =>
    rw [Action.effect, Telling.value_pure]
    cases htaken : b.takesOver i with
    | true => exact ⟨stage.takeOver, h.takeOver (horderly.attached_of_takesOver htaken),
        .takeOver i htaken⟩
    | false => exact ⟨stage, h, .stay⟩
  | register connection definition during =>
    rw [Action.effect, Telling.value_map]
    cases hrequest :
      b.registrar.registry.request connection definition b.registrar.nextToken with
    | error status =>
      rw [Registrar.registerDuring_of_error hrequest]
      exact ⟨stage, h, .stay⟩
    | ok application =>
      obtain ⟨hfree, -, -, hunregistered⟩ := Registry.request_eq_ok hrequest
      obtain rfl : stage = .free := by
        obtain ⟨bound, -, hstands, -⟩ := h
        rw [hfree] at hstands
        exact hstands.eq_free
      obtain ⟨taken, hsound, htaken⟩ := h.takeUp hunregistered
      rw [Registrar.registerDuring_of_ok hrequest]
      have hbound : ∀ firing ∈ b.registrar.reportedOnTrigger ++ during,
          ∃ outcome, firing = .bound place outcome := by
        intro firing hfiring
        obtain hfiring | hfiring := List.mem_append.mp hfiring
        · exact h.reportedOnTrigger hfiring
        · exact ha firing hfiring
      obtain ⟨after, hafter, hat⟩ := htaken.fireAll hsound hbound
      exact ⟨after, hat, .takeUp hafter⟩
  | fire firing =>
    obtain ⟨outcome, rfl⟩ := ha
    exact ⟨stage.hear outcome, h.fire outcome, .hear outcome⟩
  | script other complete failure => exact ⟨stage, h.script other complete failure, .stay⟩
  | stop _ | deinit | transport _ _ | blueprint _ | connectionClosed _ | unsupported _ =>
    exact ⟨stage, h, .stay⟩

theorem At.overtake {place : Nat} {stage : Stage} {b : Broker α} (h : stage.At place b.registrar)
    (horderly : b.Orderly) {token : AccessToken} {i : Interference}
    (hpending : b.registrar.registry.registration = .pending token)
    (htaken : b.takesOver i = true) :
    (Stage.superseded token).At place (b.advanceUnder i).registrar := by
  have hover := h.takeOver (horderly.attached_of_takesOver htaken)
  obtain ⟨bound, -, hstands, -⟩ := h
  have htoken := (hstands.pending_iff token).mp hpending
  have hstep : stage.takeOver = .superseded token := by
    cases stage <;> cases htoken <;> rfl
  rw [Broker.registrar_advanceUnder, if_pos htaken, ← hstep]
  exact hover

theorem At.run_of_stranded {place : Nat} {b : Broker α} (h : Stage.stranded.At place b.registrar)
    (horderly : b.Orderly) {actions : List (Action α)} (hactions : ∀ a ∈ actions, a.OnGateway place) :
    Stage.stranded.At place (b.run actions).registrar := by
  induction actions generalizing b with
  | nil => exact h
  | cons a rest ih =>
    obtain ⟨after, hafter, hstep⟩ := h.step horderly (hactions a List.mem_cons_self)
    rw [hstep.of_stranded] at hafter
    exact ih hafter (horderly.step a) fun a' ha' => hactions a' (List.mem_cons_of_mem a ha')

theorem At.run_of_superseded {place : Nat} {token : AccessToken} {b : Broker α}
    (h : (Stage.superseded token).At place b.registrar) (horderly : b.Orderly)
    {actions : List (Action α)} (hactions : ∀ a ∈ actions, a.OnGateway place) :
    (Stage.superseded token).At place (b.run actions).registrar ∨
      Stage.stranded.At place (b.run actions).registrar := by
  induction actions generalizing b with
  | nil => exact .inl h
  | cons a rest ih =>
    obtain ⟨after, hafter, hstep⟩ := h.step horderly (hactions a List.mem_cons_self)
    have hrest : ∀ a' ∈ rest, a'.OnGateway place := fun a' ha' =>
      hactions a' (List.mem_cons_of_mem a ha')
    obtain rfl | rfl := hstep.of_superseded
    · exact ih hafter (horderly.step a) hrest
    · exact .inr (hafter.run_of_stranded (horderly.step a) hrest)

end Stage

namespace Broker

/-- The registration of that token was waiting when a worker took its adapter into use. -/
def Overtaken (fresh : Broker α) (token : AccessToken) (actions : List (Action α)) : Prop :=
  ∃ before i between, actions = before ++ .advance i :: between ∧
    (fresh.run before).registrar.registry.registration = .pending token ∧
    (fresh.run before).takesOver i = true

/-- An outcome was reported to a registration that was overtaken and had been waiting since. -/
def MissesVerdict (fresh : Broker α) (place : Nat) (actions : List (Action α)) : Prop :=
  ∃ earlier outcome later token, actions = earlier ++ .fire (.bound place outcome) :: later ∧
    (fresh.run earlier).registrar.registry.registration = .pending token ∧
    fresh.Overtaken token earlier

variable {fresh : Broker α} {place : Nat} {actions : List (Action α)}

theorem Overtaken.concat {token : AccessToken} (h : fresh.Overtaken token actions) (a : Action α) :
    fresh.Overtaken token (actions ++ [a]) := by
  obtain ⟨before, i, between, rfl, hpending, htaken⟩ := h
  exact ⟨before, i, between ++ [a], by simp, hpending, htaken⟩

theorem MissesVerdict.concat (h : fresh.MissesVerdict place actions) (a : Action α) :
    fresh.MissesVerdict place (actions ++ [a]) := by
  obtain ⟨earlier, outcome, later, token, rfl, hpending, hovertaken⟩ := h
  exact ⟨earlier, outcome, later ++ [a], token, by simp, hpending, hovertaken⟩

theorem stage_run (hfresh : Stage.free.At place fresh.registrar) (horderly : fresh.Orderly)
    (hactions : ∀ a ∈ actions, a.OnGateway place) :
    ∃ stage : Stage, stage.At place (fresh.run actions).registrar ∧
      (∀ token, stage = .superseded token → fresh.Overtaken token actions) ∧
      (stage = .stranded → fresh.MissesVerdict place actions) := by
  -- From the end: either the last action led to the stage, or it found the broker there.
  induction actions using List.reverseRecOn with
  | nil => exact ⟨.free, hfresh, nofun, nofun⟩
  | append_singleton first a ih =>
    obtain ⟨stage, hstage, hsuperseded, hstranded⟩ := ih fun a' ha' =>
      hactions a' (List.mem_append_left _ ha')
    obtain ⟨after, hafter, hstep⟩ := hstage.step (horderly.run first)
      (hactions a (List.mem_append_right _ (List.mem_singleton_self a)))
    have hpending (token : AccessToken) (h : stage.pendingToken? = some token) :
        (fresh.run first).registrar.registry.registration = .pending token := by
      obtain ⟨bound, -, hstands, -⟩ := hstage
      exact (hstands.pending_iff token).mpr h
    refine ⟨after, by rwa [run_concat], fun token hsame => ?_, fun hsame => ?_⟩
    · obtain hbefore | ⟨i, rfl, htaken, htoken⟩ := hstep.to_superseded hsame
      · exact (hsuperseded token hbefore).concat a
      · exact ⟨first, i, [], rfl, hpending token htoken, htaken⟩
    · obtain hbefore | ⟨token, outcome, hbefore, rfl⟩ := hstep.to_stranded hsame
      · exact (hstranded hbefore).concat a
      · refine ⟨first, outcome, [], token, rfl, hpending token ?_, hsuperseded token hbefore⟩
        rw [hbefore]
        rfl

theorem stranded_of_missesVerdict (hfresh : Stage.free.At place fresh.registrar)
    (horderly : fresh.Orderly) (hactions : ∀ a ∈ actions, a.OnGateway place)
    (h : fresh.MissesVerdict place actions) :
    Stage.stranded.At place (fresh.run actions).registrar := by
  obtain ⟨earlier, outcome, later, token, rfl, hstill, before, i, between, rfl, hpending, htaken⟩ := h
  have hmem {a : Action α} (ha : a ∈ before ∨ a ∈ between ∨ a ∈ later) : a.OnGateway place := by
    apply hactions
    simp only [List.mem_append, List.mem_cons]
    tauto
  obtain ⟨stage, hstage, -, -⟩ := stage_run hfresh horderly fun a ha => hmem (.inl ha)
  have hsuperseded : (Stage.superseded token).At place
      (fresh.run (before ++ [.advance i])).registrar := by
    rw [run_concat]
    exact hstage.overtake (horderly.run before) hpending htaken
  have hwaiting : (Stage.superseded token).At place
      (fresh.run (before ++ .advance i :: between)).registrar := by
    have horder := horderly.run (before ++ [.advance i])
    have hsplit : before ++ .advance i :: between = (before ++ [.advance i]) ++ between := by simp
    rw [hsplit, run_append] at hstill ⊢
    obtain hwaiting | ⟨bound, -, hstands, -⟩ :=
      hsuperseded.run_of_superseded horder fun a ha => hmem (.inr (.inl ha))
    · exact hwaiting
    · cases (hstands.pending_iff token).mp hstill
  have hfired : Stage.stranded.At place
      (fresh.run (before ++ .advance i :: between ++ [.fire (.bound place outcome)])).registrar := by
    rw [run_concat, Action.step, registrar_tell]
    exact hwaiting.fire outcome
  have horder := horderly.run (before ++ .advance i :: between ++ [.fire (.bound place outcome)])
  have hsplit : before ++ .advance i :: between ++ .fire (.bound place outcome) :: later =
      (before ++ .advance i :: between ++ [.fire (.bound place outcome)]) ++ later := by simp
  rw [hsplit, run_append]
  exact hfired.run_of_stranded horder fun a ha => hmem (.inr (.inr ha))

omit [Adapter α] in
theorem stage_new (gateways : Nat → Gateway Recipient) {place : Nat}
    (hgateway : gateways place = .scripted) (mint : Nat → AccessToken) (blueprint : α)
    (stopTimeout : Duration) :
    Stage.free.At place
      (Broker.new blueprint stopTimeout (Registrar.new gateways mint)).registrar := by
  refine ⟨none, ⟨?_, ?_⟩, .free none, .inr ⟨rfl, rfl⟩⟩
  · change (gateways place).kind ≠ .loopback
    rw [hgateway]
    intro hkind
    cases hkind
  · intro outcome
    change (gateways place).handler? outcome = none
    rw [hgateway]
    cases outcome <;> rfl

omit [Adapter α] in
theorem not_agrees_of_stranded {b : Broker α} (h : Stage.stranded.At place b.registrar) :
    ¬ b.registrar.registry.Agrees := by
  obtain ⟨bound, -, hstands, -⟩ := h
  rw [hstands.agrees_iff]
  exact not_not_intro rfl

theorem reply_of_stranded {b : Broker α} (h : Stage.stranded.At place b.registrar)
    (connection : ConnectionId) (definition : String) (during : List Firing) :
    (b.registerDuring connection definition during).1 = .rejected .alreadyRegistered := by
  obtain ⟨bound, -, hstands, -⟩ := h
  rw [reply_registerDuring]
  generalize b.registrar.registry = registry at hstands
  cases hstands with
  | stranded e unregistered => rw [Registry.request_occupied]

/-- Flag and table agree exactly as long as no verdict was missed. Once one was, nothing that happens
at the gateway helps, and no other application gets the place. -/
theorem agrees_iff_not_missesVerdict (gateways : Nat → Gateway Recipient) (place : Nat)
    (hgateway : gateways place = .scripted) (mint : Nat → AccessToken) (blueprint : α)
    (stopTimeout : Duration) (actions : List (Action α))
    (hactions : ∀ a ∈ actions, a.OnGateway place) :
    let fresh := Broker.new blueprint stopTimeout (Registrar.new gateways mint)
    ((fresh.run actions).registrar.registry.Agrees ↔ ¬ fresh.MissesVerdict place actions) ∧
      (fresh.MissesVerdict place actions →
        ∀ later : List (Action α), (∀ a ∈ later, a.OnGateway place) →
          ¬ (fresh.run (actions ++ later)).registrar.registry.Agrees ∧
          ∀ connection definition during,
            ((fresh.run (actions ++ later)).registerDuring connection definition during).1 =
              .rejected .alreadyRegistered) := by
  intro fresh
  have horderly : fresh.Orderly := orderly_new blueprint stopTimeout _
  have hfresh : Stage.free.At place fresh.registrar :=
    stage_new gateways hgateway mint blueprint stopTimeout
  constructor
  · constructor
    · intro hagrees hmissed
      exact not_agrees_of_stranded (stranded_of_missesVerdict hfresh horderly hactions hmissed)
        hagrees
    · intro hnone
      obtain ⟨stage, ⟨bound, -, hstands, -⟩, -, hstranded⟩ := stage_run hfresh horderly hactions
      rw [hstands.agrees_iff]
      exact fun hsame => hnone (hstranded hsame)
  · intro hmissed later hlater
    have hstranded : Stage.stranded.At place (fresh.run (actions ++ later)).registrar := by
      rw [run_append]
      exact (stranded_of_missesVerdict hfresh horderly hactions hmissed).run_of_stranded
        (horderly.run actions) hlater
    exact ⟨not_agrees_of_stranded hstranded, reply_of_stranded hstranded⟩

theorem agrees_sample :
    let actions : List (Action ScriptedAdapter) :=
      [.start 0, .advance .none, .advance .none, .register ⟨1⟩ sampleDefinition [], .stop .none,
        .fire (.bound 0 .completed), .start 0, .advance .none, .advance .none]
    (∀ a ∈ actions, a.OnGateway 0) ∧ (sample.run actions).registrar.registry.Agrees ∧
      ¬ sample.MissesVerdict 0 actions := by
  intro actions
  have hactions : ∀ a ∈ actions, a.OnGateway 0 := by simp [actions, Action.OnGateway]
  have hagrees : (sample.run actions).registrar.registry.Agrees := by decide +kernel
  clear_value actions
  have hexact := agrees_iff_not_missesVerdict (fun _ => .scripted) 0 rfl .unary
    (ScriptedAdapter.new .none) (.ofMilliseconds 5000) actions hactions
  exact ⟨hactions, hagrees, hexact.1.mp hagrees⟩

theorem not_agrees_sample :
    let actions : List (Action ScriptedAdapter) :=
      [.start 0, .advance .none, .advance .none, .register ⟨1⟩ sampleDefinition [], .stop .none,
        .start 0, .advance .none, .advance .none]
    let reported := actions ++ [.fire (.bound 0 .completed)]
    (∀ a ∈ reported, a.OnGateway 0) ∧
      (sample.run actions).registrar.registry.registration = .pending (.unary 0) ∧
      (sample.run reported).registrar.registry.registration = .idle ∧
      (sample.run reported).registrar.registry.isRegistered? (.unary 0) = some false ∧
      ((sample.run reported).registerDuring ⟨2⟩ sampleDefinition []).1 =
        .rejected .alreadyRegistered ∧
      ¬ (sample.run reported).registrar.registry.Agrees := by
  refine ⟨by simp [Action.OnGateway], ?_, ?_, ?_, ?_, ?_⟩ <;> decide +kernel

end Broker
end ResourceBroker
