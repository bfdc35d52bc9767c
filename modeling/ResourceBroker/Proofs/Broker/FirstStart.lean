import ResourceBroker.Proofs.Broker.Action
import ResourceBroker.Proofs.Broker.Adapters

/-!
The broker before its first start. Nothing has happened to it but that requests and outcomes may have
come to its registrar. Applications call through adapters, so whoever does call finds a gateway.
-/

namespace ResourceBroker

namespace Broker

variable {α : Type}

/-- The broker before its first start has built no adapter, so that nobody can call. -/
structure Untouched (b : Broker α) : Prop where
  worker : b.worker = .absent
  held : b.held = none
  adapters : b.adapters = []
  stopTimedOut : b.stopTimedOut = false

variable [Adapter α]

theorem attached_effect {b : Broker α} {a : Action α}
    (h : (a.effect b).value.attached = none) : b.registrar.attached = none := by
  cases a with
  | start place =>
    rw [Action.effect, Telling.value_pure] at h
    split at h
    · exact h
    · cases h
  | advance i =>
    rw [Action.effect, Telling.value_pure] at h
    split at h
    · rwa [Registrar.attached_bind] at h
    · exact h
  | register connection definition during =>
    rwa [Action.effect, Telling.value_map, Registrar.attached_registerDuring] at h
  | fire firing =>
    rwa [Action.effect, (Registrar.fire_frame firing b.registrar).2.2] at h
  | stop _ | deinit | transport _ _ | blueprint _ | script _ _ _ | connectionClosed _
  | unsupported _ => exact h

def AttachedFirst (b : Broker α) : Prop := b.registrar.attached = none → b.Untouched

theorem Untouched.step {b : Broker α} (h : b.Untouched) (a : Action α) :
    (a.step b).Untouched ∨ ∃ place, a = .start place := by
  cases a with
  | start place => exact .inr ⟨place, rfl⟩
  | stop i =>
    left
    rw [Action.step, stop_of_unheld h.held h.stopTimedOut]
    exact h
  | deinit =>
    left
    rw [Action.step, deinit_of_unheld h.held]
    exact h
  | advance i =>
    left
    have hsame : b.advanceUnder i = b := by
      unfold advanceUnder advance
      rw [h.worker]
    rw [Action.step, hsame]
    exact h
  | transport place change =>
    left
    refine ⟨h.worker, h.held, ?_, h.stopTimedOut⟩
    change b.adapters.modify place change = []
    rw [h.adapters]
    exact List.modify_nil ..
  | register connection definition during =>
    left
    rw [step_register, tell_of_unheld h.held]
    exact ⟨h.worker, h.held, h.adapters, h.stopTimedOut⟩
  | fire firing =>
    left
    rw [Action.step, tell_of_unheld h.held]
    exact ⟨h.worker, h.held, h.adapters, h.stopTimedOut⟩
  | unsupported call =>
    left
    simp only [Action.step, unsupported_frame]
    exact h
  | blueprint _ | script _ _ _ | connectionClosed _ =>
    exact .inl ⟨h.worker, h.held, h.adapters, h.stopTimedOut⟩

theorem AttachedFirst.step {b : Broker α} (horderly : Orderly b) (h : b.AttachedFirst)
    (a : Action α) : (a.step b).AttachedFirst := by
  intro hnone
  have hbefore : b.registrar.attached = none := by
    apply attached_effect (a := a)
    rwa [← registrar_step horderly]
  obtain hstep | ⟨place, rfl⟩ := (h hbefore).step a
  · exact hstep
  · have hidle : b.worker.isUnfinished = false := by
      rw [(h hbefore).worker]
      rfl
    simp [registrar_step horderly, Action.effect, hidle, Registrar.attach] at hnone

theorem AttachedFirst.run {b : Broker α} (horderly : Orderly b) (h : b.AttachedFirst)
    (actions : List (Action α)) : (b.run actions).AttachedFirst := by
  induction actions generalizing b with
  | nil => exact h
  | cons a rest ih => exact ih (horderly.step a) (h.step horderly a)

omit [Adapter α] in
theorem attachedFirst_new (blueprint : α) (stopTimeout : Duration) (registrar : Registrar) :
    (Broker.new blueprint stopTimeout registrar).AttachedFirst :=
  fun _ => ⟨rfl, rfl, rfl, rfl⟩

omit [Adapter α] in
theorem AttachedFirst.attached_of_built {b : Broker α} (h : b.AttachedFirst)
    (hbuilt : b.adapters ≠ []) : ∃ place, b.registrar.attached = some place := by
  cases hattached : b.registrar.attached with
  | some place => exact ⟨place, rfl⟩
  | none => exact absurd (h hattached).adapters hbuilt

end Broker
end ResourceBroker
