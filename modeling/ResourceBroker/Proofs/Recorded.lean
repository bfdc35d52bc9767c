import ResourceBroker.Adapter.Basic

/-!
Adapters that are watched. The calls that initialise and release an adapter are recorded with their
results beside it, and whatever the adapter goes through by itself leaves the record alone.
-/

namespace ResourceBroker

structure Record where
  inits : List (Except IpcError Unit)
  deinits : List (Except IpcError Unit)

namespace Record

def empty : Record := ⟨[], []⟩

/-- One call has failed to initialise the adapter, or one has not and the adapter was released once,
however that went. -/
def Closed (r : Record) : Prop :=
  (∃ e, r = ⟨[.error e], []⟩) ∨ ∃ released, r = ⟨[.ok ()], [released]⟩

theorem Closed.length_inits {r : Record} (h : r.Closed) : r.inits.length = 1 := by
  obtain ⟨e, rfl⟩ | ⟨released, rfl⟩ := h <;> rfl

end Record

structure Recorded (α : Type) where
  adapter : α
  record : Record

namespace Recorded

variable {α : Type}

def change (f : α → α) (a : Recorded α) : Recorded α := { a with adapter := f a.adapter }

variable [Adapter α]

def init (a : Recorded α) : Recorded α × Except IpcError Unit :=
  let (adapter, result) := Adapter.init a.adapter
  (⟨adapter, { a.record with inits := a.record.inits ++ [result] }⟩, result)

def deinit (a : Recorded α) : Recorded α × Except IpcError Unit :=
  let (adapter, result) := Adapter.deinit a.adapter
  (⟨adapter, { a.record with deinits := a.record.deinits ++ [result] }⟩, result)

def unrecorded (op : α → α × Except IpcError Unit) (a : Recorded α) :
    Recorded α × Except IpcError Unit :=
  let (adapter, result) := op a.adapter
  ({ a with adapter := adapter }, result)

instance : Adapter (Recorded α) where
  init := init
  deinit := deinit
  enter := unrecorded Adapter.enter
  leave? a := (Adapter.leave? a.adapter).map fun left => ({ a with adapter := left.1 }, left.2)
  stop reason := unrecorded (Adapter.stop reason)
  push connection status := unrecorded (Adapter.push connection status)

theorem record_init (a : Recorded α) :
    (Adapter.init a).1.record =
      { a.record with inits := a.record.inits ++ [(Adapter.init a).2] } := rfl

theorem record_deinit (a : Recorded α) :
    (Adapter.deinit a).1.record =
      { a.record with deinits := a.record.deinits ++ [(Adapter.deinit a).2] } := rfl

theorem record_leave? {a left : Recorded α} {reason : StopReason}
    (h : Adapter.leave? a = some (left, reason)) : left.record = a.record := by
  obtain ⟨_, -, hleft⟩ := Option.map_eq_some_iff.mp h
  obtain ⟨rfl, -⟩ := Prod.mk.inj hleft
  rfl

end Recorded
end ResourceBroker
