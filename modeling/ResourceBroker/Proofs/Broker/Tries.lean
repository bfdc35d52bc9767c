import ResourceBroker.Proofs.Broker.Action
import ResourceBroker.Proofs.Broker.Adapters

/-!
Where the statuses go that a broker attempts to push. As long as an adapter is in use, each of them is
one call of that adapter, in order, and otherwise none is made.
-/

namespace ResourceBroker

/-- A push that has reached an adapter, and whether the adapter has delivered it. -/
structure Try where
  place : Nat
  push : Push
  delivered : Bool

def Try.request (t : Try) : Nat × Push := (t.place, t.push)

variable {α : Type} [Adapter α]

namespace Broker

def inUse? (b : Broker α) : Option (Nat × α) :=
  b.held.bind fun place => b.adapters[place]?.map (place, ·)

omit [Adapter α] in
theorem inUse?_eq_some_iff {b : Broker α} {place : Nat} {a : α} :
    b.inUse? = some (place, a) ↔ b.held = some place ∧ b.adapters[place]? = some a := by
  simp only [inUse?, Option.bind_eq_some_iff, Option.map_eq_some_iff, Prod.mk.injEq]
  constructor
  · rintro ⟨_, hheld, _, ha, rfl, rfl⟩
    exact ⟨hheld, ha⟩
  · rintro ⟨hheld, ha⟩
    exact ⟨place, hheld, a, ha, rfl, rfl⟩

theorem push_of_inUse?_eq_none {b : Broker α} (h : b.inUse? = none) (p : Push) : b.push p = b := by
  unfold push
  cases hheld : b.held with
  | none => rfl
  | some place =>
    cases ha : b.adapters[place]? with
    | none =>
      unfold call
      dsimp only
      rw [ha]
    | some a => cases (inUse?_eq_some_iff.mpr ⟨hheld, ha⟩).symm.trans h

theorem push_of_inUse?_eq_some {b : Broker α} {place : Nat} {a : α}
    (h : b.inUse? = some (place, a)) (p : Push) :
    b.push p = { b with adapters := b.adapters.set place (Adapter.push p.1 p.2 a).1 } := by
  obtain ⟨hheld, ha⟩ := inUse?_eq_some_iff.mp h
  exact push_of_getElem? hheld ha p

def reach? (p : Push) (b : Broker α) : Option Try :=
  b.inUse?.map fun target => ⟨target.1, p, (Adapter.push p.1 p.2 target.2).2.isOk⟩

def tries : List Push → Broker α → List Try
  | [], _ => []
  | p :: rest, b => (b.reach? p).toList ++ tries rest (b.push p)

omit [Adapter α] in
theorem lt_of_inUse? {b : Broker α} {place : Nat} {a : α} (h : b.inUse? = some (place, a)) :
    place < b.adapters.length :=
  (List.getElem?_eq_some_iff.mp (inUse?_eq_some_iff.mp h).2).1

theorem inUse?_push {b : Broker α} {place : Nat} {a : α} (h : b.inUse? = some (place, a))
    (p : Push) : (b.push p).inUse? = some (place, (Adapter.push p.1 p.2 a).1) := by
  rw [push_of_inUse?_eq_some h, inUse?_eq_some_iff]
  exact ⟨(inUse?_eq_some_iff.mp h).1, List.getElem?_set_self (lt_of_inUse? h)⟩

/-- The adapters after a row of pushes, all of which go to the one in use. -/
def pushed (pushes : List Push) (b : Broker α) : List α :=
  match b.inUse? with
  | some (place, a) => b.adapters.set place (pushes.foldl (fun a p => (Adapter.push p.1 p.2 a).1) a)
  | none => b.adapters

theorem adapters_foldl_push (pushes : List Push) (b : Broker α) :
    (pushes.foldl push b).adapters = b.pushed pushes := by
  unfold pushed
  induction pushes generalizing b with
  | nil =>
    cases h : b.inUse? with
    | none => rfl
    | some target =>
      obtain ⟨place, a⟩ := target
      obtain ⟨hplace, rfl⟩ := List.getElem?_eq_some_iff.mp (inUse?_eq_some_iff.mp h).2
      exact (List.set_getElem_self hplace).symm
  | cons p rest ih =>
    rw [List.foldl_cons, ih]
    cases h : b.inUse? with
    | none => rw [push_of_inUse?_eq_none h, h]
    | some target =>
      rw [inUse?_push h, push_of_inUse?_eq_some h]
      exact List.set_set ..

theorem map_request_tries (pushes : List Push) (b : Broker α) :
    (b.tries pushes).map Try.request = match b.inUse? with
      | some (place, _) => pushes.map (place, ·)
      | none => [] := by
  induction pushes generalizing b with
  | nil => cases b.inUse? <;> rfl
  | cons p rest ih =>
    rw [tries, List.map_append, ih, reach?]
    cases h : b.inUse? with
    | none => rw [push_of_inUse?_eq_none h, h]; rfl
    | some target => rw [inUse?_push h]; rfl

end Broker

namespace Action

def tries (b : Broker α) (a : Action α) : List Try :=
  Broker.tries (a.attempts b) { b with registrar := (a.effect b).value }

/-- What an action attempts to push are calls of the adapter in use, if there is one, and nothing else
happens to adapters in the meantime. -/
structure Reaches (b : Broker α) (a : Action α) : Prop where
  tried : (a.tries b).map Try.request = match b.inUse? with
    | some (place, _) => (a.attempts b).map (place, ·)
    | none => []
  adapters : a.attempts b ≠ [] → (a.step b).adapters = b.pushed (a.attempts b)

theorem reaches (b : Broker α) (a : Action α) : a.Reaches b where
  tried := Broker.map_request_tries _ _
  adapters hattempts := by
    cases a with
    | register connection definition during =>
      rw [Broker.step_register]
      exact Broker.adapters_foldl_push _ _
    | fire firing => exact Broker.adapters_foldl_push _ _
    | _ => exact absurd rfl hattempts

theorem Reaches.sublist {b : Broker α} {a : Action α} (h : a.Reaches b) :
    ((a.tries b).map Try.push).Sublist (a.attempts b) := by
  have hpush : (a.tries b).map Try.push = ((a.tries b).map Try.request).map Prod.snd := by
    rw [List.map_map]
    rfl
  rw [hpush, h.tried]
  cases b.inUse? with
  | none => exact List.nil_sublist _
  | some target => simp [Function.comp_def]

end Action

namespace Broker

theorem throughout_reaches (actions : List (Action α)) (b : Broker α) :
    b.Throughout Action.Reaches actions := by
  induction actions generalizing b with
  | nil => trivial
  | cons a rest ih => exact ⟨a.reaches b, ih (a.step b)⟩

theorem sublist_tries (actions : List (Action α)) (b : Broker α) :
    ((b.trace Action.tries actions).map Try.push).Sublist (b.trace Action.attempts actions) := by
  induction actions generalizing b with
  | nil => exact .slnil
  | cons a rest ih =>
    rw [trace, trace, List.map_append]
    exact (a.reaches b).sublist.append (ih (a.step b))

end Broker
end ResourceBroker
