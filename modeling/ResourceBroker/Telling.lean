import ResourceBroker.Identity
import ResourceBroker.Status

/-!
Computations that tell statuses to applications as they go. What is told is kept in order beside the
value, and whoever runs the computation sends it.
-/

namespace ResourceBroker

/-- A status for the application behind a connection. -/
abbrev Push := ConnectionId × Status

structure Telling (α : Type) where
  value : α
  pushes : List Push
deriving DecidableEq

namespace Telling

variable {α β : Type}

instance : Monad Telling where
  pure value := ⟨value, []⟩
  bind x f := ⟨(f x.value).value, x.pushes ++ (f x.value).pushes⟩

@[simp] theorem value_pure (x : α) : (pure x : Telling α).value = x := rfl

@[simp] theorem pushes_pure (x : α) : (pure x : Telling α).pushes = [] := rfl

@[simp] theorem value_bind (x : Telling α) (f : α → Telling β) :
    (x >>= f).value = (f x.value).value := rfl

@[simp] theorem pushes_bind (x : Telling α) (f : α → Telling β) :
    (x >>= f).pushes = x.pushes ++ (f x.value).pushes := rfl

@[simp] theorem value_map (f : α → β) (x : Telling α) : (f <$> x).value = f x.value := rfl

@[simp] theorem pushes_map (f : α → β) (x : Telling α) : (f <$> x).pushes = x.pushes :=
  List.append_nil x.pushes

instance : LawfulMonad Telling := LawfulMonad.mk' Telling
  (fun x => by cases x; simp [Functor.map])
  (fun x f => by simp [Bind.bind, Pure.pure])
  (fun x f g => by simp [Bind.bind])

end Telling
end ResourceBroker
