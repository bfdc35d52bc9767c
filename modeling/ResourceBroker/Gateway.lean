import ResourceBroker.Error.Cloud
import ResourceBroker.Resource.Basic

/-!
The way to the cloud. A gateway queues resource objects, starts registration updates, and reports
their outcomes to the handlers bound at it; binding a handler replaces the one before. A handler is
a value here, of a type that the owner of the gateway chooses and interprets.

A scripted gateway reports when it is told to, also from inside a trigger. A loopback gateway reports
every update as completed after a delay, to the handler that was bound when the update began.
-/

namespace ResourceBroker

inductive Outcome where
  | completed
  | failed (error : CloudClientError)
deriving DecidableEq, Repr

inductive GatewayKind where
  | scripted (completeOnTrigger : Bool) (failOnTrigger : Option CloudClientError)
  | loopback
deriving DecidableEq, Repr

/-- `updateBindings` and `failureBindings` are the handlers ever bound, the latest last; `underway`
are the handlers of updates whose delay is not over. -/
structure Gateway (H : Type) where
  kind : GatewayKind
  updateBindings : List H
  failureBindings : List H
  objects : List ResourceObject
  triggers : Nat
  underway : List H

namespace Gateway

variable {H : Type}

def scripted : Gateway H := ⟨.scripted false none, [], [], [], 0, []⟩

def loopback : Gateway H := ⟨.loopback, [], [], [], 0, []⟩

def isLoopback (g : Gateway H) : Bool := g.kind = .loopback

def onUpdate (handler : H) (g : Gateway H) : Gateway H :=
  { g with updateBindings := g.updateBindings ++ [handler] }

def onFailure (handler : H) (g : Gateway H) : Gateway H :=
  { g with failureBindings := g.failureBindings ++ [handler] }

def bind (handler : H) (g : Gateway H) : Gateway H := (g.onUpdate handler).onFailure handler

def handler? (g : Gateway H) : Outcome → Option H
  | .completed => g.updateBindings.getLast?
  | .failed _ => g.failureBindings.getLast?

def hasHandlers (g : Gateway H) : Bool :=
  g.updateBindings.getLast?.isSome && g.failureBindings.getLast?.isSome

def reported? (g : Gateway H) (outcome : Outcome) : Option H :=
  if g.isLoopback then none else g.handler? outcome

def addObjects (objects : List ResourceObject) (g : Gateway H) : Gateway H :=
  { g with objects := g.objects ++ objects }

/-- Starts an update, and tells which outcomes the gateway reports before it returns. A loopback
gateway takes the queued objects along, and forgets an update that nobody waits for. -/
def trigger (g : Gateway H) : Gateway H × List Outcome :=
  match g.kind with
  | .scripted complete failure =>
    ({ g with triggers := g.triggers + 1 },
      (if complete then [.completed] else []) ++ (failure.map .failed).toList)
  | .loopback =>
    ({ g with
        triggers := g.triggers + 1
        objects := []
        underway := g.underway ++ g.updateBindings.getLast?.toList }, [])

def script (complete : Bool) (failure : Option CloudClientError) (g : Gateway H) : Gateway H :=
  match g.kind with
  | .scripted _ _ => { g with kind := .scripted complete failure }
  | .loopback => g

@[simp] theorem handler?_bind (handler : H) (g : Gateway H) (outcome : Outcome) :
    (g.bind handler).handler? outcome = some handler := by
  cases outcome <;> simp [bind, onUpdate, onFailure, handler?]

end Gateway
end ResourceBroker
