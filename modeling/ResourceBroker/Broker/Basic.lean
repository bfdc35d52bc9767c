import ResourceBroker.Adapter.Basic
import ResourceBroker.Registrar

/-!
The broker: a registrar, and the adapters through which applications reach it. What the registrar has
to tell goes through the adapter in use.
-/

namespace ResourceBroker

inductive Phase where
  | created
  | started
  | initialized
  | running
  | stopping
  | stopped
deriving DecidableEq, Repr

def Phase.name : Phase → String
  | .created => "Created"
  | .started => "Started"
  | .initialized => "Initialized"
  | .running => "Running"
  | .stopping => "Stopping"
  | .stopped => "Stopped"

/-- The thread that initialises, runs and releases an adapter, named by its place among those built:
about to build one, about to initialise it, inside its event loop, back from it, or done. -/
inductive Worker where
  | absent
  | starting
  | built (adapter : Nat)
  | looping (adapter : Nat)
  | returned (result : Except BrokerError StopReason)
  | finished (result : Except BrokerError Unit)
  | panicked

def Worker.isUnfinished : Worker → Bool
  | .absent | .finished _ | .panicked => false
  | _ => true

/-- `adapters` are those built so far, each from the blueprint, and `held` is the place of the one in
use. A failure to release an adapter is saved for the `stop` that waits for it. -/
structure Broker (α : Type) where
  blueprint : α
  stopTimeout : Duration
  registrar : Registrar
  phase : Phase
  adapters : List α
  held : Option Nat
  worker : Worker
  stopTimedOut : Bool
  deinitFailure : Option BrokerError

namespace Broker

variable {α : Type} [Adapter α]

def new (blueprint : α) (stopTimeout : Duration) (registrar : Registrar) : Broker α where
  blueprint := blueprint
  stopTimeout := stopTimeout
  registrar := registrar
  phase := .created
  adapters := []
  held := none
  worker := .absent
  stopTimedOut := false
  deinitFailure := none

def call {β : Type} (b : Broker α) (place : Nat) (op : α → α × Except IpcError β) :
    Broker α × Except IpcError β :=
  match b.adapters[place]? with
  | some a =>
    let (a, result) := op a
    ({ b with adapters := b.adapters.set place a }, result)
  | none => (b, .error .notInitialized)

/-- Tells an application a status. Without an adapter in use nobody is told, and what becomes of a
push does not matter to the broker. -/
def push (b : Broker α) (p : Push) : Broker α :=
  match b.held with
  | some place => (b.call place (Adapter.push p.1 p.2)).1
  | none => b

def tell (b : Broker α) (told : Telling Registrar) : Broker α :=
  told.pushes.foldl push { b with registrar := told.value }

def perform {β : Type} (step : StateT Registrar Telling β) : StateM (Broker α) β := fun b =>
  let told := step b.registrar
  (told.value.1, b.tell ⟨told.value.2, told.pushes⟩)

def requestHandler : RequestHandler (StateM (Broker α)) := Registrar.requestHandler.lift perform

def register (connection : ConnectionId) (definition : String) :
    StateM (Broker α) RegistrationReply :=
  perform (Registrar.register connection definition)

def deliver (b : Broker α) (recipient : Recipient) (outcome : Outcome) : Broker α :=
  b.tell (b.registrar.deliver recipient outcome)

def report (b : Broker α) (place : Nat) (outcome : Outcome) : Broker α :=
  b.tell (b.registrar.report place outcome)

def completeUnderway (b : Broker α) (place : Nat) : Broker α :=
  b.tell (b.registrar.completeUnderway place)

end Broker
end ResourceBroker
