import ResourceBroker.Gateway
import ResourceBroker.Registry
import ResourceBroker.RequestHandler.Basic

/-!
Who decides about registrations: the registry, the gateways that it may be attached to, and the
supply of access tokens. Requests come in from applications and outcomes from a gateway; both may
tell something to applications.
-/

namespace ResourceBroker

inductive Recipient where
  | broker
  | application (token : AccessToken)
deriving DecidableEq, Repr

/-- `mint` gives the tokens in the order in which they are handed out. -/
structure Registrar where
  gateways : Nat → Gateway Recipient
  attached : Option Nat
  registry : Registry
  mint : Nat → AccessToken
  issued : Nat

namespace Registrar

def new (gateways : Nat → Gateway Recipient) (mint : Nat → AccessToken) : Registrar :=
  ⟨gateways, none, .empty, mint, 0⟩

def nextToken (r : Registrar) : AccessToken := r.mint r.issued

/-- Replaces the gateway in use. Registrations stay. -/
def attach (place : Nat) (r : Registrar) : Registrar := { r with attached := some place }

def modifyGateway (place : Nat) (change : Gateway Recipient → Gateway Recipient) (r : Registrar) :
    Registrar :=
  let changed := change (r.gateways place)
  { r with gateways := fun i => if i = place then changed else r.gateways i }

def bind (recipient : Recipient) (r : Registrar) : Registrar :=
  match r.attached with
  | some place => r.modifyGateway place (·.bind recipient)
  | none => r

/-- Hands an outcome to a recipient that was bound for it. Once an application has been told of a
completed update, outcomes are the broker's own again. -/
def deliver (recipient : Recipient) (outcome : Outcome) (r : Registrar) : Telling Registrar :=
  match recipient, outcome with
  | .broker, _ => pure { r with registry := r.registry.finish }
  | .application token, .completed => do
    let registry ← r.registry.complete token
    pure (bind .broker { r with registry := registry })
  | .application token, .failed _ => do
    let registry ← r.registry.fail token
    pure { r with registry := registry }

def report (place : Nat) (outcome : Outcome) (r : Registrar) : Telling Registrar :=
  match (r.gateways place).reported? outcome with
  | some recipient => r.deliver recipient outcome
  | none => pure r

/-- Starts an update. What the gateway reports at once goes to whoever is bound at that moment. -/
def trigger (place : Nat) (r : Registrar) : Telling Registrar :=
  let (gateway, outcomes) := (r.gateways place).trigger
  outcomes.foldlM (fun r outcome => r.report place outcome) (r.modifyGateway place fun _ => gateway)

def completeUnderway (place : Nat) (r : Registrar) : Telling Registrar :=
  (r.gateways place).underway.foldlM (fun r recipient => r.deliver recipient .completed)
    (r.modifyGateway place fun g => { g with underway := [] })

/-- Takes up an application. It is bound for the outcomes before the gateway sees its objects. -/
def enroll (application : Application) (r : Registrar) : Telling Registrar :=
  let bound := r.bind (.application application.token)
  let r := { bound with registry := bound.registry.insert application, issued := bound.issued + 1 }
  match r.attached with
  | some place => (r.modifyGateway place (·.addObjects application.objects)).trigger place
  | none => pure r

def register (connection : ConnectionId) (definition : String) :
    StateT Registrar Telling RegistrationReply := fun r =>
  match r.registry.request connection definition r.nextToken with
  | .error status => pure (.rejected status, r)
  | .ok application => do
    pure (.accepted application.token, ← r.enroll application)

def requestHandler : TellingHandler Registrar := .registering register

end Registrar
end ResourceBroker
