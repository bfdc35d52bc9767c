import ResourceBroker.Endpoint
import ResourceBroker.Registration
import ResourceBroker.Telling

/-!
The table of applications together with the registration that waits, and what the outcomes of the
cloud do to both. Each outcome also says what is to be told to whom.
-/

namespace ResourceBroker

/-- All endpoints of the broker call back in the same way, so there is nothing to tell apart. -/
abbrev Application := Endpoint Unit

structure Registry where
  registration : Registration
  applications : List Application

namespace Registry

def empty : Registry := ⟨.idle, []⟩

def find? (token : AccessToken) (r : Registry) : Option Application :=
  r.applications.find? fun e => e.token = token

def isRegistered? (token : AccessToken) (r : Registry) : Option Bool :=
  (r.find? token).map (·.registered)

def finish (r : Registry) : Registry := { r with registration := r.registration.finish }

def mark (token : AccessToken) (r : Registry) : Registry :=
  { r with applications := r.applications.map fun e =>
      if e.token = token then e.markRegistered else e }

def erase (token : AccessToken) (r : Registry) : Registry :=
  { r with applications := r.applications.filter fun e => e.token ≠ token }

def insert (e : Application) (r : Registry) : Registry :=
  ⟨.pending e.token, r.applications ++ [e]⟩

/-- The application that a request would add. It is admitted before its definition is looked at. -/
def request (connection : ConnectionId) (definition : String) (token : AccessToken) (r : Registry) :
    Except Status Application := do
  r.registration.check r.applications.length
  match Endpoint.create connection token definition with
  | .ok e => pure (e.setCallbacks ())
  | .error e => throw (.ofError e.toBrokerError)

def complete (token : AccessToken) (r : Registry) : Telling Registry where
  value := (r.mark token).finish
  pushes := match r.find? token with
    | some e => [(e.connection, .success)]
    | none => []

/-- The cloud has failed for the application with that token. One that is registered already stays
so, and the failure ends no wait; any other is erased. -/
def fail (token : AccessToken) (r : Registry) : Telling Registry :=
  match r.find? token with
  | none => pure r.finish
  | some e =>
    if e.registered then pure r
    else ⟨(r.erase token).finish, [(e.connection, .failed)]⟩

end Registry
end ResourceBroker
