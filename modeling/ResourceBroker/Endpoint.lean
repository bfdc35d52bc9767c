import ResourceBroker.Definition.Basic
import ResourceBroker.Identity

/-!
One application: its connection, its access token, the objects that it registers, and the callbacks
to use when the cloud has decided about them.
-/

namespace ResourceBroker

/-- The callbacks are a value of a type that the owner interprets. -/
structure Endpoint (C : Type) where
  connection : ConnectionId
  token : AccessToken
  objects : List ResourceObject
  registered : Bool
  callbacks : Option C

namespace Endpoint

variable {C : Type}

def create (connection : ConnectionId) (token : AccessToken) (definition : String) :
    Except DefinitionError (Endpoint C) := do
  let objects ← Definition.parse definition
  pure ⟨connection, token, objects, false, none⟩

/-- There is no way back to an unregistered endpoint. -/
def markRegistered (e : Endpoint C) : Endpoint C := { e with registered := true }

def setCallbacks (callbacks : C) (e : Endpoint C) : Endpoint C :=
  { e with callbacks := some callbacks }

def handlers? (e : Endpoint C) : Option (C × AccessToken) := e.callbacks.map (·, e.token)

def label (e : Endpoint C) : String :=
  "ApplicationEndpoint \x7b connection: ConnectionId(" ++ e.connection.render ++
    "), access_token: AccessToken(" ++ Text.quote e.token.text ++ "), objects: " ++
    toString e.objects.length ++ ", registered: " ++ (if e.registered then "true" else "false") ++
    ", .. \x7d"

end Endpoint
end ResourceBroker
