import ResourceBroker.Message.Basic
import ResourceBroker.Telling

/-!
What the broker does for applications, and how requests are mapped onto it. The monad stands for
whatever state the handler works on.
-/

namespace ResourceBroker

structure RegistrationReply where
  status : Status
  token : Option AccessToken
deriving DecidableEq

namespace RegistrationReply

def accepted (token : AccessToken) : RegistrationReply := ⟨.success, some token⟩

def rejected (status : Status) : RegistrationReply := ⟨status, none⟩

end RegistrationReply

/-- Value operations come back as the handler leaves them. -/
structure RequestHandler (m : Type → Type) where
  register : ConnectionId → String → m RegistrationReply
  deregister : ConnectionId → AccessToken → m Status
  addInstances : ConnectionId → AccessToken → String → List UInt16 → m Status
  removeInstances : ConnectionId → AccessToken → String → List UInt16 → m Status
  setValues : AccessToken → List ValueOperation → m (Status × List ValueOperation)
  getValues : AccessToken → List ValueOperation → m (Status × List ValueOperation)
  connectionClosed : ConnectionId → m Unit

abbrev TellingHandler (σ : Type) := RequestHandler (StateT σ Telling)

namespace RequestHandler

variable {m n : Type → Type}

def lift (run : {β : Type} → m β → n β) (handler : RequestHandler m) : RequestHandler n where
  register connection definition := run (handler.register connection definition)
  deregister connection token := run (handler.deregister connection token)
  addInstances connection token path ids := run (handler.addInstances connection token path ids)
  removeInstances connection token path ids :=
    run (handler.removeInstances connection token path ids)
  setValues token operations := run (handler.setValues token operations)
  getValues token operations := run (handler.getValues token operations)
  connectionClosed connection := run (handler.connectionClosed connection)

variable [Monad m]

def registering (register : ConnectionId → String → m RegistrationReply) : RequestHandler m where
  register := register
  deregister _ _ := pure .notSupported
  addInstances _ _ _ _ := pure .notSupported
  removeInstances _ _ _ _ := pure .notSupported
  setValues _ operations := pure (.notSupported, operations)
  getValues _ operations := pure (.notSupported, operations)
  connectionClosed _ := pure ()

/-- A registration that is accepted must come with a token. -/
def registrationResponse (id : UInt64) (reply : RegistrationReply) : Response :=
  if reply.status.isError then .failure id (.ofStatus reply.status)
  else match reply.token with
    | some token => .success id (.registered token)
    | none => .failure id ⟨.internalError, "Registration accepted without an access token"⟩

def perform (handler : RequestHandler m) (connection : ConnectionId) (id : UInt64) :
    Command → m Response
  | .register definition => do
    pure (registrationResponse id (← handler.register connection definition))
  | .deregister token => do
    pure (.ofStatus id (← handler.deregister connection token) .completed)
  | .addInstances token path ids => do
    pure (.ofStatus id (← handler.addInstances connection token path ids) .completed)
  | .removeInstances token path ids => do
    pure (.ofStatus id (← handler.removeInstances connection token path ids) .completed)
  | .setValues token operations => do
    let (status, _) ← handler.setValues token operations
    pure (.ofStatus id status .completed)
  | .getValues token operations => do
    let (status, operations) ← handler.getValues token operations
    pure (.ofStatus id status (.values operations))
  | .ping => pure (.success id .pong)

def unsupportedVersion (version : UInt32) : ErrorInfo :=
  ⟨.failed, "Unsupported API version " ++ toString version.toNat⟩

/-- Answers a request. One of another version reaches no handler. -/
def dispatch (handler : RequestHandler m) (connection : ConnectionId) (request : Request) :
    m Response :=
  if request.version ≠ apiVersion then
    pure (.failure request.id (unsupportedVersion request.version))
  else handler.perform connection request.id request.command

end RequestHandler

def refuse (request : Request) : Response :=
  .failure request.id (.ofStatus .connectionsExceeded)

end ResourceBroker
