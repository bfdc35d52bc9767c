import ResourceBroker.Identity
import ResourceBroker.Resource.Basic
import ResourceBroker.Timestamp

/-!
Messages between applications and the broker: requests with their commands, responses, and the
events that the broker sends unasked.
-/

namespace ResourceBroker

def apiVersion : UInt32 := 1

inductive Command where
  | register (definition : String)
  | deregister (token : AccessToken)
  | addInstances (token : AccessToken) (path : String) (ids : List UInt16)
  | removeInstances (token : AccessToken) (path : String) (ids : List UInt16)
  | setValues (token : AccessToken) (operations : List ValueOperation)
  | getValues (token : AccessToken) (operations : List ValueOperation)
  | ping
deriving DecidableEq

def Command.name : Command → String
  | .register _ => "RegisterResources"
  | .deregister _ => "DeregisterResources"
  | .addInstances .. => "AddResourceInstances"
  | .removeInstances .. => "RemoveResourceInstances"
  | .setValues .. => "SetResourcesValues"
  | .getValues .. => "GetResourcesValues"
  | .ping => "Ping"

structure Request where
  id : UInt64
  version : UInt32
  command : Command
deriving DecidableEq

def Request.new (id : UInt64) (command : Command) : Request := ⟨id, apiVersion, command⟩

inductive Payload where
  | registered (token : AccessToken)
  | completed
  | values (operations : List ValueOperation)
  | pong
deriving DecidableEq

structure ErrorInfo where
  code : Status
  message : String
deriving DecidableEq

def ErrorInfo.ofStatus (status : Status) : ErrorInfo := ⟨status, status.readable⟩

inductive Reply where
  | ok (payload : Payload)
  | error (info : ErrorInfo)
deriving DecidableEq

structure Response where
  id : UInt64
  version : UInt32
  result : Reply
deriving DecidableEq

namespace Response

def success (id : UInt64) (payload : Payload) : Response := ⟨id, apiVersion, .ok payload⟩

def failure (id : UInt64) (error : ErrorInfo) : Response := ⟨id, apiVersion, .error error⟩

/-- A successful status carries the payload; any other becomes an error with its own sentence. -/
def ofStatus (id : UInt64) (status : Status) (payload : Payload) : Response :=
  if status.isError then failure id (.ofStatus status) else success id payload

def status (response : Response) : Status :=
  match response.result with
  | .ok _ => .success
  | .error info => info.code

end Response

inductive Notice where
  | registrationUpdated (status : Status)
deriving DecidableEq

structure Event where
  version : UInt32
  timestamp : Timestamp
  notice : Notice
deriving DecidableEq

def Event.new (timestamp : Timestamp) (notice : Notice) : Event := ⟨apiVersion, timestamp, notice⟩

def Event.status (event : Event) : Status :=
  match event.notice with
  | .registrationUpdated status => status

inductive Outbound where
  | response (response : Response)
  | event (event : Event)
deriving DecidableEq

end ResourceBroker
