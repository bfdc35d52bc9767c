import ResourceBroker.Error.Broker
import ResourceBroker.Json.Reader

/-!
The outcome of a request as an application sees it: a name on the wire, a sentence for people and a
numeric code.
-/

namespace ResourceBroker

inductive Status where
  | success
  | failed
  | internalError
  | invalidDefinition
  | registrationInProgress
  | alreadyRegistered
  | invalidAccessToken
  | connectionsExceeded
  | notSupported
deriving DecidableEq, Repr

namespace Status

def all : List Status :=
  [.success, .failed, .internalError, .invalidDefinition, .registrationInProgress,
    .alreadyRegistered, .invalidAccessToken, .connectionsExceeded, .notSupported]

def name : Status → String
  | .success => "STATUS_SUCCESS"
  | .failed => "ERR_FAILED"
  | .internalError => "ERR_INTERNAL_ERROR"
  | .invalidDefinition => "ERR_INVALID_APPLICATION_RESOURCES_DEFINITION"
  | .registrationInProgress => "ERR_REGISTRATION_ALREADY_IN_PROGRESS"
  | .alreadyRegistered => "ERR_ALREADY_REGISTERED"
  | .invalidAccessToken => "ERR_INVALID_ACCESS_TOKEN"
  | .connectionsExceeded => "ERR_NUM_ALLOWED_CONNECTIONS_EXCEEDED"
  | .notSupported => "ERR_NOT_SUPPORTED"

def readable : Status → String
  | .success => "STATUS SUCCESS"
  | .failed => "ERROR FAILED"
  | .internalError => "Internal error"
  | .invalidDefinition => "Invalid application resources definition"
  | .registrationInProgress => "Registration already in progress"
  | .alreadyRegistered => "Application already registered"
  | .invalidAccessToken => "Invalid access token"
  | .connectionsExceeded => "Number of allowed connections exceeded"
  | .notSupported => "Operation not supported"

/-- Success is zero; errors are numbered from `0x1000`. -/
def code : Status → Nat
  | .success => 0
  | .failed => 0x1000
  | .internalError => 0x1001
  | .invalidDefinition => 0x1002
  | .registrationInProgress => 0x1003
  | .alreadyRegistered => 0x1004
  | .invalidAccessToken => 0x1005
  | .connectionsExceeded => 0x1006
  | .notSupported => 0x1007

def ofCode? (code : Nat) : Option Status := all.find? (·.code == code)

def ofName? (name : String) : Option Status := all.find? (·.name == name)

def isError (s : Status) : Bool := s != .success

@[simp] theorem ofCode?_code (s : Status) : ofCode? s.code = some s := by
  cases s <;> rfl

@[simp] theorem ofName?_name (s : Status) : ofName? s.name = some s := by
  cases s <;> decide

def readableCode (code : Nat) : String :=
  match ofCode? code with
  | some s => s.readable
  | none => "Unknown Cloud Connect Status or Error"

/-- What an application is told of an error: its details stay inside. -/
def ofError : BrokerError → Status
  | .invalidDefinition _ => .invalidDefinition
  | .notSupported => .notSupported
  | .internal _ => .internalError
  | _ => .failed

def toJson (s : Status) : Json := .ofString s.name

def read : Json.Reader Status := .named (all.map fun s => (s.name, s))

end Status
end ResourceBroker
