import ResourceBroker.Duration
import ResourceBroker.Error.Cloud
import ResourceBroker.Identity

/-!
What goes wrong in the broker, and between it and the applications. Each error has a stable name and
a message; the wording is in the `message` functions alone.
-/

namespace ResourceBroker

inductive BrokerError where
  | startFailed (why : String)
  | stopFailed (why : String)
  | stopTimeout (limit : Duration)
  | alreadyInitialized
  | notInitialized
  | invalidDefinition (why : String)
  | notSupported
  | ipc (why : String)
  | cloud (kind : CloudErrorKind)
  | internal (why : String)
deriving DecidableEq, Repr

namespace BrokerError

def name : BrokerError → String
  | .startFailed _ => "CCRB_START_FAILED"
  | .stopFailed _ => "CCRB_STOP_FAILED"
  | .stopTimeout _ => "CCRB_STOP_TIMEOUT"
  | .alreadyInitialized => "CCRB_ALREADY_INITIALIZED"
  | .notInitialized => "CCRB_NOT_INITIALIZED"
  | .invalidDefinition _ => "CCRB_INVALID_JSON"
  | .notSupported => "CCRB_NOT_SUPPORTED"
  | .ipc _ => "CCRB_IPC_ERROR"
  | .cloud kind => kind.name
  | .internal _ => "CCRB_INTERNAL_ERROR"

def message : BrokerError → String
  | .startFailed why => "Broker start failed: " ++ why
  | .stopFailed why => "Broker stop failed: " ++ why
  | .stopTimeout limit => "IPC worker did not exit within " ++ limit.render
  | .alreadyInitialized => "IPC adapter already initialized"
  | .notInitialized => "IPC adapter not initialized"
  | .invalidDefinition why => "Invalid application resource definition: " ++ why
  | .notSupported => "Operation not supported"
  | .ipc why => "IPC error: " ++ why
  | .cloud kind => "Cloud client error: " ++ kind.name
  | .internal why => "Internal error: " ++ why

end BrokerError

/-- Of a failed read or write, and of a text that does not decode, only the fact is kept. -/
inductive IpcError where
  | io
  | json
  | connectionClosed
  | unknownConnection (connection : ConnectionId)
  | invalidMessage (why : String)
  | alreadyInitialized
  | notInitialized
  | serverError (why : String)
deriving DecidableEq, Repr

namespace IpcError

def name : IpcError → String
  | .io => "Io"
  | .json => "Json"
  | .connectionClosed => "ConnectionClosed"
  | .unknownConnection _ => "UnknownConnection"
  | .invalidMessage _ => "InvalidMessage"
  | .alreadyInitialized => "AlreadyInitialized"
  | .notInitialized => "NotInitialized"
  | .serverError _ => "ServerError"

def message : IpcError → String
  | .io => "IO error"
  | .json => "JSON error"
  | .connectionClosed => "Connection closed"
  | .unknownConnection connection => "Unknown connection: " ++ connection.render
  | .invalidMessage why => "Invalid message: " ++ why
  | .alreadyInitialized => "Adapter already initialized"
  | .notInitialized => "Adapter not initialized"
  | .serverError why => "Server error: " ++ why

/-- The broker knows the two states of its adapter; of other errors it keeps the message. -/
def toBrokerError : IpcError → BrokerError
  | .alreadyInitialized => .alreadyInitialized
  | .notInitialized => .notInitialized
  | error => .ipc error.message

end IpcError

def CloudClientError.toBrokerError (error : CloudClientError) : BrokerError := .cloud error.kind

end ResourceBroker
