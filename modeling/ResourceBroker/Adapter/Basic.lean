import ResourceBroker.Error.Broker
import ResourceBroker.Status

/-!
The transport between applications and the broker, as the broker drives it. An adapter is
initialised, runs an event loop until it is asked to stop, and is released. Each operation gives the
adapter's next state, whether it succeeds or fails.
-/

namespace ResourceBroker

inductive StopReason where
  | shutdown
  | error (cause : BrokerError)
deriving DecidableEq, Repr

/-- A run of the event loop is seen as two moments: `enter` begins it or refuses, and `leave?` ends it
once a stop was requested. -/
class Adapter (α : Type) where
  init : α → α × Except IpcError Unit
  deinit : α → α × Except IpcError Unit
  enter : α → α × Except IpcError Unit
  leave? : α → Option (α × StopReason)
  stop : StopReason → α → α × Except IpcError Unit
  push : ConnectionId → Status → α → α × Except IpcError Unit

end ResourceBroker
