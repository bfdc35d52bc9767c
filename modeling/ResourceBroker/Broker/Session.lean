import ResourceBroker.Broker.Lifecycle
import ResourceBroker.RequestHandler.Journal
import ResourceBroker.Server

/-!
A broker whose adapter serves a socket, and the applications that call there. An application writes
bytes and reads the messages that were written to it, also those from before its connection ended.
-/

namespace ResourceBroker

namespace Broker

def server? (b : Broker SocketAdapter) : Option (Server Registrar) := do
  let adapter ← b.adapters[← b.held]?
  pure ⟨adapter, b.registrar⟩

def withServer (b : Broker SocketAdapter) (s : Server Registrar) : Broker SocketAdapter :=
  match b.held with
  | some place => { b with adapters := b.adapters.set place s.adapter, registrar := s.owner }
  | none => b

def lastAdapter? {α : Type} (b : Broker α) : Option α := b.adapters.getLast?

end Broker

/-- An application at the socket: the place of the adapter that has accepted its connection, and how
many messages it has read. -/
structure Caller where
  place : Nat
  connection : ConnectionId
  read : Nat
deriving DecidableEq, Repr

/-- `calls` is the journal of the registrar, and connections are numbered as they are accepted. -/
structure Session where
  broker : Broker SocketAdapter
  calls : List HandlerCall
  accepted : Nat

namespace Session

def new (broker : Broker SocketAdapter) : Session := ⟨broker, [], 0⟩

def modifyBroker (change : Broker SocketAdapter → Broker SocketAdapter) (s : Session) : Session :=
  { s with broker := change s.broker }

def serve (s : Session) (step : TellingHandler (Registrar × List HandlerCall) →
    Server (Registrar × List HandlerCall) → Server (Registrar × List HandlerCall)) : Session :=
  match s.broker.server? with
  | none => s
  | some server =>
    let after := step Registrar.requestHandler.journaled
      ⟨server.adapter, server.owner, s.calls⟩
    { s with
      broker := s.broker.withServer ⟨after.adapter, after.owner.1⟩
      calls := after.owner.2 }

def connect? (user : Option UInt32) (s : Session) : Option (Caller × Session) := do
  let connection : ConnectionId := ⟨BitVec.ofNat 128 (s.accepted + 1)⟩
  let place ← s.broker.held
  let server ← s.broker.server?
  let adapter ← server.adapter.accept? connection user
  pure (⟨place, connection, 0⟩,
    { s with
      broker := s.broker.withServer { server with adapter := adapter }
      accepted := s.accepted + 1 })

def isOpen (c : Caller) (s : Session) : Bool :=
  ((s.broker.adapters[c.place]?).bind (·.peer? c.connection)).isSome

def write (c : Caller) (bytes : List UInt8) (s : Session) : Session :=
  if s.isOpen c then s.serve fun handler => .receive handler c.connection bytes else s

def hangUp (c : Caller) (s : Session) : Session :=
  if s.isOpen c then s.serve fun handler => .hangUp handler c.connection else s

def setClock (now : Timestamp) (s : Session) : Session :=
  match s.broker.server? with
  | none => s
  | some server =>
    s.modifyBroker (·.withServer { server with adapter := { server.adapter with clock := now } })

def unread (c : Caller) (s : Session) : List Outbound :=
  match s.broker.adapters[c.place]? with
  | some adapter => (adapter.stream c.connection).drop c.read
  | none => []

def requesters (s : Session) : List ConnectionId :=
  s.calls.filterMap fun
    | .register connection _ => some connection
    | _ => none

def closings (connection : ConnectionId) (s : Session) : Nat :=
  s.calls.count (.connectionClosed connection)

def await (c : Caller) (count gateway : Nat) (s : Session) : Session :=
  if count ≤ (s.unread c).length then s else s.modifyBroker (·.completeUnderway gateway)

end Session
end ResourceBroker
