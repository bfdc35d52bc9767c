import ResourceBroker.Adapter.Basic
import ResourceBroker.Message.Basic
import ResourceBroker.SocketSite

/-!
An adapter that serves applications at a local socket. Between `init` and `deinit` it can run its
event loop once, and while the loop runs it accepts connections. As long as places are free a
connection is admitted and its application becomes a client; past the limit it is refused for all its
life, whoever leaves in the meantime.
-/

namespace ResourceBroker

inductive LoopState where
  | released
  | ready
  | running
  | over
deriving DecidableEq, Repr

/-- The other end of an open connection: the user it belongs to, and what it has written of a line
that is not complete. -/
structure Peer where
  connection : ConnectionId
  user : Option UInt32
  unread : List UInt8

/-- `stray` is whether an event loop was left over by a release, which ends with the next stop. `sent` is
all that was written, the latest last, and `clock` the time that events are stamped with. -/
structure SocketAdapter where
  site : SocketSite
  maxConnections : Nat
  clock : Timestamp
  loop : LoopState
  stray : Bool
  stopReason : Option StopReason
  clients : List Peer
  refused : List Peer
  sent : List (ConnectionId × Outbound)

namespace SocketAdapter

def new (site : SocketSite) (maxConnections : Nat) (clock : Timestamp) : SocketAdapter :=
  ⟨site, maxConnections, clock, .released, false, none, [], [], []⟩

def init (a : SocketAdapter) : SocketAdapter × Except IpcError Unit :=
  if a.loop ≠ .released then (a, .error .alreadyInitialized)
  else match a.site.bind? with
    | some site => ({ a with site := site, loop := .ready, stopReason := none }, .ok ())
    | none => (a, .error .io)

def isLooping (a : SocketAdapter) : Bool := a.loop = .running || a.stray

/-- Removes the socket. Connections end without a report to anybody. -/
def deinit (a : SocketAdapter) : SocketAdapter × Except IpcError Unit :=
  if a.loop = .released then (a, .error .notInitialized)
  else
    ({ a with
        site := .vacant
        loop := .released
        stray := a.isLooping
        clients := []
        refused := [] }, .ok ())

def enter (a : SocketAdapter) : SocketAdapter × Except IpcError Unit :=
  match a.loop with
  | .released => (a, .error .notInitialized)
  | .ready => ({ a with loop := .running }, .ok ())
  | .running | .over => (a, .error (.serverError "Event loop already running"))

/-- A stop ends all event loops. One that was left over does not use up the run that is due. -/
def leave? (a : SocketAdapter) : Option (SocketAdapter × StopReason) :=
  let after : LoopState := if a.loop = .running then .over else a.loop
  if a.isLooping then a.stopReason.map ({ a with loop := after, stray := false }, ·) else none

/-- A stop that comes before the event loop is kept for it. -/
def stop (reason : StopReason) (a : SocketAdapter) : SocketAdapter × Except IpcError Unit :=
  if a.loop = .released then (a, .error .notInitialized)
  else ({ a with stopReason := some reason }, .ok ())

def isClient (connection : ConnectionId) (a : SocketAdapter) : Bool :=
  a.clients.any fun p => p.connection = connection

def isRefused (connection : ConnectionId) (a : SocketAdapter) : Bool :=
  a.refused.any fun p => p.connection = connection

def peer? (connection : ConnectionId) (a : SocketAdapter) : Option Peer :=
  (a.clients ++ a.refused).find? fun p => p.connection = connection

def user? (connection : ConnectionId) (a : SocketAdapter) : Option UInt32 :=
  (a.clients.find? fun p => p.connection = connection).bind Peer.user

def send (connection : ConnectionId) (message : Outbound) (a : SocketAdapter) : SocketAdapter :=
  { a with sent := a.sent ++ [(connection, message)] }

def stream (connection : ConnectionId) (a : SocketAdapter) : List Outbound :=
  (a.sent.filter fun entry => entry.1 = connection).map Prod.snd

def push (connection : ConnectionId) (status : Status) (a : SocketAdapter) :
    SocketAdapter × Except IpcError Unit :=
  if a.isClient connection then
    (a.send connection (.event (.new a.clock (.registrationUpdated status))), .ok ())
  else (a, .error (.unknownConnection connection))

instance : Adapter SocketAdapter where
  init := init
  deinit := deinit
  enter := enter
  leave? := leave?
  stop := stop
  push := push

def accept? (connection : ConnectionId) (user : Option UInt32) (a : SocketAdapter) :
    Option SocketAdapter :=
  if a.loop ≠ .running then none
  else if a.clients.length < a.maxConnections then
    some { a with clients := a.clients ++ [⟨connection, user, []⟩] }
  else some { a with refused := a.refused ++ [⟨connection, user, []⟩] }

def keep (connection : ConnectionId) (unread : List UInt8) (a : SocketAdapter) : SocketAdapter :=
  let change (p : Peer) := if p.connection = connection then { p with unread := unread } else p
  { a with clients := a.clients.map change, refused := a.refused.map change }

def remove (connection : ConnectionId) (a : SocketAdapter) : SocketAdapter :=
  { a with
    clients := a.clients.filter fun p => p.connection ≠ connection
    refused := a.refused.filter fun p => p.connection ≠ connection }

/-- Gives the adapter up. The socket goes with it, unless an event loop still holds on to it. -/
def drop (a : SocketAdapter) : SocketAdapter :=
  if a.isLooping ∨ a.loop = .released then a
  else { a with site := .vacant, clients := [], refused := [] }

end SocketAdapter
end ResourceBroker
