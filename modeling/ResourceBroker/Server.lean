import ResourceBroker.Adapter.Socket
import ResourceBroker.Message.Line
import ResourceBroker.RequestHandler.Basic
import ResourceBroker.Telling

/-!
What a socket adapter does with its connections while the event loop runs. Every line of a client
that holds a request is answered on the same connection, by the handler; lines that hold none are
passed over. Refused connections are answered without the handler. A line that is not UTF-8 ends its
connection.
-/

namespace ResourceBroker

structure Server (σ : Type) where
  adapter : SocketAdapter
  owner : σ

namespace Server

variable {σ : Type}

def perform {β : Type} (step : StateT σ Telling β) : StateM (Server σ) β := fun s =>
  let told := step s.owner
  (told.value.1,
    ⟨told.pushes.foldl (fun a p => (a.push p.1 p.2).1) s.adapter, told.value.2⟩)

def answer (handler : TellingHandler σ) (connection : ConnectionId) (request : Request)
    (s : Server σ) : Server σ :=
  let (response, s) := perform (handler.dispatch connection request) s
  { s with adapter := s.adapter.send connection (.response response) }

/-- Ends a connection. The handler is told if it was an admitted one. -/
def close (handler : TellingHandler σ) (connection : ConnectionId) (s : Server σ) : Server σ :=
  let rest := { s with adapter := s.adapter.remove connection }
  if s.adapter.isClient connection then (perform (handler.connectionClosed connection) rest).2
  else rest

def serve (handler : TellingHandler σ) (connection : ConnectionId) (request : Request)
    (s : Server σ) : Server σ :=
  if s.adapter.isClient connection then s.answer handler connection request
  else if s.adapter.isRefused connection then
    { s with adapter := s.adapter.send connection (.response (refuse request)) }
  else s

def readLine (handler : TellingHandler σ) (connection : ConnectionId) (s : Server σ)
    (line : List UInt8) : Server σ :=
  match Text.lineText? line with
  | none => s.close handler connection
  | some text => match Request.ofText? text with
    | some request => s.serve handler connection request
    | none => s

def receive (handler : TellingHandler σ) (connection : ConnectionId) (bytes : List UInt8)
    (s : Server σ) : Server σ :=
  match s.adapter.peer? connection with
  | none => s
  | some peer =>
    let (lines, last) := Text.splitLines (peer.unread ++ bytes)
    lines.foldl (readLine handler connection) { s with adapter := s.adapter.keep connection last }

/-- A peer writes no more. The last line need not be complete. -/
def hangUp (handler : TellingHandler σ) (connection : ConnectionId) (s : Server σ) : Server σ :=
  match s.adapter.peer? connection with
  | none => s
  | some peer =>
    let s := if peer.unread.isEmpty then s else s.readLine handler connection peer.unread
    s.close handler connection

end Server

end ResourceBroker
