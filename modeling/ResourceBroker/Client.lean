import ResourceBroker.Error.Broker
import ResourceBroker.Message.Line

/-!
The side of an application. A client sends requests and waits for the response to each; events that
come in between are set aside until they are asked for.
-/

namespace ResourceBroker

/-- `lines` and `unread` are what has arrived and was not read yet, and `ended` says that no more is to
come. `events` are those set aside, the oldest first. -/
structure Client where
  nextId : UInt64
  events : List Event
  lines : List (List UInt8)
  unread : List UInt8
  ended : Bool

namespace Client

def new : Client := ⟨1, [], [], [], false⟩

def receive (bytes : List UInt8) (c : Client) : Client :=
  if c.ended then c
  else
    let (lines, last) := Text.splitLines (c.unread ++ bytes)
    { c with lines := c.lines ++ lines, unread := last }

def finish (c : Client) : Client :=
  { c with
    lines := if c.unread.isEmpty then c.lines else c.lines ++ [c.unread]
    unread := []
    ended := true }

def readLine (line : List UInt8) : Except IpcError Outbound :=
  match Text.lineText? line with
  | none => .error .io
  | some text => match Outbound.ofText? text with
    | some message => .ok message
    | none => .error .json

def atEnd {α : Type} (c : Client) : Option (Except IpcError α) :=
  if c.ended then some (.error .connectionClosed) else none

def mismatch (id expected : UInt64) : IpcError :=
  .invalidMessage ("Response for request " ++ toString id.toNat ++ " while waiting for " ++
    toString expected.toNat)

/-- Reads on until something other than an event comes. The result is missing as long as nothing
has. -/
def await (id : UInt64) : List (List UInt8) → Client → Client × Option (Except IpcError Response)
  | [], c => ({ c with lines := [] }, c.atEnd)
  | line :: rest, c =>
    let c := { c with lines := rest }
    match readLine line with
    | .ok (.event event) => await id rest { c with events := c.events ++ [event] }
    | .ok (.response response) =>
      (c, some (if response.id = id then .ok response else .error (mismatch response.id id)))
    | .error e => (c, some (.error e))

/-- Sends a command and waits for the response. Every request has an id of its own, also after one
that has failed. -/
def send (command : Command) (c : Client) :
    Client × Request × Option (Except IpcError Response) :=
  let (after, result) := await c.nextId c.lines { c with nextId := c.nextId + 1 }
  (after, .new c.nextId command, result)

/-- What becomes of a command whose request cannot be written: nothing is read for it, and its id is used
up all the same. -/
def lose (command : Command) (c : Client) : Client × Request × IpcError :=
  ({ c with nextId := c.nextId + 1 }, .new c.nextId command, .io)

def unsolicited (id : UInt64) : IpcError :=
  .invalidMessage ("Unsolicited response for request " ++ toString id.toNat)

def nextEvent (c : Client) : Client × Option (Except IpcError Event) :=
  match c.events, c.lines with
  | event :: rest, _ => ({ c with events := rest }, some (.ok event))
  | [], [] => (c, c.atEnd)
  | [], line :: rest =>
    let c := { c with lines := rest }
    match readLine line with
    | .ok (.event event) => (c, some (.ok event))
    | .ok (.response response) => (c, some (.error (unsolicited response.id)))
    | .error e => (c, some (.error e))

end Client
end ResourceBroker
