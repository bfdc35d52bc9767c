import ResourceBroker.Adapter.Basic

/-!
An adapter with the thread that runs its event loop. The thread is there from a run that does not
end at once until a stop ends it, and what the run returned is kept for whoever waits for it.
-/

namespace ResourceBroker

/-- `exit` is what the run returned that has ended last, and `stopped` whether a stop was accepted
since the adapter was initialised. -/
structure AdapterRun (α : Type) where
  adapter : α
  running : Bool
  exit : Option StopReason
  stopped : Bool

/-- How a run begins: refused, ended at once, or inside the event loop. -/
inductive RunStart where
  | refused (error : IpcError)
  | ended (reason : StopReason)
  | running
deriving DecidableEq, Repr

namespace AdapterRun

variable {α : Type} [Adapter α]

def new (adapter : α) : AdapterRun α := ⟨adapter, false, none, false⟩

def init (r : AdapterRun α) : AdapterRun α × Except IpcError Unit :=
  match Adapter.init r.adapter with
  | (a, .ok ()) => ({ r with adapter := a, stopped := false }, .ok ())
  | (a, .error e) => ({ r with adapter := a }, .error e)

def deinit (r : AdapterRun α) : AdapterRun α × Except IpcError Unit :=
  let (a, result) := Adapter.deinit r.adapter
  ({ r with adapter := a }, result)

def push (connection : ConnectionId) (status : Status) (r : AdapterRun α) :
    AdapterRun α × Except IpcError Unit :=
  let (a, result) := Adapter.push connection status r.adapter
  ({ r with adapter := a }, result)

def run (r : AdapterRun α) : AdapterRun α × RunStart :=
  match Adapter.enter r.adapter with
  | (a, .error e) => ({ r with adapter := a }, .refused e)
  | (a, .ok ()) => match Adapter.leave? a with
    | some (a, reason) => ({ r with adapter := a }, .ended reason)
    | none => ({ r with adapter := a, running := true }, .running)

def settle (r : AdapterRun α) : AdapterRun α :=
  match r.running, Adapter.leave? r.adapter with
  | true, some (a, reason) => { r with adapter := a, running := false, exit := some reason }
  | _, _ => r

def stop (reason : StopReason) (r : AdapterRun α) : AdapterRun α × Except IpcError Unit :=
  match Adapter.stop reason r.adapter with
  | (a, .ok ()) => (settle { r with adapter := a, stopped := true }, .ok ())
  | (a, .error e) => ({ r with adapter := a }, .error e)

def join? (r : AdapterRun α) : Option (AdapterRun α × StopReason) :=
  r.exit.map ({ r with exit := none }, ·)

end AdapterRun
end ResourceBroker
