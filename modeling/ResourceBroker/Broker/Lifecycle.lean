import ResourceBroker.Broker.Basic
import ResourceBroker.Error.Latch

/-!
Starting and stopping the broker. Each start has a worker of its own, which builds an adapter,
initialises it, runs its event loop and releases it. The worker goes on by itself; `advance` is one
step of it, and `settle` lets it go on until it waits for something.
-/

namespace ResourceBroker

/-- What keeps the worker from going on: a hold before it initialises its adapter, a hold after an event
loop that has ended well, and a crash after one that has ended in any way. -/
structure Interference where
  holdInit : Bool
  holdRun : Bool
  panicRun : Bool
deriving DecidableEq, Repr

def Interference.none : Interference := ⟨false, false, false⟩

namespace Broker

variable {α : Type} [Adapter α]

/-- Releases the adapter in use. A second release has nothing to do. -/
def deinit (b : Broker α) : Broker α × Except BrokerError Unit :=
  match b.held with
  | none => (b, .ok ())
  | some place =>
    match call { b with held := .none } place Adapter.deinit with
    | (b, .ok ()) => (b, .ok ())
    | (b, .error e) =>
      ({ b with deinitFailure := some e.toBrokerError }, .error e.toBrokerError)

/-- Starts a worker, unless one is still at work. The gateway replaces the one before; registrations
stay. -/
def start (b : Broker α) (gateway : Nat) : Broker α × Except BrokerError Unit :=
  if b.worker.isUnfinished then (b, .error (.startFailed "Worker thread already running"))
  else
    ({ b with
        registrar := b.registrar.attach gateway
        stopTimedOut := false
        deinitFailure := none
        phase := .started
        worker := .starting }, .ok ())

def abandon (b : Broker α) (error : BrokerError) : Broker α :=
  { b with phase := .stopped, worker := .finished (.error error) }

def build (b : Broker α) : Broker α :=
  match b.held with
  | some _ => b.abandon .alreadyInitialized
  | none => { b with adapters := b.adapters ++ [b.blueprint], worker := .built b.adapters.length }

def enterLoop (b : Broker α) : Broker α :=
  match b.held with
  | none => { b with worker := .returned (.error .notInitialized) }
  | some place =>
    match call { b with phase := .running } place Adapter.enter with
    | (b, .ok ()) => { b with worker := .looping place }
    | (b, .error e) => { b with worker := .returned (.error e.toBrokerError) }

def initAdapter (b : Broker α) (place : Nat) : Broker α :=
  match b.call place Adapter.init with
  | (b, .error e) => b.abandon e.toBrokerError
  | (b, .ok ()) =>
    enterLoop { b with
      held := some place
      registrar := b.registrar.bind .broker
      phase := .initialized }

def leaveLoop (b : Broker α) (place : Nat) : Broker α :=
  match b.adapters[place]?.bind Adapter.leave? with
  | some (a, reason) =>
    { b with adapters := b.adapters.set place a, worker := .returned (.ok reason) }
  | none => b

/-- The worker's report is the first error: that of the event loop, else that of the release. -/
def conclude (b : Broker α) (result : Except BrokerError StopReason) : Broker α :=
  let (b, released) := b.deinit
  { b with
    phase := .stopped
    worker := .finished ((Latch.empty.record result).record released).toResult }

def advance (b : Broker α) : Broker α :=
  match b.worker with
  | .starting => b.build
  | .built place => b.initAdapter place
  | .looping place => b.leaveLoop place
  | .returned result => b.conclude result
  | .absent | .finished _ | .panicked => b

def advanceUnder (i : Interference) (b : Broker α) : Broker α :=
  match b.worker with
  | .built _ => if i.holdInit then b else b.advance
  | .returned result =>
    if i.holdRun && result.isOk then b
    else if i.panicRun then { b with worker := .panicked }
    else b.advance
  | _ => b.advance

/-- Lets the worker go on. From its start to its end it takes four steps. -/
def settle (i : Interference) (b : Broker α) : Broker α :=
  advanceUnder i (advanceUnder i (advanceUnder i (advanceUnder i b)))

def rest (i : Interference) (gateways : List Nat) (b : Broker α) : Broker α :=
  gateways.foldl completeUnderway (b.settle i)

/-- Asks the adapter in use to stop. After a `stop` that has timed out this may have happened
already. -/
def signal (b : Broker α) : Broker α × Except BrokerError Unit :=
  match b.held with
  | some place =>
    match b.call place (Adapter.stop .shutdown) with
    | (b, .ok ()) => ({ b with phase := .stopping }, .ok ())
    | (b, .error e) =>
      if b.stopTimedOut then (b, .ok ()) else (b, .error (.stopFailed e.message))
  | none => if b.stopTimedOut then (b, .ok ()) else (b, .error .notInitialized)

def release (b : Broker α) : Broker α × Except BrokerError Unit :=
  let (b, released) := deinit { b with worker := .absent }
  ({ b with phase := .stopped, deinitFailure := none },
    match b.deinitFailure with
    | some e => .error e
    | none => released)

/-- Waits for the worker. One that does not end in time keeps the adapter. -/
def join (b : Broker α) : Broker α × Except BrokerError Unit :=
  if b.worker.isUnfinished then
    ({ b with stopTimedOut := true }, .error (.stopTimeout b.stopTimeout))
  else match b.worker with
    | .panicked =>
      ({ b with stopTimedOut := false, worker := .absent },
        .error (.stopFailed "Worker thread panicked"))
    | _ => release { b with stopTimedOut := false }

def stop (i : Interference) (b : Broker α) : Broker α × Except BrokerError Unit :=
  match b.signal with
  | (b, .ok ()) => (b.settle i).join
  | (b, .error e) => (b, .error e)

def drop (b : Broker α) : Broker α :=
  match b.held with
  | some place => (b.call place (Adapter.stop .shutdown)).1
  | none => b

end Broker
end ResourceBroker
