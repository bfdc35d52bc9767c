import ResourceBroker.Adapter.Basic

/-!
An adapter without a transport. Each of its operations can be made to fail, and it counts and keeps
what it is asked to do.
-/

namespace ResourceBroker

structure AdapterFaults where
  init : Bool
  run : Bool
  stop : Bool
  deinit : Bool
  updates : Bool
deriving DecidableEq, Repr

namespace AdapterFaults

def none : AdapterFaults := ⟨false, false, false, false, false⟩

def set? (name : String) (value : Bool) (faults : AdapterFaults) : Option AdapterFaults :=
  match name with
  | "fail_init" => some { faults with init := value }
  | "fail_run" => some { faults with run := value }
  | "fail_stop" => some { faults with stop := value }
  | "fail_deinit" => some { faults with deinit := value }
  | "fail_updates" => some { faults with updates := value }
  | _ => Option.none

end AdapterFaults

structure ScriptedAdapter where
  faults : AdapterFaults
  initialized : Bool
  running : Bool
  stopReason : Option StopReason
  initCalls : Nat
  deinitCalls : Nat
  stopRequests : List StopReason
  updates : List (ConnectionId × Status)

namespace ScriptedAdapter

def new (faults : AdapterFaults) : ScriptedAdapter :=
  ⟨faults, false, false, none, 0, 0, [], []⟩

def init (a : ScriptedAdapter) : ScriptedAdapter × Except IpcError Unit :=
  let a := { a with initCalls := a.initCalls + 1 }
  if a.faults.init then (a, .error (.serverError "Mock init failure"))
  else if a.initialized then (a, .error .alreadyInitialized)
  else ({ a with initialized := true, stopReason := none }, .ok ())

def deinit (a : ScriptedAdapter) : ScriptedAdapter × Except IpcError Unit :=
  let a := { a with deinitCalls := a.deinitCalls + 1 }
  if a.faults.deinit then (a, .error (.serverError "Mock deinit failure"))
  else if a.initialized then ({ a with initialized := false }, .ok ())
  else (a, .error .notInitialized)

def enter (a : ScriptedAdapter) : ScriptedAdapter × Except IpcError Unit :=
  if a.faults.run then (a, .error (.serverError "Mock run failure"))
  else if a.initialized then ({ a with running := true }, .ok ())
  else (a, .error .notInitialized)

def leave? (a : ScriptedAdapter) : Option (ScriptedAdapter × StopReason) :=
  a.stopReason.map fun reason => ({ a with running := false }, reason)

/-- A request is kept even if it fails. -/
def stop (reason : StopReason) (a : ScriptedAdapter) : ScriptedAdapter × Except IpcError Unit :=
  let a := { a with stopRequests := a.stopRequests ++ [reason] }
  if a.faults.stop then (a, .error (.serverError "Mock stop failure"))
  else if a.initialized then ({ a with stopReason := some reason }, .ok ())
  else (a, .error .notInitialized)

def push (connection : ConnectionId) (status : Status) (a : ScriptedAdapter) :
    ScriptedAdapter × Except IpcError Unit :=
  if a.faults.updates then (a, .error .connectionClosed)
  else ({ a with updates := a.updates ++ [(connection, status)] }, .ok ())

instance : Adapter ScriptedAdapter where
  init := init
  deinit := deinit
  enter := enter
  leave? := leave?
  stop := stop
  push := push

end ScriptedAdapter
end ResourceBroker
