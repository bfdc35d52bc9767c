import ResourceBroker.Error.Broker

/-!
A latch keeps the first error reported over several steps. Reporting that there is no error neither
uses it up nor clears it.
-/

namespace ResourceBroker

structure Latch where
  error : Option BrokerError
  isSet : Bool
deriving DecidableEq

namespace Latch

def empty : Latch := ⟨none, false⟩

/-- A report equal to what is held changes nothing; of the others the first is kept. -/
def set (latch : Latch) (report : Option BrokerError) : Latch :=
  if latch.error = report then latch
  else if latch.isSet then latch
  else ⟨report, true⟩

def record {α : Type} (latch : Latch) : Except BrokerError α → Latch
  | .error error => latch.set (some error)
  | .ok _ => latch

def toResult (latch : Latch) : Except BrokerError Unit :=
  match latch.error with
  | some error => .error error
  | none => .ok ()

end Latch
end ResourceBroker
