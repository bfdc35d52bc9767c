import ResourceBroker.Status
import ResourceBroker.Text.Quoted

/-!
Which registration waits for the verdict of the cloud, and whether another one may begin.
-/

namespace ResourceBroker

def maxApplications : Nat := 1

def maxConcurrentRegistrations : Nat := 1

inductive Registration where
  | idle
  | pending (token : AccessToken)
deriving DecidableEq, Repr

namespace Registration

def pendingToken? : Registration → Option AccessToken
  | .idle => none
  | .pending token => some token

def isPending (r : Registration) : Bool := r.pendingToken?.isSome

def inFlight (r : Registration) : Nat := if r.isPending then 1 else 0

/-- Any outcome ends the wait, whichever registration it belongs to. -/
def finish (_ : Registration) : Registration := .idle

def label : Registration → String
  | .idle => "Idle"
  | .pending token => "Pending(AccessToken(" ++ Text.quote token.text ++ "))"

/-- Whether a new request may proceed. A registration that waits weighs more than one that is
done. -/
def check (r : Registration) (applications : Nat) : Except Status Unit :=
  if maxConcurrentRegistrations ≤ r.inFlight then .error .registrationInProgress
  else if maxApplications ≤ applications then .error .alreadyRegistered
  else .ok ()

end Registration
end ResourceBroker
