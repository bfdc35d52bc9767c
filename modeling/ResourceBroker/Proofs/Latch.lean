import ResourceBroker.Error.Latch

/-!
What a latch holds after any calls: the first error among them. The flag of a latch says whether it
holds an error, as long as it came from an empty one, and a latch of that kind takes a report as
`Option.or` does.
-/

namespace ResourceBroker
namespace Latch

/-- What a latch can be told: an error or none, or what some step has come to. -/
inductive Call : Type 1 where
  | set (report : Option BrokerError)
  | record {α : Type} (result : Except BrokerError α)

def Call.error? : Call → Option BrokerError
  | .set report => report
  | .record (.error e) => some e
  | .record (.ok _) => none

def apply (latch : Latch) : Call → Latch
  | .set report => latch.set report
  | .record result => latch.record result

def run (calls : List Call) (latch : Latch) : Latch := calls.foldl apply latch

def holding (error : Option BrokerError) : Latch := ⟨error, error.isSome⟩

theorem set_holding (error report : Option BrokerError) :
    (holding error).set report = holding (error.or report) := by
  unfold set
  cases error with
  | none =>
    cases report with
    | none => rfl
    | some e => rfl
  | some e =>
    -- A latch that is set keeps what it holds, be the report the same or another.
    split <;> rfl

theorem apply_holding (error : Option BrokerError) (call : Call) :
    (holding error).apply call = holding (error.or call.error?) := by
  cases call with
  | set report => exact set_holding error report
  | record result =>
    cases result with
    | ok value => exact congrArg holding Option.or_none.symm
    | error e => exact set_holding error (some e)

theorem run_holding (calls : List Call) (error : Option BrokerError) :
    (holding error).run calls = holding (error.or (calls.findSome? Call.error?)) := by
  induction calls generalizing error with
  | nil => exact congrArg holding Option.or_none.symm
  | cons call rest ih =>
    have hfirst : (call :: rest).findSome? Call.error? =
        call.error?.or (rest.findSome? Call.error?) := by
      rw [List.findSome?_cons]
      cases call.error? <;> rfl
    rw [hfirst, ← Option.or_assoc, ← ih, ← apply_holding]
    rfl

theorem run_empty (calls : List Call) :
    empty.run calls = holding (calls.findSome? Call.error?) :=
  run_holding calls none

theorem toResult_holding (error : Option BrokerError) :
    (holding error).toResult = error.elim (.ok ()) .error := by
  cases error <;> rfl

theorem toResult_record_record {α : Type} (result : Except BrokerError α)
    (cleanup : Except BrokerError Unit) :
    ((empty.record result).record cleanup).toResult = result.bind fun _ => cleanup := by
  have hrun : (empty.record result).record cleanup = empty.run [.record result, .record cleanup] :=
    rfl
  rw [hrun, run_empty, toResult_holding]
  cases result with
  | error e => rfl
  | ok value => cases cleanup <;> rfl

/-- What is to be read from a latch that was told this, on the way and in the end. -/
structure KeepsFirst (calls : List Call) : Prop where
  error : ∀ first, first <+: calls → (empty.run first).error = first.findSome? Call.error?
  toResult : (empty.run calls).toResult = (calls.findSome? Call.error?).elim (.ok ()) .error
  /-- To be told of no error neither uses the latch up nor clears it. -/
  set_none : (empty.run calls).set none = empty.run calls
  /-- Once there was an error nothing counts, neither the same nor another. -/
  apply_later : (calls.findSome? Call.error?).isSome = true →
    ∀ call, (empty.run calls).apply call = empty.run calls

theorem keepsFirst (calls : List Call) : KeepsFirst calls where
  error first _ := congrArg Latch.error (run_empty first)
  toResult := by rw [run_empty, toResult_holding]
  set_none := by rw [run_empty, set_holding, Option.or_none]
  apply_later := by
    intro hsome call
    obtain ⟨e, he⟩ := Option.isSome_iff_exists.mp hsome
    rw [run_empty, apply_holding, he]
    rfl

end Latch
end ResourceBroker
