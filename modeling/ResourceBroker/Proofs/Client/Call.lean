import ResourceBroker.Client

/-!
What a call of a client makes of the lines that it reads. Events are set aside or handed out in their
order, and a response, a bad line or the end of the stream ends the call.
-/

namespace ResourceBroker.Client

inductive Wait where
  | response (id : UInt64)
  | event

def Wait.id? : Wait → Option UInt64
  | .response id => some id
  | .event => none

inductive Outcome where
  | responded (id : UInt64) (result : Except IpcError Response)
  | noticed (result : Except IpcError Event)

def Outcome.id? : Outcome → Option UInt64
  | .responded id _ => some id
  | .noticed _ => none

def eventOf? (line : List UInt8) : Option Event :=
  match readLine line with
  | .ok (.event event) => some event
  | _ => none

abbrev eventsOf (lines : List (List UInt8)) : List Event := lines.filterMap eventOf?

theorem eventsOf_cons_event {line : List UInt8} {event : Event} (h : readLine line = .ok (.event event))
    (lines : List (List UInt8)) : eventsOf (line :: lines) = event :: eventsOf lines :=
  List.filterMap_cons_some (by rw [eventOf?, h])

theorem eventsOf_response {line : List UInt8} {r : Response} (h : readLine line = .ok (.response r)) :
    eventsOf [line] = [] :=
  List.filterMap_cons_none (by rw [eventOf?, h])

theorem eventsOf_error {line : List UInt8} {e : IpcError} (h : readLine line = .error e) :
    eventsOf [line] = [] :=
  List.filterMap_cons_none (by rw [eventOf?, h])

def Wait.meet (response : Response) : Wait → Outcome
  | .response id =>
    .responded id (if response.id = id then .ok response else .error (mismatch response.id id))
  | .event => .noticed (.error (unsolicited response.id))

def Wait.fail (e : IpcError) : Wait → Outcome
  | .response id => .responded id (.error e)
  | .event => .noticed (.error e)

/-- What a call can do: from one queue of events it reads some lines, leaves another queue, and perhaps
has an outcome. -/
inductive Reads : Wait → List Event → List (List UInt8) → List Event → Option Outcome → Prop where
  | waits {wait : Wait} {queue : List Event} (unqueued : wait = .event → queue = []) :
    Reads wait queue [] queue none
  | closed {wait : Wait} {queue : List Event} :
    Reads wait queue [] queue (some (wait.fail .connectionClosed))
  | broken {wait : Wait} {queue : List Event} {line : List UInt8} {e : IpcError}
    (bad : readLine line = .error e) : Reads wait queue [line] queue (some (wait.fail e))
  | meets {wait : Wait} {queue : List Event} {line : List UInt8} {r : Response}
    (answer : readLine line = .ok (.response r)) : Reads wait queue [line] queue (some (wait.meet r))
  | setsAside {id : UInt64} {queue after : List Event} {line : List UInt8}
    {lines : List (List UInt8)} {event : Event} {outcome : Option Outcome}
    (notice : readLine line = .ok (.event event))
    (rest : Reads (.response id) (queue ++ [event]) lines after outcome) :
    Reads (.response id) queue (line :: lines) after outcome
  | hands {event : Event} {queue : List Event} :
    Reads .event (event :: queue) [] queue (some (.noticed (.ok event)))
  | notices {line : List UInt8} {event : Event} (notice : readLine line = .ok (.event event)) :
    Reads .event [] [line] [] (some (.noticed (.ok event)))

def Outcome.event? : Outcome → Option Event
  | .noticed (.ok event) => some event
  | _ => none

@[simp] theorem Wait.event?_meet (wait : Wait) (r : Response) : (wait.meet r).event? = none := by
  cases wait <;> rfl

@[simp] theorem Wait.event?_fail (wait : Wait) (e : IpcError) : (wait.fail e).event? = none := by
  cases wait <;> rfl

namespace Reads

variable {wait : Wait} {queue after : List Event} {lines : List (List UInt8)}
  {outcome : Option Outcome}

/-- No event is lost, and none comes twice or out of order. -/
theorem balance (h : Reads wait queue lines after outcome) :
    (outcome.bind Outcome.event?).toList ++ after = queue ++ eventsOf lines := by
  induction h with
  | waits | closed => simp
  | broken bad => simp [eventsOf_error bad]
  | meets answer => simp [eventsOf_response answer]
  | setsAside notice _ ih => rw [ih, eventsOf_cons_event notice, List.append_assoc, List.singleton_append]
  | hands => simp [Outcome.event?]
  | notices notice => simp [eventsOf_cons_event notice, Outcome.event?]

theorem of_response (h : Reads wait queue lines after outcome) {line : List UInt8} {r : Response}
    (hline : line ∈ lines) (hr : readLine line = .ok (.response r)) :
    outcome = some (wait.meet r) ∧ (wait = .event → lines = [line]) := by
  induction h with
  | waits | closed | hands => cases hline
  | broken bad =>
    obtain rfl := List.mem_singleton.mp hline
    rw [hr] at bad
    cases bad
  | meets answer =>
    obtain rfl := List.mem_singleton.mp hline
    rw [hr] at answer
    cases answer
    exact ⟨rfl, fun _ => rfl⟩
  | setsAside notice _ ih =>
    obtain rfl | hline := List.mem_cons.mp hline
    · rw [hr] at notice
      cases notice
    · exact ⟨(ih hline).1, nofun⟩
  | notices notice =>
    obtain rfl := List.mem_singleton.mp hline
    rw [hr] at notice
    cases notice

theorem queue_of_response (h : Reads wait queue lines after outcome) {line : List UInt8}
    {r : Response} (hline : line ∈ lines) (hr : readLine line = .ok (.response r)) :
    after = queue ++ eventsOf lines := by
  rw [← h.balance, (h.of_response hline hr).1, Option.bind_some, Wait.event?_meet]
  rfl

theorem id_eq (h : Reads wait queue lines after outcome) {id : UInt64} {r : Response}
    (hresult : outcome = some (.responded id (.ok r))) : r.id = id := by
  induction h with
  | waits => cases hresult
  | @closed wait | @broken wait => cases wait <;> cases hresult
  | @meets wait _ _ other _ =>
    cases wait with
    | event => cases hresult
    | response asked =>
      simp only [Wait.meet, Option.some.injEq, Outcome.responded.injEq] at hresult
      obtain ⟨rfl, hresult⟩ := hresult
      split at hresult
      · next hid => cases hresult; exact hid
      · cases hresult
  | setsAside _ _ ih => exact ih hresult
  | hands | notices => cases hresult

theorem queue_eq_nil (h : Reads .event queue lines after none) : after = [] := by
  cases h with
  | waits unqueued => exact unqueued rfl

theorem id?_eq (h : Reads wait queue lines after outcome) {o : Outcome} (ho : outcome = some o) :
    o.id? = wait.id? := by
  induction h with
  | waits => cases ho
  | @closed wait | @broken wait | @meets wait => cases wait <;> cases ho <;> rfl
  | setsAside _ _ ih => exact ih ho
  | hands | notices => cases ho; rfl

end Reads

theorem filterMap_singleton {α β : Type} (f : α → Option β) (x : α) :
    [x].filterMap f = (f x).toList := by
  cases h : f x <;> simp [h]

theorem await_reads (id : UInt64) (lines : List (List UInt8)) (c : Client) :
    ∃ read rest queue, lines = read ++ rest ∧
      (await id lines c).1 = { c with lines := rest, events := queue } ∧
      Reads (.response id) c.events read queue ((await id lines c).2.map (.responded id)) ∧
      ((await id lines c).2 = none → rest = [] ∧ c.ended = false) := by
  induction lines generalizing c with
  | nil =>
    refine ⟨[], [], c.events, rfl, rfl, ?_⟩
    rw [await, atEnd]
    cases c.ended with
    | false => exact ⟨.waits nofun, fun _ => ⟨rfl, rfl⟩⟩
    | true => exact ⟨.closed, nofun⟩
  | cons line rest ih =>
    rw [await]
    cases hline : readLine line with
    | error e => exact ⟨[line], rest, c.events, rfl, rfl, .broken hline, nofun⟩
    | ok message =>
      cases message with
      | response r => exact ⟨[line], rest, c.events, rfl, rfl, .meets hline, nofun⟩
      | event event =>
        obtain ⟨read, left, queue, hcut, hclient, hreads, hwaits⟩ :=
          ih { c with lines := rest, events := c.events ++ [event] }
        exact ⟨line :: read, left, queue, congrArg (line :: ·) hcut, hclient,
          .setsAside hline hreads, hwaits⟩

theorem nextEvent_reads (c : Client) :
    ∃ read rest queue, c.lines = read ++ rest ∧
      c.nextEvent.1 = { c with lines := rest, events := queue } ∧
      Reads .event c.events read queue (c.nextEvent.2.map .noticed) ∧
      (c.nextEvent.2 = none → rest = [] ∧ c.ended = false) := by
  obtain ⟨nextId, events, lines, unread, ended⟩ := c
  cases events with
  | cons event queue => exact ⟨[], lines, queue, rfl, rfl, .hands, nofun⟩
  | nil =>
    cases lines with
    | nil =>
      refine ⟨[], [], [], rfl, rfl, ?_⟩
      cases ended with
      | false => exact ⟨.waits fun _ => rfl, fun _ => ⟨rfl, rfl⟩⟩
      | true => exact ⟨.closed, nofun⟩
    | cons line rest =>
      refine ⟨[line], rest, [], rfl, ?_⟩
      cases hline : readLine line with
      | error e => simp only [nextEvent, hline]; exact ⟨trivial, .broken hline, nofun⟩
      | ok message =>
        cases message with
        | response r => simp only [nextEvent, hline]; exact ⟨trivial, .meets hline, nofun⟩
        | event event => simp only [nextEvent, hline]; exact ⟨trivial, .notices hline, nofun⟩

end ResourceBroker.Client
