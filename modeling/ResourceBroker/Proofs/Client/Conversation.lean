import Mathlib.Data.List.Induction
import Mathlib.Data.List.Nodup
import ResourceBroker.Proofs.Client.Call
import ResourceBroker.Proofs.Text.Line

/-!
A client in conversation. Calls read the lines that the other side writes, one call at a time, and a call
that finds no more lines waits for them. Whatever arrives and whatever is called, the events that were
handed out and those set aside are the events among the lines read so far, in their order.
-/

namespace ResourceBroker.Client

/-- What happens at a client: the other side writes, or writes no more, and the application sends a
command, which may get lost before it is written, or asks for an event. -/
inductive Move where
  | arrives (bytes : List UInt8)
  | ends
  | sends (command : Command)
  | loses (command : Command)
  | asks

structure Conversation where
  client : Client
  waiting : Option Wait
  sent : List Request
  outcomes : List Outcome

namespace Conversation

def new : Conversation := ⟨Client.new, none, [], []⟩

def conclude (x : Conversation) (wait : Wait) (client : Client) : Option Outcome → Conversation
  | none => { x with client := client, waiting := some wait }
  | some outcome => { x with client := client, waiting := none, outcomes := x.outcomes ++ [outcome] }

def resume (x : Conversation) : Conversation :=
  match x.waiting with
  | none => x
  | some (.response id) =>
    let (client, result) := await id x.client.lines x.client
    x.conclude (.response id) client (result.map (.responded id))
  | some .event =>
    let (client, result) := x.client.nextEvent
    x.conclude .event client (result.map .noticed)

/-- While a call is open, no other is made. -/
def step (x : Conversation) : Move → Conversation
  | .arrives bytes => { x with client := x.client.receive bytes }.resume
  | .ends => { x with client := x.client.finish }.resume
  | .sends command =>
    if x.waiting.isSome then x
    else
      let (client, request, result) := x.client.send command
      { x with sent := x.sent ++ [request] }.conclude (.response request.id) client
        (result.map (.responded request.id))
  | .loses command =>
    if x.waiting.isSome then x
    else
      let (client, request, e) := x.client.lose command
      { x with
        client := client
        sent := x.sent ++ [request]
        outcomes := x.outcomes ++ [.responded request.id (.error e)] }
  | .asks =>
    if x.waiting.isSome then x
    else
      let (client, result) := x.client.nextEvent
      x.conclude .event client (result.map .noticed)

def run (moves : List Move) : Conversation := moves.foldl step new

@[simp] theorem run_concat (moves : List Move) (move : Move) :
    run (moves ++ [move]) = (run moves).step move := by
  simp [run]

end Conversation

/-! What has arrived. -/

structure Arrived where
  bytes : List UInt8
  ended : Bool

namespace Arrived

def step (a : Arrived) : Move → Arrived
  | .arrives bytes => if a.ended then a else { a with bytes := a.bytes ++ bytes }
  | .ends => { a with ended := true }
  | .sends _ | .loses _ | .asks => a

def after (moves : List Move) : Arrived := moves.foldl step ⟨[], false⟩

@[simp] theorem after_concat (moves : List Move) (move : Move) :
    after (moves ++ [move]) = (after moves).step move := by
  simp [after]

/-- The last line counts once it is complete or nothing more is to come. -/
def lines (a : Arrived) : List (List UInt8) :=
  if a.ended then Text.allLines a.bytes else (Text.splitLines a.bytes).1

end Arrived

namespace Conversation

theorem resume_reads {x : Conversation} {wait : Wait} (h : x.waiting = some wait) :
    ∃ read rest queue outcome, x.client.lines = read ++ rest ∧
      Reads wait x.client.events read queue outcome ∧
      (outcome = none → rest = [] ∧ x.client.ended = false) ∧
      x.resume = x.conclude wait { x.client with lines := rest, events := queue } outcome := by
  cases wait with
  | response id =>
    obtain ⟨read, rest, queue, hcut, hclient, hreads, hwaits⟩ :=
      await_reads id x.client.lines x.client
    refine ⟨read, rest, queue, _, hcut, hreads, fun hnone => hwaits (Option.map_eq_none_iff.mp hnone), ?_⟩
    rw [← hclient, resume, h]
  | event =>
    obtain ⟨read, rest, queue, hcut, hclient, hreads, hwaits⟩ := x.client.nextEvent_reads
    refine ⟨read, rest, queue, _, hcut, hreads, fun hnone => hwaits (Option.map_eq_none_iff.mp hnone), ?_⟩
    rw [← hclient, resume, h]

theorem resume_of_idle {x : Conversation} (h : x.waiting = none) : x.resume = x := by
  rw [resume, h]

def begin (x : Conversation) : Move → Conversation
  | .arrives bytes => { x with client := x.client.receive bytes }
  | .ends => { x with client := x.client.finish }
  | .sends command =>
    { x with
      client := { x.client with nextId := x.client.nextId + 1 }
      waiting := some (.response x.client.nextId)
      sent := x.sent ++ [.new x.client.nextId command] }
  | .loses command =>
    { x with
      client := { x.client with nextId := x.client.nextId + 1 }
      sent := x.sent ++ [.new x.client.nextId command]
      outcomes := x.outcomes ++ [.responded x.client.nextId (.error .io)] }
  | .asks => { x with waiting := some .event }

def MayStep (x : Conversation) : Move → Prop
  | .arrives _ | .ends => True
  | .sends _ | .loses _ | .asks => x.waiting = none

theorem step_of_mayStep {x : Conversation} {move : Move} (h : x.MayStep move) :
    x.step move = (x.begin move).resume := by
  cases move with
  | arrives bytes => rfl
  | ends => rfl
  | sends command => rw [step, if_neg (by simp [show x.waiting = none from h])]; rfl
  | loses command =>
    have hidle : (x.begin (.loses command)).waiting = none := h
    rw [step, resume_of_idle hidle, if_neg (by simp [show x.waiting = none from h])]
    rfl
  | asks => rw [step, if_neg (by simp [show x.waiting = none from h])]; rfl

theorem events_begin (x : Conversation) (move : Move) :
    (x.begin move).client.events = x.client.events := by
  cases move with
  | arrives bytes =>
    change (x.client.receive bytes).events = _
    unfold receive
    split <;> rfl
  | _ => rfl

theorem outcomes_begin {x : Conversation} {move : Move} (h : x.MayStep move) :
    (x.begin move).outcomes = x.outcomes ∨ (x.begin move).resume = x.begin move := by
  cases move with
  | loses command => exact .inr (resume_of_idle h)
  | _ => exact .inl rfl

theorem step_of_not_mayStep {x : Conversation} {move : Move} (h : ¬ x.MayStep move) :
    x.step move = x := by
  cases move with
  | arrives bytes => exact absurd trivial h
  | ends => exact absurd trivial h
  | _ => exact if_pos (Option.isSome_iff_ne_none.mpr h)

theorem arrived_step_of_not_mayStep {x : Conversation} {move : Move} (h : ¬ x.MayStep move)
    (arrived : Arrived) : arrived.step move = arrived := by
  cases move with
  | arrives bytes => exact absurd trivial h
  | ends => exact absurd trivial h
  | _ => rfl

/-- The reading of a client held against what has arrived, and its requests and outcomes against each
other. -/
structure Follows (arrived : Arrived) (read : List (List UInt8)) (x : Conversation) : Prop where
  lines : arrived.lines = read ++ x.client.lines
  unread : x.client.unread = if arrived.ended then [] else (Text.splitLines arrived.bytes).2
  ended : x.client.ended = arrived.ended
  events : x.outcomes.filterMap Outcome.event? ++ x.client.events = eventsOf read
  matched : ∀ id r, .responded id (.ok r) ∈ x.outcomes → r.id = id
  ids : x.outcomes.filterMap Outcome.id? ++ (x.waiting.bind Wait.id?).toList = x.sent.map Request.id
  counted : x.sent.map Request.id = (List.range x.sent.length).map fun k => UInt64.ofNat (k + 1)
  nextId : x.client.nextId = UInt64.ofNat (x.sent.length + 1)

/-- A call waits only if there is nothing at hand for it. -/
def Starved (x : Conversation) : Prop :=
  ∀ wait, x.waiting = some wait →
    x.client.lines = [] ∧ x.client.ended = false ∧ (wait = .event → x.client.events = [])

namespace Follows

variable {arrived : Arrived} {read : List (List UInt8)} {x : Conversation}

theorem arrives (h : x.Follows arrived read) (bytes : List UInt8) :
    (x.begin (.arrives bytes)).Follows (arrived.step (.arrives bytes)) read := by
  have hended := h.ended
  cases harrived : arrived.ended with
  | true =>
    have hkeep : x.begin (.arrives bytes) = x := by
      simp [begin, receive, hended, harrived]
    rw [hkeep, Arrived.step, if_pos harrived]
    exact h
  | false =>
    have hlines : (Text.splitLines arrived.bytes).1 = read ++ x.client.lines := by
      simpa [Arrived.lines, harrived] using h.lines
    have hunread : x.client.unread = (Text.splitLines arrived.bytes).2 := by
      simpa [harrived] using h.unread
    have hcut := Text.splitLines_append arrived.bytes bytes
    have hstep : arrived.step (.arrives bytes) = ⟨arrived.bytes ++ bytes, false⟩ := by
      simp [Arrived.step, harrived]
    have hclient : x.client.receive bytes = { x.client with
        lines := x.client.lines ++
          (Text.splitLines ((Text.splitLines arrived.bytes).2 ++ bytes)).1
        unread := (Text.splitLines ((Text.splitLines arrived.bytes).2 ++ bytes)).2 } := by
      simp [receive, hended, harrived, hunread]
    have hbegin : x.begin (.arrives bytes) = { x with client := x.client.receive bytes } := rfl
    rw [hbegin, hclient, hstep]
    refine { h with lines := ?_, unread := ?_, ended := hended.trans harrived }
    · change (Text.splitLines (arrived.bytes ++ bytes)).1 = read ++ (x.client.lines ++ _)
      rw [hcut, hlines, List.append_assoc]
    · exact (congrArg Prod.snd hcut).symm

theorem ends (h : x.Follows arrived read) :
    (x.begin .ends).Follows (arrived.step .ends) read := by
  have hunread := h.unread
  have hbegin : x.begin .ends = { x with client := x.client.finish } := rfl
  rw [hbegin, Arrived.step, finish, hunread]
  refine { h with lines := ?_, unread := rfl, ended := rfl }
  have hlines := h.lines
  cases harrived : arrived.ended with
  | true => simpa [Arrived.lines, harrived] using hlines
  | false =>
    rw [Arrived.lines, harrived] at hlines
    simp only [Arrived.lines, Text.allLines, if_true, Bool.false_eq_true, if_false] at hlines ⊢
    rw [hlines, List.append_assoc]
    split <;> simp

theorem counted_concat (h : x.Follows arrived read) (command : Command) :
    (x.sent ++ [Request.new x.client.nextId command]).map Request.id =
        (List.range (x.sent.length + 1)).map (fun k => UInt64.ofNat (k + 1)) ∧
      x.client.nextId + 1 = UInt64.ofNat (x.sent.length + 1 + 1) := by
  rw [List.map_append, h.counted, List.range_succ, List.map_append, List.map_singleton,
    List.map_singleton, UInt64.ofNat_add (x.sent.length + 1) 1, ← h.nextId]
  exact ⟨rfl, rfl⟩

theorem ids_of_idle (h : x.Follows arrived read) (hidle : x.waiting = none) :
    x.outcomes.filterMap Outcome.id? = x.sent.map Request.id := by
  have hids := h.ids
  rwa [hidle, Option.bind_none, Option.toList_none, List.append_nil] at hids

theorem sends (h : x.Follows arrived read) (hidle : x.waiting = none) (command : Command) :
    (x.begin (.sends command)).Follows arrived read := by
  obtain ⟨hcounted, hnext⟩ := h.counted_concat command
  refine { h with ids := ?_, counted := ?_, nextId := ?_ }
  · change x.outcomes.filterMap Outcome.id? ++ [x.client.nextId] = _
    rw [h.ids_of_idle hidle, begin, List.map_append]
    rfl
  · rw [begin, List.length_append, List.length_singleton]
    exact hcounted
  · rw [begin, List.length_append, List.length_singleton]
    exact hnext

theorem loses (h : x.Follows arrived read) (hidle : x.waiting = none) (command : Command) :
    (x.begin (.loses command)).Follows arrived read := by
  obtain ⟨hcounted, hnext⟩ := h.counted_concat command
  refine { h with events := ?_, matched := ?_, ids := ?_, counted := ?_, nextId := ?_ }
  · change List.filterMap Outcome.event? (x.outcomes ++ [.responded x.client.nextId (.error .io)]) ++
      x.client.events = _
    rw [List.filterMap_append, List.filterMap_cons_none (by rfl), List.filterMap_nil, List.append_nil,
      h.events]
  · intro id r hmem
    obtain hmem | hmem := List.mem_append.mp hmem
    · exact h.matched id r hmem
    · simp at hmem
  · change List.filterMap Outcome.id? (x.outcomes ++ [.responded x.client.nextId (.error .io)]) ++
      (x.waiting.bind Wait.id?).toList = _
    rw [hidle, List.filterMap_append, h.ids_of_idle hidle, begin, List.map_append, Option.bind_none,
      Option.toList_none, List.append_nil]
    rfl
  · rw [begin, List.length_append, List.length_singleton]
    exact hcounted
  · rw [begin, List.length_append, List.length_singleton]
    exact hnext

theorem asks (h : x.Follows arrived read) (hidle : x.waiting = none) :
    (x.begin .asks).Follows arrived read := by
  refine { h with ids := ?_ }
  change x.outcomes.filterMap Outcome.id? ++ [] = x.sent.map Request.id
  rw [h.ids_of_idle hidle, List.append_nil]

theorem begin (h : x.Follows arrived read) {move : Move} (hmay : x.MayStep move) :
    (x.begin move).Follows (arrived.step move) read := by
  cases move with
  | arrives bytes => exact h.arrives bytes
  | ends => exact h.ends
  | sends command => exact h.sends hmay command
  | loses command => exact h.loses hmay command
  | asks => exact h.asks hmay

structure Answers (new : List (List UInt8)) (before after : Conversation) : Prop where
  starved : after.Starved
  response : ∀ line ∈ new, ∀ r, readLine line = .ok (.response r) →
    after.client.events = before.client.events ++ eventsOf new ∧
    ∃ wait : Wait, after.outcomes = before.outcomes ++ [wait.meet r] ∧
      (wait = .event → new = [line])

theorem resume (h : x.Follows arrived read) :
    ∃ new, x.resume.Follows arrived (read ++ new) ∧ Answers new x x.resume := by
  cases hwaiting : x.waiting with
  | none =>
    rw [resume_of_idle hwaiting]
    refine ⟨[], by rwa [List.append_nil], ?_, nofun⟩
    intro wait hwait
    rw [hwaiting] at hwait
    cases hwait
  | some wait =>
    obtain ⟨new, rest, queue, outcome, hcut, hreads, hstarved, hresume⟩ := resume_reads hwaiting
    have hids := h.ids
    rw [hwaiting] at hids
    have hlines : arrived.lines = read ++ new ++ rest := by
      rw [h.lines, hcut, List.append_assoc]
    have hbalance : x.outcomes.filterMap Outcome.event? ++
        ((outcome.bind Outcome.event?).toList ++ queue) = eventsOf (read ++ new) := by
      rw [hreads.balance, ← List.append_assoc, h.events, eventsOf, eventsOf, eventsOf,
        List.filterMap_append]
    rw [hresume]
    cases outcome with
    | none =>
      obtain ⟨hrest, hended⟩ := hstarved rfl
      refine ⟨new, { h with lines := hlines, events := hbalance, ids := hids }, ?_, ?_⟩
      · rintro other hopen
        cases hopen
        refine ⟨hrest, hended, ?_⟩
        rintro rfl
        exact hreads.queue_eq_nil
      · exact fun line hline r hr => nomatch (hreads.of_response hline hr).1
    | some outcome =>
      refine ⟨new, { h with lines := hlines, events := ?_, matched := ?_, ids := ?_ }, nofun, ?_⟩
      · change (x.outcomes ++ [outcome]).filterMap Outcome.event? ++ queue = _
        rw [← hbalance, List.filterMap_append, filterMap_singleton, List.append_assoc]
        rfl
      · intro id r hmem
        obtain hmem | hmem := List.mem_append.mp hmem
        · exact h.matched id r hmem
        · exact hreads.id_eq (congrArg some (List.mem_singleton.mp hmem).symm)
      · change (x.outcomes ++ [outcome]).filterMap Outcome.id? ++ [] = _
        rw [List.append_nil, List.filterMap_append, filterMap_singleton, hreads.id?_eq rfl]
        exact hids
      · intro line hline r hr
        obtain ⟨houtcome, halone⟩ := hreads.of_response hline hr
        refine ⟨hreads.queue_of_response hline hr, wait, ?_, halone⟩
        rw [← Option.some.inj houtcome]
        rfl

theorem step (h : x.Follows arrived read) (hstarved : x.Starved) (move : Move) :
    ∃ new, (x.step move).Follows (arrived.step move) (read ++ new) ∧
      Answers new x (x.step move) := by
  by_cases hmay : x.MayStep move
  · obtain ⟨new, hfollows, hanswers⟩ := (h.begin hmay).resume
    rw [step_of_mayStep hmay]
    refine ⟨new, hfollows, hanswers.starved, fun line hline r hr => ?_⟩
    obtain ⟨hevents, wait, houtcomes, halone⟩ := hanswers.response line hline r hr
    rw [events_begin] at hevents
    obtain hbegin | hbegin := outcomes_begin hmay
    · exact ⟨hevents, wait, hbegin ▸ houtcomes, halone⟩
    · rw [hbegin] at houtcomes
      simp at houtcomes
  · rw [step_of_not_mayStep hmay]
    refine ⟨[], ?_, hstarved, nofun⟩
    rw [List.append_nil, arrived_step_of_not_mayStep hmay]
    exact h

end Follows

theorem follows_new : Follows ⟨[], false⟩ [] new :=
  ⟨rfl, rfl, rfl, rfl, nofun, rfl, rfl, rfl⟩

def linesRead (moves : List Move) : List (List UInt8) :=
  (Arrived.after moves).lines.take
    ((Arrived.after moves).lines.length - (run moves).client.lines.length)

theorem Follows.linesRead_eq {moves : List Move} {read : List (List UInt8)}
    (h : (run moves).Follows (Arrived.after moves) read) : linesRead moves = read := by
  rw [linesRead, h.lines, List.length_append, Nat.add_sub_cancel, List.take_left]

theorem follows_run (moves : List Move) :
    (run moves).Follows (Arrived.after moves) (linesRead moves) ∧ (run moves).Starved := by
  induction moves using List.reverseRecOn with
  | nil => exact ⟨follows_new, nofun⟩
  | append_singleton moves move ih =>
    obtain ⟨new, hfollows, hanswers⟩ := ih.1.step ih.2 move
    rw [← run_concat, ← Arrived.after_concat] at hfollows
    rw [hfollows.linesRead_eq, run_concat]
    exact ⟨by rwa [run_concat] at hfollows, hanswers.starved⟩

theorem nodup_numbers {n : Nat} (h : n < UInt64.size) :
    ((List.range n).map fun k => UInt64.ofNat (k + 1)).Nodup := by
  refine List.Nodup.map_on (fun j hj k hk hsame => ?_) List.nodup_range
  rw [List.mem_range] at hj hk
  have hsame := congrArg UInt64.toNat hsame
  rw [UInt64.toNat_ofNat_of_lt' (by omega), UInt64.toNat_ofNat_of_lt' (by omega)] at hsame
  omega

/-- A client in any conversation. The lines read so far are the first of those that have arrived. The
events handed out, and after them those set aside, are the events among the lines read, in order and each
once. Only a response with the id of the request is a success, and the calls to send took the ids
1, 2, 3 and so on, in 64 bits, whatever came of them. A call that is still open has found nothing for it.
A response that is read ends the call that reads it: with success if it has the id that is waited for, and
otherwise as an invalid message. The queue keeps what it held, and has gained the events that were read in
front of the response, of which there are none if an event was asked for. -/
theorem conversation_history (moves : List Move) :
    let x := run moves
    linesRead moves ++ x.client.lines = (Arrived.after moves).lines ∧
    x.outcomes.filterMap Outcome.event? ++ x.client.events = eventsOf (linesRead moves) ∧
    (∀ id r, .responded id (.ok r) ∈ x.outcomes → r.id = id) ∧
    x.outcomes.filterMap Outcome.id? ++ (x.waiting.bind Wait.id?).toList = x.sent.map Request.id ∧
    x.sent.map Request.id = (List.range x.sent.length).map (fun k => UInt64.ofNat (k + 1)) ∧
    (x.sent.length < UInt64.size → (x.sent.map Request.id).Nodup) ∧
    (∀ wait, x.waiting = some wait → x.client.lines = [] ∧ x.client.ended = false ∧
      (wait = .event → x.client.events = [])) ∧
    ∀ move new, linesRead (moves ++ [move]) = linesRead moves ++ new →
      ∀ line ∈ new, ∀ r, readLine line = .ok (.response r) →
      let y := run (moves ++ [move])
      y.client.events = x.client.events ++ eventsOf new ∧
      ((∃ id, r.id = id ∧ y.outcomes = x.outcomes ++ [.responded id (.ok r)]) ∨
        (∃ id why, r.id ≠ id ∧
          y.outcomes = x.outcomes ++ [.responded id (.error (.invalidMessage why))]) ∨
        (∃ why, y.outcomes = x.outcomes ++ [.noticed (.error (.invalidMessage why))]) ∧
          y.client.events = x.client.events) := by
  obtain ⟨h, hstarved⟩ := follows_run moves
  refine ⟨h.lines.symm, h.events, h.matched, h.ids, h.counted, fun hsmall => ?_, hstarved, ?_⟩
  · rw [h.counted]
    exact nodup_numbers hsmall
  · intro move new hnew line hline r hr
    obtain ⟨read, hfollows, hanswers⟩ := h.step hstarved move
    rw [← run_concat, ← Arrived.after_concat] at hfollows
    rw [hfollows.linesRead_eq, List.append_cancel_left_eq] at hnew
    subst hnew
    obtain ⟨hevents, wait, houtcomes, halone⟩ := hanswers.response line hline r hr
    rw [← run_concat] at houtcomes hevents
    refine ⟨hevents, ?_⟩
    rw [houtcomes]
    cases wait with
    | event =>
      refine .inr (.inr ⟨⟨_, rfl⟩, ?_⟩)
      rw [hevents, halone rfl, eventsOf_response hr, List.append_nil]
    | response id =>
      by_cases hid : r.id = id
      · exact .inl ⟨id, hid, by rw [Wait.meet, if_pos hid]⟩
      · exact .inr (.inl ⟨id, _, hid, by rw [Wait.meet, if_neg hid]; rfl⟩)

end Conversation

end ResourceBroker.Client
