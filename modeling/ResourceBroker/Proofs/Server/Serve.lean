import ResourceBroker.Proofs.Server.Stream
import ResourceBroker.RequestHandler.Journal

/-!
What serving a request and closing a connection change: the table of connections, what was written to
others, and the calls of the handler.
-/

namespace ResourceBroker

def Command.call? (connection : ConnectionId) : Command → Option HandlerCall
  | .register definition => some (.register connection definition)
  | .deregister token => some (.deregister connection token)
  | .addInstances token path ids => some (.addInstances connection token path ids)
  | .removeInstances token path ids => some (.removeInstances connection token path ids)
  | .setValues token operations => some (.setValues token operations)
  | .getValues token operations => some (.getValues token operations)
  | .ping => none

/-- The calls that a request makes. One of another version makes none. -/
def Request.calls (connection : ConnectionId) (request : Request) : List HandlerCall :=
  if request.version ≠ apiVersion then [] else (request.command.call? connection).toList

def HandlerCall.connection? : HandlerCall → Option ConnectionId
  | .register c _ | .deregister c _ | .addInstances c _ _ _ | .removeInstances c _ _ _
  | .connectionClosed c => some c
  | .setValues _ _ | .getValues _ _ => none

theorem Request.connection_of_mem_calls {c d : ConnectionId} {request : Request} {call : HandlerCall}
    (h : call ∈ request.calls c) (hd : call.connection? = some d) : d = c := by
  unfold Request.calls at h
  split at h
  · cases h
  · rw [Option.mem_toList] at h
    cases hcommand : request.command <;> rw [hcommand] at h <;> cases h <;> cases hd <;> rfl

theorem Request.connectionClosed_notMem_calls {c d : ConnectionId} (request : Request) :
    .connectionClosed d ∉ request.calls c := by
  unfold calls
  cases request.command <;> split <;> simp [Command.call?]

variable {σ : Type}

/-- With a journal a request is answered as without, in whatever state the handler is, and its calls are
entered. -/
theorem RequestHandler.dispatch_journaled (handler : TellingHandler σ) (connection : ConnectionId)
    (request : Request) (owner : σ) (calls : List HandlerCall) :
    handler.journaled.dispatch connection request (owner, calls) =
      (fun told => (told.1, told.2, calls ++ request.calls connection)) <$>
        handler.dispatch connection request owner := by
  obtain ⟨id, version, command⟩ := request
  rw [dispatch, dispatch, Request.calls]
  split
  · rw [List.append_nil]
    rfl
  · cases command with
    | register definition => rfl
    | deregister token => rfl
    | addInstances token path ids => rfl
    | removeInstances token path ids => rfl
    | setValues token operations => rfl
    | getValues token operations => rfl
    | ping =>
      rw [Command.call?, Option.toList_none, List.append_nil]
      rfl

namespace SocketAdapter

variable {a : SocketAdapter}

theorem push_frame (pushes : List Push) (a : SocketAdapter) :
    ∃ sent, pushes.foldl (fun a p => (a.push p.1 p.2).1) a = { a with sent := sent } := by
  induction pushes generalizing a with
  | nil => exact ⟨a.sent, rfl⟩
  | cons p pushes ih =>
    rw [List.foldl_cons]
    by_cases hp : a.isClient p.1
    · obtain ⟨sent, hsent⟩ := ih (a.push p.1 p.2).1
      refine ⟨sent, hsent.trans ?_⟩
      simp [push, hp, send]
    · obtain ⟨sent, hsent⟩ := ih a
      refine ⟨sent, ?_⟩
      rw [← hsent]
      simp [push, hp]

theorem stream_send (connection other : ConnectionId) (message : Outbound) :
    (a.send connection message).stream other =
      a.stream other ++ if connection = other then [message] else [] := by
  by_cases h : connection = other <;> simp [stream, send, List.filter_append, h]

theorem stream_push {other : ConnectionId} (pushes : List Push) (h : a.isClient other = false) :
    (pushes.foldl (fun a p => (a.push p.1 p.2).1) a).stream other = a.stream other := by
  induction pushes generalizing a with
  | nil => rfl
  | cons p pushes ih =>
    rw [List.foldl_cons]
    by_cases hp : a.isClient p.1
    · have hother : p.1 ≠ other := by
        rintro rfl
        rw [hp] at h
        cases h
      rw [push, if_pos hp, ih (by exact h), stream_send, if_neg hother, List.append_nil]
    · rw [push, if_neg hp, ih h]

end SocketAdapter

namespace Server

section Frame

variable {handler : TellingHandler σ} {connection other : ConnectionId} {s : Server σ}

theorem perform_frame {β : Type} (step : StateT σ Telling β) (s : Server σ) :
    ∃ sent, (perform step s).2.adapter = { s.adapter with sent := sent } :=
  SocketAdapter.push_frame _ s.adapter

theorem adapter_answer (handler : TellingHandler σ) (connection : ConnectionId) (request : Request)
    (s : Server σ) :
    (s.answer handler connection request).adapter =
      (perform (handler.dispatch connection request) s).2.adapter.send connection
        (.response (perform (handler.dispatch connection request) s).1) := rfl

theorem serve_frame (handler : TellingHandler σ) (connection : ConnectionId) (request : Request)
    (s : Server σ) :
    ∃ sent, (s.serve handler connection request).adapter = { s.adapter with sent := sent } := by
  unfold serve
  split
  · obtain ⟨sent, hsent⟩ := perform_frame (handler.dispatch connection request) s
    exact ⟨_, by rw [adapter_answer, hsent, SocketAdapter.send]⟩
  · split
    · exact ⟨_, rfl⟩
    · exact ⟨_, rfl⟩

theorem foldl_serve_frame (handler : TellingHandler σ) (connection : ConnectionId)
    (requests : List Request) (s : Server σ) :
    ∃ sent, (requests.foldl (fun s r => s.serve handler connection r) s).adapter =
      { s.adapter with sent := sent } := by
  induction requests generalizing s with
  | nil => exact ⟨_, rfl⟩
  | cons request requests ih =>
    obtain ⟨sent, hsent⟩ := serve_frame handler connection request s
    obtain ⟨later, hlater⟩ := ih (s.serve handler connection request)
    rw [hsent] at hlater
    exact ⟨later, hlater⟩

theorem close_frame (handler : TellingHandler σ) (connection : ConnectionId) (s : Server σ) :
    ∃ sent, (s.close handler connection).adapter =
      { s.adapter.remove connection with sent := sent } := by
  unfold close
  split
  · exact perform_frame (handler.connectionClosed connection) _
  · exact ⟨_, rfl⟩

theorem stream_serve (request : Request) (h : s.adapter.isClient other = false) :
    (s.serve handler connection request).adapter.stream other =
      s.adapter.stream other ++
        if connection = other ∧ s.adapter.isRefused connection then [.response (refuse request)]
        else [] := by
  unfold serve
  split
  · next hclient =>
    have hother : connection ≠ other := by
      rintro rfl
      rw [hclient] at h
      cases h
    rw [adapter_answer, SocketAdapter.stream_send, if_neg hother, if_neg (by simp [hother])]
    exact congrArg (· ++ []) (SocketAdapter.stream_push _ h)
  · split
    · next hrefused => simp [SocketAdapter.stream_send, hrefused]
    · next hrefused => simp [hrefused]

theorem stream_foldl_serve (requests : List Request) (h : s.adapter.isClient other = false) :
    (requests.foldl (fun s r => s.serve handler connection r) s).adapter.stream other =
      s.adapter.stream other ++
        if connection = other ∧ s.adapter.isRefused connection then
          requests.map fun r => .response (refuse r)
        else [] := by
  induction requests generalizing s with
  | nil => simp
  | cons request requests ih =>
    obtain ⟨sent, hsent⟩ := serve_frame handler connection request s
    have hrest := @ih (s.serve handler connection request) (by rw [hsent]; exact h)
    rw [List.foldl_cons, hrest, stream_serve request h, hsent, List.append_assoc]
    by_cases hc : connection = other ∧ s.adapter.isRefused connection
    · rw [if_pos hc, if_pos (by exact hc), if_pos hc, List.map_cons, List.singleton_append]
    · rw [if_neg hc, if_neg (by exact hc), if_neg hc, List.append_nil]

theorem stream_close (h : s.adapter.isClient other = false) :
    (s.close handler connection).adapter.stream other = s.adapter.stream other := by
  have hother : (s.adapter.remove connection).isClient other = false := by
    simp only [SocketAdapter.isClient, List.any_eq_false, decide_eq_true_eq] at h
    simpa [SocketAdapter.isClient, SocketAdapter.remove] using fun p hp _ => h p hp
  unfold close
  split
  · exact SocketAdapter.stream_push _ hother
  · rfl

end Frame

/-! The journal. -/

variable {handler : TellingHandler σ} {connection : ConnectionId}
  {s : Server (σ × List HandlerCall)}

theorem calls_serve (request : Request) :
    (s.serve handler.journaled connection request).owner.2 =
      s.owner.2 ++ if s.adapter.isClient connection then request.calls connection else [] := by
  unfold serve
  split
  · exact congrArg (fun told => told.value.2.2)
      (handler.dispatch_journaled connection request s.owner.1 s.owner.2)
  · split <;> simp

theorem calls_foldl_serve (requests : List Request) :
    (requests.foldl (fun s r => s.serve handler.journaled connection r) s).owner.2 =
      s.owner.2 ++ if s.adapter.isClient connection then
        requests.flatMap fun r => r.calls connection else [] := by
  induction requests generalizing s with
  | nil => simp
  | cons request requests ih =>
    obtain ⟨sent, hsent⟩ := serve_frame handler.journaled connection request s
    have hclient : (s.serve handler.journaled connection request).adapter.isClient connection =
        s.adapter.isClient connection := by
      rw [hsent]
      rfl
    rw [List.foldl_cons, ih, calls_serve, hclient, List.append_assoc]
    split <;> simp

theorem calls_close :
    (s.close handler.journaled connection).owner.2 =
      s.owner.2 ++ if s.adapter.isClient connection then [.connectionClosed connection] else [] := by
  unfold close
  split
  · rfl
  · simp

end Server
end ResourceBroker
