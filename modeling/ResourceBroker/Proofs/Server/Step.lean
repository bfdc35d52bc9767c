import ResourceBroker.Proofs.Server.History

/-!
One event at a socket, as long as lines are text: what it does to the table of connections, which calls
it makes, and what it writes to connections that are no clients.
-/

namespace ResourceBroker

variable {σ : Type} {c : ConnectionId}

namespace Server

def step (handler : TellingHandler σ) (s : Server σ) : ConnectionEvent → Server σ
  | .opens c user => match s.adapter.accept? c user with
    | some adapter => { s with adapter := adapter }
    | none => s
  | .writes c bytes => s.receive handler c bytes
  | .hangsUp c => s.hangUp handler c
  | .isTold c status => { s with adapter := (s.adapter.push c status).1 }

def newLines (s : Server σ) : ConnectionEvent → List (List UInt8)
  | .writes c bytes => match s.adapter.peer? c with
    | some p => (Text.splitLines (p.unread ++ bytes)).1
    | none => []
  | .hangsUp c => match s.adapter.peer? c with
    | some p => if p.unread.isEmpty then [] else [p.unread]
    | none => []
  | .opens _ _ | .isTold _ _ => []

def newRequests (s : Server σ) (e : ConnectionEvent) : List Request :=
  (s.newLines e).filterMap request?

/-- The calls that an event makes: none unless the connection is a client. -/
def newCalls (s : Server σ) (e : ConnectionEvent) : List HandlerCall :=
  if s.adapter.isClient e.connection then
    (s.newRequests e).flatMap (fun r => r.calls e.connection) ++ match e with
      | .hangsUp c => [.connectionClosed c]
      | _ => []
  else []

theorem newCalls_of_not_isClient {s : Server σ} {e : ConnectionEvent}
    (h : s.adapter.isClient e.connection = false) : s.newCalls e = [] := by
  unfold newCalls
  rw [h]
  rfl

end Server

namespace SocketAdapter

def after (a : SocketAdapter) : ConnectionEvent → SocketAdapter
  | .opens c user => (a.accept? c user).getD a
  | .writes c bytes => match a.peer? c with
    | some p => a.keep c (Text.splitLines (p.unread ++ bytes)).2
    | none => a
  | .hangsUp c => a.remove c
  | .isTold _ _ => a

end SocketAdapter

namespace Server

theorem receive_of_text {handler : TellingHandler σ} {s : Server σ} {p : Peer}
    (hpeer : s.adapter.peer? c = some p) {bytes : List UInt8}
    (htext : ∀ line ∈ s.newLines (.writes c bytes), (Text.lineText? line).isSome) :
    s.step handler (.writes c bytes) =
      ((s.newRequests (.writes c bytes)).foldl (fun s r => s.serve handler c r) s).keep c
        (Text.splitLines (p.unread ++ bytes)).2 := by
  simp only [newRequests, newLines, hpeer] at htext ⊢
  rw [step, receive_eq hpeer, foldl_readLine htext]

theorem hangUp_of_text {handler : TellingHandler σ} {s : Server σ} {p : Peer}
    (hpeer : s.adapter.peer? c = some p)
    (htext : ∀ line ∈ s.newLines (.hangsUp c), (Text.lineText? line).isSome) :
    s.step handler (.hangsUp c) =
      ((s.newRequests (.hangsUp c)).foldl (fun s r => s.serve handler c r) s).close handler c := by
  simp only [newRequests, newLines, hpeer] at htext ⊢
  rw [step, hangUp_eq hpeer, foldl_readLine htext]

/-- An event changes the table of connections and what was sent, and nothing else about the adapter. -/
theorem step_frame (handler : TellingHandler σ) {s : Server σ} {e : ConnectionEvent}
    (htext : ∀ line ∈ s.newLines e, (Text.lineText? line).isSome) :
    ∃ sent, (s.step handler e).adapter = { s.adapter.after e with sent := sent } := by
  cases e with
  | opens c user =>
    cases haccept : s.adapter.accept? c user with
    | none => exact ⟨s.adapter.sent, by simp [step, SocketAdapter.after, haccept]⟩
    | some a => exact ⟨a.sent, by simp [step, SocketAdapter.after, haccept]⟩
  | writes c bytes =>
    cases hpeer : s.adapter.peer? c with
    | none => exact ⟨s.adapter.sent, by simp [step, receive, SocketAdapter.after, hpeer]⟩
    | some p =>
      obtain ⟨sent, hsent⟩ := foldl_serve_frame handler c (s.newRequests (.writes c bytes)) s
      refine ⟨sent, ?_⟩
      rw [receive_of_text hpeer htext, keep, hsent]
      simp [SocketAdapter.after, hpeer, SocketAdapter.keep]
  | hangsUp c =>
    cases hpeer : s.adapter.peer? c with
    | none =>
      refine ⟨s.adapter.sent, ?_⟩
      rw [SocketAdapter.after, SocketAdapter.remove_of_peer?_eq_none hpeer]
      simp [step, hangUp, hpeer]
    | some p =>
      obtain ⟨sent, hsent⟩ := foldl_serve_frame handler c (s.newRequests (.hangsUp c)) s
      obtain ⟨later, hlater⟩ := close_frame handler c
        ((s.newRequests (.hangsUp c)).foldl (fun s r => s.serve handler c r) s)
      refine ⟨later, ?_⟩
      rw [hangUp_of_text hpeer htext, hlater, hsent]
      rfl
  | isTold c status => exact SocketAdapter.push_frame [(c, status)] s.adapter

theorem calls_step (handler : TellingHandler σ) {s : Server (σ × List HandlerCall)}
    {e : ConnectionEvent} (htext : ∀ line ∈ s.newLines e, (Text.lineText? line).isSome) :
    (s.step handler.journaled e).owner.2 = s.owner.2 ++ s.newCalls e := by
  cases e with
  | opens c user =>
    cases haccept : s.adapter.accept? c user <;>
      simp [step, haccept, newCalls, newRequests, newLines]
  | writes c bytes =>
    cases hpeer : s.adapter.peer? c with
    | none =>
      simp [step, receive, newCalls, newRequests, newLines, hpeer]
    | some p =>
      rw [receive_of_text hpeer htext, keep, calls_foldl_serve]
      simp only [newCalls, List.append_nil]
      rfl
  | hangsUp c =>
    cases hpeer : s.adapter.peer? c with
    | none =>
      have hclient := SocketAdapter.isClient_of_peer?_eq_none hpeer
      simp [step, hangUp, newCalls, ConnectionEvent.connection, hpeer, hclient]
    | some p =>
      obtain ⟨sent, hsent⟩ :=
        foldl_serve_frame handler.journaled c (s.newRequests (.hangsUp c)) s
      have hclient : ((s.newRequests (.hangsUp c)).foldl
          (fun s r => s.serve handler.journaled c r) s).adapter.isClient c =
            s.adapter.isClient c := by
        rw [hsent]
        rfl
      rw [hangUp_of_text hpeer htext, calls_close, calls_foldl_serve, hclient, List.append_assoc,
        newCalls, ConnectionEvent.connection]
      split <;> simp
  | isTold c status => simp [step, newCalls, newRequests, newLines]

theorem stream_step (handler : TellingHandler σ) {s : Server σ} {e : ConnectionEvent}
    (htext : ∀ line ∈ s.newLines e, (Text.lineText? line).isSome)
    (hclient : s.adapter.isClient c = false) :
    (s.step handler e).adapter.stream c =
      s.adapter.stream c ++ if e.connection = c ∧ s.adapter.isRefused e.connection then
        (s.newRequests e).map fun r => .response (refuse r) else [] := by
  cases e with
  | opens d user =>
    have hstream (a : SocketAdapter) (h : s.adapter.accept? d user = some a) :
        a.stream c = s.adapter.stream c := by
      unfold SocketAdapter.accept? at h
      split_ifs at h <;> obtain rfl := Option.some.inj h <;> rfl
    cases haccept : s.adapter.accept? d user with
    | none => simp [step, haccept, newRequests, newLines]
    | some a => simp [step, haccept, hstream a haccept, newRequests, newLines]
  | writes d bytes =>
    cases hpeer : s.adapter.peer? d with
    | none => simp [step, receive, newRequests, newLines, hpeer]
    | some p =>
      rw [receive_of_text hpeer htext]
      exact stream_foldl_serve _ hclient
  | hangsUp d =>
    cases hpeer : s.adapter.peer? d with
    | none => simp [step, hangUp, newRequests, newLines, hpeer]
    | some p =>
      obtain ⟨sent, hsent⟩ := foldl_serve_frame handler d (s.newRequests (.hangsUp d)) s
      rw [hangUp_of_text hpeer htext, stream_close (by rw [hsent]; exact hclient)]
      exact stream_foldl_serve _ hclient
  | isTold d status =>
    have hpush := SocketAdapter.stream_push [(d, status)] hclient
    simpa [step, newRequests, newLines] using hpush

end Server
end ResourceBroker
