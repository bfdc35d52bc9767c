import ResourceBroker.Proofs.Server.Transcript

/-!
A server writes what the transcript of its events says, and its handler is in the state that the
transcript ends with. So every request of an admitted connection is answered once, in order and on that
connection, and every status that can be told is told there as well, with nothing lost in between.
-/

namespace ResourceBroker

open ConnectionEvent (held opened Admitted life IsText)
open Exchange (written)

variable {σ : Type} {c : ConnectionId} {places : List ConnectionId}

/-! Statuses. -/

namespace SocketAdapter

variable {a : SocketAdapter}

theorem push_of_places (hplaces : ∀ c, c ∈ places ↔ a.isClient c) (push : Push) :
    (a.push push.1 push.2).1 =
      { a with sent := a.sent ++ written a.clock [Transcript.tell places push] } := by
  rw [SocketAdapter.push, Transcript.tell]
  by_cases hclient : a.isClient push.1
  · rw [if_pos hclient, if_pos ((hplaces _).mpr hclient)]
    rfl
  · have hnothing : written a.clock
        [.tells push.1 push.2 (.error (.unknownConnection push.1))] = [] := rfl
    rw [if_neg hclient, if_neg (mt (hplaces _).mp hclient), hnothing, List.append_nil]

theorem foldl_push_of_places (hplaces : ∀ c, c ∈ places ↔ a.isClient c) (pushes : List Push) :
    pushes.foldl (fun a p => (a.push p.1 p.2).1) a =
      { a with sent := a.sent ++ written a.clock (pushes.map (Transcript.tell places)) } := by
  induction pushes generalizing a with
  | nil => simp [written]
  | cons push rest ih =>
    have hcons : written a.clock ((push :: rest).map (Transcript.tell places)) =
        written a.clock [Transcript.tell places push] ++
          written a.clock (rest.map (Transcript.tell places)) :=
      Exchange.written_append a.clock [_] _
    rw [List.foldl_cons, push_of_places hplaces, ih (by exact hplaces), hcons,
      ← List.append_assoc]

end SocketAdapter

namespace Server

/-- The server has written what was exchanged, and its handler has got as far. -/
structure Follows (start : SocketAdapter) (s : Server σ) (t : Transcript σ) : Prop where
  owner : s.owner = t.owner
  sent : s.adapter.sent = start.sent ++ written start.clock t.exchanges
  clock : s.adapter.clock = start.clock

namespace Follows

variable {handler : TellingHandler σ} {start : SocketAdapter} {s : Server σ} {t : Transcript σ}

theorem perform {β : Type} (h : Follows start s t) (hplaces : ∀ c, c ∈ places ↔ s.adapter.isClient c)
    (step : StateT σ Telling β) :
    (Server.perform step s).1 = (t.perform places step).1 ∧
      Follows start (Server.perform step s).2 (t.perform places step).2 := by
  rw [Server.perform, Transcript.perform, h.owner,
    SocketAdapter.foldl_push_of_places hplaces]
  refine ⟨rfl, rfl, ?_, h.clock⟩
  dsimp only
  rw [h.sent, h.clock, Exchange.written_append, List.append_assoc]

theorem serve (h : Follows start s t) (hplaces : ∀ c, c ∈ places ↔ s.adapter.isClient c)
    (hrefused : c ∉ places → s.adapter.isRefused c) (request : Request) :
    Follows start (s.serve handler c request) (t.serve handler places c request) := by
  by_cases hc : c ∈ places
  · obtain ⟨hresponse, hfollows⟩ := h.perform hplaces (handler.dispatch c request)
    rw [Server.serve, if_pos ((hplaces c).mp hc), Transcript.serve, if_pos hc]
    refine ⟨hfollows.owner, ?_, hfollows.clock⟩
    rw [adapter_answer, SocketAdapter.send, hfollows.sent, hresponse, Exchange.written_append,
      List.append_assoc]
    rfl
  · rw [Server.serve, if_neg (mt (hplaces c).mpr hc), if_pos (hrefused hc), Transcript.serve,
      if_neg hc]
    refine ⟨h.owner, ?_, h.clock⟩
    rw [SocketAdapter.send, h.sent, Exchange.written_append, List.append_assoc]
    rfl

theorem foldl_serve (hplaces : ∀ c, c ∈ places ↔ s.adapter.isClient c)
    (hrefused : c ∉ places → s.adapter.isRefused c) (requests : List Request) :
    Follows start s t →
    Follows start (requests.foldl (fun s r => s.serve handler c r) s)
      (requests.foldl (Transcript.serve handler places c) t) := by
  induction requests generalizing s t with
  | nil => exact id
  | cons request rest ih =>
    intro h
    obtain ⟨sent, hsent⟩ := serve_frame handler c request s
    refine ih ?_ ?_ (h.serve hplaces hrefused request)
    · rw [hsent]
      exact hplaces
    · rw [hsent]
      exact hrefused

theorem close (h : Follows start s t) (hplaces : ∀ d, d ∈ places ↔ s.adapter.isClient d) :
    Follows start (s.close handler c)
      (if c ∈ places then
        (t.perform (places.filter (· ≠ c)) (handler.connectionClosed c)).2 else t) := by
  have hrest : Follows start { s with adapter := s.adapter.remove c } t :=
    ⟨h.owner, h.sent, h.clock⟩
  unfold Server.close
  by_cases hc : c ∈ places
  · rw [if_pos hc, if_pos ((hplaces c).mp hc)]
    refine (hrest.perform (fun d => ?_) _).2
    rw [List.mem_filter, hplaces, SocketAdapter.isClient_remove, Bool.and_eq_true]
  · rw [if_neg hc, if_neg (mt (hplaces c).mpr hc)]
    exact hrest

end Follows

section

variable {handler : TellingHandler σ} {start : SocketAdapter} {events : List ConnectionEvent}
  {e : ConnectionEvent} {w : Watched σ} {t : Transcript σ}

theorem newRequests_eq_completed (hkept : PlacesKept start events w) (hopen : e.opened? = none) :
    w.server.forget.newRequests e = e.completed events := by
  obtain ⟨user, hpeer⟩ := hkept.peer? e.connection
  have hrequests := @requests_after σ e.connection w.server.forget e user _ hpeer rfl hopen
  rw [ConnectionEvent.completed, life_append_singleton, hrequests, List.drop_left]

theorem mem_held_iff_isClient (hkept : PlacesKept start events w) (c : ConnectionId) :
    c ∈ held start.maxConnections events ↔ w.server.forget.adapter.isClient c :=
  hkept.mem_held_iff

theorem follows_served (hkept : PlacesKept start events w) (hopen : e.opened? = none)
    (h : Follows start w.server.forget t) :
    Follows start
      ((w.server.forget.newRequests e).foldl (fun s r => s.serve handler e.connection r)
        w.server.forget)
      ((e.completed events).foldl
        (Transcript.serve handler (held start.maxConnections events) e.connection) t) := by
  rw [← newRequests_eq_completed hkept hopen]
  cases hpeer : w.server.forget.adapter.peer? e.connection with
  | none =>
    rw [newRequests_of_gone hpeer]
    exact h
  | some p =>
    refine Follows.foldl_serve (mem_held_iff_isClient hkept) (fun hno => ?_) _ h
    refine SocketAdapter.isRefused_of_peer? hpeer ?_
    rw [← Bool.not_eq_true]
    exact mt (mem_held_iff_isClient hkept _).mpr hno

theorem Follows.writes {bytes : List UInt8} (hkept : PlacesKept start events w)
    (hlines : ∀ line ∈ w.server.forget.newLines (.writes c bytes), (Text.lineText? line).isSome)
    (h : Follows start w.server.forget t) :
    Follows start (w.server.forget.step handler (.writes c bytes))
      (t.step handler start.maxConnections events (.writes c bytes)) := by
  have hserved := @follows_served _ handler _ _ (.writes c bytes) _ _ hkept rfl h
  rw [Transcript.step]
  cases hpeer : w.server.forget.adapter.peer? c with
  | none =>
    have hnone : w.server.forget.newRequests (.writes c bytes) = [] := newRequests_of_gone hpeer
    rw [hnone, List.foldl_nil] at hserved
    rw [Server.step, receive, hpeer]
    exact hserved
  | some p =>
    rw [receive_of_text hpeer hlines]
    exact ⟨hserved.owner, hserved.sent, hserved.clock⟩

theorem Follows.hangsUp (hkept : PlacesKept start events w)
    (hlines : ∀ line ∈ w.server.forget.newLines (.hangsUp c), (Text.lineText? line).isSome)
    (h : Follows start w.server.forget t) :
    Follows start (w.server.forget.step handler (.hangsUp c))
      (t.step handler start.maxConnections events (.hangsUp c)) := by
  have hserved := @follows_served _ handler _ _ (.hangsUp c) _ _ hkept rfl h
  rw [Transcript.step]
  cases hpeer : w.server.forget.adapter.peer? c with
  | none =>
    have hnone : w.server.forget.newRequests (.hangsUp c) = [] := newRequests_of_gone hpeer
    have hno : c ∉ held start.maxConnections events := by
      rw [mem_held_iff_isClient hkept, SocketAdapter.isClient_of_peer?_eq_none hpeer]
      exact Bool.false_ne_true
    rw [hnone, List.foldl_nil] at hserved
    rw [Server.step, hangUp, hpeer, if_neg hno]
    exact hserved
  | some p =>
    obtain ⟨sent, hsent⟩ := foldl_serve_frame handler (ConnectionEvent.hangsUp c).connection
      (w.server.forget.newRequests (.hangsUp c)) w.server.forget
    rw [hangUp_of_text hpeer hlines, ConnectionEvent.held_append_singleton]
    refine hserved.close fun d => ?_
    rw [hsent]
    exact mem_held_iff_isClient hkept d

theorem Follows.step (hkept : PlacesKept start events w) (htext : IsText (events ++ [e]))
    (h : Follows start w.server.forget t) :
    Follows start (w.server.forget.step handler e)
      (t.step handler start.maxConnections events e) := by
  have hlines : ∀ line ∈ w.server.forget.newLines e, (Text.lineText? line).isSome :=
    hkept.text htext
  cases e with
  | opens c user =>
    rw [Server.step, Transcript.step, SocketAdapter.accept?]
    split_ifs <;> exact ⟨h.owner, h.sent, h.clock⟩
  | writes c bytes => exact h.writes hkept hlines
  | hangsUp c => exact h.hangsUp hkept hlines
  | isTold c status =>
    have hpush := SocketAdapter.push_of_places (mem_held_iff_isClient hkept) (c, status)
    rw [Server.step, hpush, Transcript.step]
    refine ⟨h.owner, ?_, h.clock⟩
    rw [Exchange.written_append, ← List.append_assoc, ← h.sent, h.clock]

end
end Server

structure InDialogue (handler : TellingHandler σ) (start : SocketAdapter)
    (events : List ConnectionEvent) (s : Server σ) (t : Transcript σ) : Prop where
  follows : s.Follows start t
  requests (c : ConnectionId) : t.requestsOn c = (life c events).requests
  fits : t.Fits handler start.maxConnections events

theorem InDialogue.run (handler : TellingHandler σ) {start : SocketAdapter} (owner : σ)
    {events : List ConnectionEvent} (hloop : start.loop = .running) (hclients : start.clients = [])
    (hrefused : start.refused = []) (hopened : (opened events).Nodup) (htext : IsText events) :
    InDialogue handler start events (Watched.run handler start owner events).server.forget
      (Transcript.ofEvents handler start.maxConnections owner events) := by
  induction events using List.reverseRecOn with
  | nil => exact ⟨⟨rfl, (List.append_nil start.sent).symm, rfl⟩, fun _ => rfl, nofun⟩
  | append_singleton events e ih =>
    have hbefore := ConnectionEvent.nodup_opened_of_append hopened
    have hkept : PlacesKept start events (Watched.run handler start owner events) :=
      .run handler owner hloop hclients hrefused hbefore htext.of_append
    have hdialogue := ih hbefore htext.of_append
    have hstep : (Watched.run handler start owner (events ++ [e])).server.forget =
        (Watched.run handler start owner events).server.forget.step handler e := by
      rw [Watched.run_append_singleton]
      exact Server.step_forget e _
    rw [hstep, Transcript.ofEvents_concat]
    refine ⟨hdialogue.follows.step hkept htext, fun c => ?_, ?_⟩
    · exact Transcript.requestsOn_step (hdialogue.requests c) e
    · exact hdialogue.fits.step (fun c => hkept.mem_held_iff.trans hkept.isClient_iff) hopened

/-- What a transcript of the events has to do with what was written: the handler is where the exchanges
have brought it, and everything that was written belongs to one. Every line of a connection that holds a
request has one, in order. Of these, admitted connections are answered and the others refused, and a
status is told to a connection that is admitted and open, and to no other. -/
structure Transcribes (handler : TellingHandler σ) (start : SocketAdapter)
    (events : List ConnectionEvent) (s : Server σ) (t : Transcript σ) : Prop where
  owner : s.owner = t.owner
  sent : s.adapter.sent = start.sent ++ written start.clock t.exchanges
  stream : ∀ c, s.adapter.stream c = start.stream c ++
    (written start.clock (t.exchanges.filter fun x => x.connection = c)).map Prod.snd
  requests : ∀ c, t.exchanges.filterMap (Exchange.requestOn? c) = (life c events).requests
  fits : ∀ x ∈ t.exchanges, x.Fits handler start.maxConnections events
  push : ∀ c status, s.adapter.push c status =
    if Admitted start.maxConnections events c ∧ (life c events).isOpen then
      (s.adapter.send c (.event (.new start.clock (.registrationUpdated status))), .ok ())
    else (s.adapter, .error (.unknownConnection c))

theorem dialogue_history (handler : TellingHandler σ) (start : SocketAdapter) (owner : σ)
    (events : List ConnectionEvent) (hloop : start.loop = .running) (hclients : start.clients = [])
    (hrefused : start.refused = []) (hopened : (opened events).Nodup) (htext : IsText events) :
    Transcribes handler start events (events.foldl (Server.step handler) ⟨start, owner⟩)
      (Transcript.ofEvents handler start.maxConnections owner events) := by
  have hkept : PlacesKept start events (Watched.run handler start owner events) :=
    .run handler owner hloop hclients hrefused hopened htext
  have hdialogue := InDialogue.run handler owner hloop hclients hrefused hopened htext
  have hclient (c : ConnectionId) :
      (Watched.run handler start owner events).server.forget.adapter.isClient c ↔
        Admitted start.maxConnections events c ∧ (life c events).isOpen := hkept.isClient_iff
  rw [Watched.forget_run] at hdialogue hclient
  exact {
    owner := hdialogue.follows.owner
    sent := hdialogue.follows.sent
    stream := by
      intro c
      rw [SocketAdapter.stream, hdialogue.follows.sent, List.filter_append, List.map_append,
        Exchange.filter_written]
      rfl
    requests := hdialogue.requests
    fits := hdialogue.fits
    push := by
      intro c status
      rw [SocketAdapter.push, hdialogue.follows.clock]
      simp only [hclient] }

namespace Transcript

/-- Two clients, one of which also sends a blank line and one that is no request. -/
def sampleEvents : List ConnectionEvent :=
  [.opens ⟨1⟩ none, .opens ⟨2⟩ none, .writes ⟨1⟩ (Request.new 5 .ping).toLine,
    .writes ⟨2⟩ [10, 123, 10], .isTold ⟨2⟩ .success,
    .writes ⟨2⟩ (Request.new 6 (.register "x")).toLine, .isTold ⟨3⟩ .success]

def sampleHandler : TellingHandler Unit :=
  .registering fun c _ => fun _ => ⟨(.rejected .failed, ()), [(c, .internalError)]⟩

def sampleStart : SocketAdapter :=
  { SocketAdapter.new .vacant 2 ⟨0, 0, 0⟩ with loop := .running }

end Transcript

open Transcript (sampleStart sampleHandler) in
theorem dialogue_history_sample :
    let s := Transcript.sampleEvents.foldl (Server.step sampleHandler) ⟨sampleStart, ()⟩
    (opened Transcript.sampleEvents).Nodup ∧ IsText Transcript.sampleEvents ∧
    s.adapter.stream ⟨1⟩ = [.response (.success 5 .pong)] ∧
    s.adapter.stream ⟨2⟩ =
      [.event (.new ⟨0, 0, 0⟩ (.registrationUpdated .success)),
        .event (.new ⟨0, 0, 0⟩ (.registrationUpdated .internalError)),
        .response (.failure 6 (.ofStatus .failed))] ∧
    s.adapter.push ⟨3⟩ .success = (s.adapter, .error (.unknownConnection ⟨3⟩)) := by
  intro s
  have hopened : (opened Transcript.sampleEvents).Nodup := by decide +kernel
  have htext : IsText Transcript.sampleEvents := by decide +kernel
  have hthird : ¬(Admitted 2 Transcript.sampleEvents ⟨3⟩ ∧
      (life ⟨3⟩ Transcript.sampleEvents).isOpen) := by decide +kernel
  have hdialogue :=
    dialogue_history sampleHandler sampleStart () Transcript.sampleEvents rfl rfl rfl hopened htext
  refine ⟨hopened, htext, (hdialogue.stream ⟨1⟩).trans ?_, (hdialogue.stream ⟨2⟩).trans ?_,
    (hdialogue.push ⟨3⟩ .success).trans (if_neg hthird)⟩
  all_goals decide +kernel

end ResourceBroker
