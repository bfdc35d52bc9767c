import ResourceBroker.Proofs.Server.Journal

/-!
How a connection stands at a server: served, with every request of its life at the handler, or turned
away. Only its own events change that, and none of them makes a client of a connection that is open.
-/

namespace ResourceBroker

variable {σ : Type} {c : ConnectionId}

/-! The entries of one connection. -/

namespace Peer

def entries (c : ConnectionId) (peers : List Peer) : List Peer :=
  peers.filter fun p => p.connection = c

theorem entries_append (first last : List Peer) :
    entries c (first ++ last) = entries c first ++ entries c last := List.filter_append ..

theorem connection_of_mem_entries {p : Peer} {peers : List Peer} (h : p ∈ entries c peers) :
    p.connection = c := by
  simpa using (List.mem_filter.mp h).2

theorem entries_map_keep (d : ConnectionId) (unread : List UInt8) (peers : List Peer) :
    entries c (peers.map (Peer.keep d unread)) = (entries c peers).map (Peer.keep d unread) := by
  simp [entries, List.filter_map, Function.comp_def]

theorem entries_keep (unread : List UInt8) (peers : List Peer) :
    entries c (peers.map (Peer.keep c unread)) =
      (entries c peers).map fun p => { p with unread := unread } := by
  rw [entries_map_keep]
  exact List.map_congr_left fun p hp => if_pos (connection_of_mem_entries hp)

theorem entries_keep_of_ne {d : ConnectionId} (h : d ≠ c) (unread : List UInt8)
    (peers : List Peer) : entries c (peers.map (Peer.keep d unread)) = entries c peers := by
  rw [entries_map_keep]
  refine map_keep_of_ne (fun p hp => ?_) unread
  rw [connection_of_mem_entries hp]
  exact Ne.symm h

theorem entries_remove (peers : List Peer) :
    entries c (peers.filter fun p => p.connection ≠ c) = [] := by
  simp [entries]

theorem entries_remove_of_ne {d : ConnectionId} (h : d ≠ c) (peers : List Peer) :
    entries c (peers.filter fun p => p.connection ≠ d) = entries c peers := by
  simp only [entries, List.filter_filter]
  refine List.filter_congr fun p _ => ?_
  by_cases hp : p.connection = c
  · simp [hp, Ne.symm h]
  · simp [hp]

end Peer

namespace SocketAdapter

variable {a : SocketAdapter}

theorem peer?_eq_head? :
    a.peer? c = (Peer.entries c a.clients ++ Peer.entries c a.refused).head? := by
  rw [peer?, Peer.entries, Peer.entries, ← List.filter_append, List.head?_filter]

theorem isClient_eq_false_iff : a.isClient c = false ↔ Peer.entries c a.clients = [] := by
  simp [isClient, Peer.entries, List.filter_eq_nil_iff]

theorem isRefused_eq_false_iff : a.isRefused c = false ↔ Peer.entries c a.refused = [] := by
  simp [isRefused, Peer.entries, List.filter_eq_nil_iff]

theorem isClient_eq_isOpen {l : Life} {user : Option UInt32}
    (h : Peer.entries c a.clients = l.peers c user) : a.isClient c = l.isOpen := by
  have hclosed : a.isClient c = false ↔ l.isOpen = false := by
    rw [isClient_eq_false_iff, h, Life.peers_eq_nil_iff]
  rwa [Bool.eq_iff_iff, ← Bool.not_eq_false, ← Bool.not_eq_false, not_iff_not]

theorem isRefused_eq_isOpen {l : Life} {user : Option UInt32}
    (h : Peer.entries c a.refused = l.peers c user) : a.isRefused c = l.isOpen := by
  have hclosed : a.isRefused c = false ↔ l.isOpen = false := by
    rw [isRefused_eq_false_iff, h, Life.peers_eq_nil_iff]
  rwa [Bool.eq_iff_iff, ← Bool.not_eq_false, ← Bool.not_eq_false, not_iff_not]

end SocketAdapter

/-! A server under observation. -/

/-- A server whose handler keeps a journal, and beside it the calls with the connections whose events
made them. -/
structure Watched (σ : Type) where
  server : Server (σ × List HandlerCall)
  log : List (ConnectionId × HandlerCall)

namespace Watched

def step (handler : TellingHandler σ) (w : Watched σ) (e : ConnectionEvent) : Watched σ :=
  let server := w.server.step handler.journaled e
  ⟨server, w.log ++ (server.owner.2.drop w.server.owner.2.length).map (e.connection, ·)⟩

def run (handler : TellingHandler σ) (start : SocketAdapter) (owner : σ)
    (events : List ConnectionEvent) : Watched σ :=
  events.foldl (step handler) ⟨⟨start, owner, []⟩, []⟩

theorem run_append_singleton (handler : TellingHandler σ) (start : SocketAdapter) (owner : σ)
    (events : List ConnectionEvent) (e : ConnectionEvent) :
    run handler start owner (events ++ [e]) = (run handler start owner events).step handler e := by
  simp [run]

theorem forget_run (handler : TellingHandler σ) (start : SocketAdapter) (owner : σ)
    (events : List ConnectionEvent) :
    (run handler start owner events).server.forget =
      events.foldl (Server.step handler) ⟨start, owner⟩ := by
  induction events using List.reverseRecOn with
  | nil => rfl
  | append_singleton events e ih =>
    rw [run_append_singleton, List.foldl_append, ← ih]
    exact Server.step_forget e _

theorem journal_step {handler : TellingHandler σ} {w : Watched σ} {e : ConnectionEvent}
    (htext : ∀ line ∈ w.server.newLines e, (Text.lineText? line).isSome)
    (h : w.log.map Prod.snd = w.server.owner.2) :
    (w.step handler e).log.map Prod.snd = (w.step handler e).server.owner.2 := by
  simp [step, Server.calls_step handler htext, h, Function.comp_def]

/-- The calls that the events of a connection made. -/
def callsOf (c : ConnectionId) (w : Watched σ) : List HandlerCall :=
  (w.log.filter fun entry => entry.1 = c).map Prod.snd

theorem mem_callsOf {w : Watched σ} {entry : ConnectionId × HandlerCall} (h : entry ∈ w.log) :
    entry.2 ∈ w.callsOf entry.1 :=
  List.mem_map_of_mem (List.mem_filter.mpr ⟨h, decide_eq_true rfl⟩)

theorem callsOf_step {handler : TellingHandler σ} {w : Watched σ} {e : ConnectionEvent}
    (htext : ∀ line ∈ w.server.newLines e, (Text.lineText? line).isSome) :
    (w.step handler e).callsOf c =
      w.callsOf c ++ if e.connection = c then w.server.newCalls e else [] := by
  rw [callsOf, step, Server.calls_step handler htext, List.drop_left]
  by_cases he : e.connection = c <;>
    simp [callsOf, List.filter_append, List.filter_map, Function.comp_def, he]

theorem count_callsOf {w : Watched σ} {call : HandlerCall} (hcall : call.connection? = some c)
    (h : ∀ entry ∈ w.log, ∀ d, entry.2.connection? = some d → d = entry.1) :
    (w.callsOf c).count call = (w.log.map Prod.snd).count call := by
  rw [callsOf, List.count_eq_countP, List.count_eq_countP, List.countP_map, List.countP_map,
    List.countP_filter]
  refine List.countP_congr fun entry hentry => ?_
  simp only [Function.comp_apply, beq_iff_eq, Bool.and_eq_true, decide_eq_true_eq,
    and_iff_left_iff_imp]
  rintro rfl
  exact (h entry hentry c hcall).symm

end Watched

/-- How an admitted connection stands at a point of its life. -/
structure IsServed (c : ConnectionId) (user : Option UInt32) (l : Life) (w : Watched σ) :
    Prop where
  clients : Peer.entries c w.server.adapter.clients = l.peers c user
  refused : Peer.entries c w.server.adapter.refused = []
  calls : w.callsOf c = l.calls c

/-- How any other connection stands. What is written to it are refusals of its requests. -/
structure IsTurnedAway (start : SocketAdapter) (c : ConnectionId) (user : Option UInt32) (l : Life)
    (w : Watched σ) : Prop where
  clients : Peer.entries c w.server.adapter.clients = []
  refused : Peer.entries c w.server.adapter.refused = l.peers c user
  calls : w.callsOf c = []
  stream : w.server.adapter.stream c =
    start.stream c ++ l.requests.map fun r => .response (refuse r)

/-! What an event does to the tables. -/

def Peer.after (a : SocketAdapter) (e : ConnectionEvent) (peers : List Peer) : List Peer :=
  match e with
  | .writes c bytes => match a.peer? c with
    | some p => peers.map (Peer.keep c (Text.splitLines (p.unread ++ bytes)).2)
    | none => peers
  | .hangsUp c => peers.filter fun p => p.connection ≠ c
  | .opens _ _ | .isTold _ _ => peers

theorem SocketAdapter.after_eq {a : SocketAdapter} {e : ConnectionEvent} (h : e.opened? = none) :
    a.after e =
      { a with
        clients := Peer.after a e a.clients
        refused := Peer.after a e a.refused } := by
  cases e with
  | opens c user => cases h
  | writes c bytes =>
    rw [after]
    cases hpeer : a.peer? c <;> simp [Peer.after, hpeer, keep_eq]
  | hangsUp c => rfl
  | isTold c status => rfl

namespace Peer

variable {a : SocketAdapter} {e : ConnectionEvent} {peers : List Peer}

theorem entries_after_of_ne (h : e.connection ≠ c) :
    entries c (Peer.after a e peers) = entries c peers := by
  cases e with
  | opens d user => rfl
  | writes d bytes =>
    rw [Peer.after]
    cases a.peer? d with
    | none => rfl
    | some p => exact entries_keep_of_ne h _ _
  | hangsUp d => exact entries_remove_of_ne h _
  | isTold d status => rfl

theorem entries_after_of_nil (h : entries c peers = []) :
    entries c (Peer.after a e peers) = [] := by
  by_cases he : e.connection = c
  · cases e with
    | opens d user => exact h
    | writes d bytes =>
      obtain rfl : d = c := he
      rw [Peer.after]
      cases a.peer? d with
      | none => exact h
      | some p =>
        rw [entries_keep, h]
        rfl
    | hangsUp d =>
      obtain rfl : d = c := he
      exact entries_remove _
    | isTold d status => exact h
  · rw [entries_after_of_ne he, h]

theorem entries_of_new (c : ConnectionId) (user : Option UInt32) :
    entries c [⟨c, user, []⟩] = (Life.during []).peers c user := by
  simp [entries, Life.peers, Text.splitLines_of_notMem]

/-- The entry of a connection keeps up with its life. -/
theorem entries_after {user : Option UInt32} {l : Life}
    (hpeer : a.peer? c = (l.peers c user).head?) (h : entries c peers = l.peers c user)
    (he : e.connection = c) (hopen : e.opened? = none) :
    entries c (Peer.after a e peers) = (l.after c e).peers c user := by
  cases e with
  | opens d user => cases hopen
  | writes d bytes =>
    obtain rfl : d = c := he
    cases l with
    | before | past =>
      simp only [Life.peers, List.head?_nil] at hpeer
      simpa [Peer.after, hpeer, Life.after] using h
    | during before =>
      simp only [Life.peers, List.head?_cons] at hpeer h
      simp [Peer.after, hpeer, entries_keep, h, Life.after, Life.peers,
        Text.splitLines_append before bytes]
  | hangsUp d =>
    obtain rfl : d = c := he
    rw [Peer.after, entries_remove]
    cases l <;> simp [Life.after, Life.peers]
  | isTold d status => cases l <;> exact h

end Peer

namespace SocketAdapter

variable {a : SocketAdapter} {e : ConnectionEvent}

theorem after_frame (a : SocketAdapter) (e : ConnectionEvent) :
    (a.after e).loop = a.loop ∧ (a.after e).maxConnections = a.maxConnections := by
  cases e with
  | opens c user =>
    rw [after, accept?]
    split_ifs <;> exact ⟨rfl, rfl⟩
  | writes | hangsUp | isTold =>
    rw [after_eq rfl]
    exact ⟨rfl, rfl⟩

theorem entries_after_of_ne (h : e.connection ≠ c) :
    Peer.entries c (a.after e).clients = Peer.entries c a.clients ∧
      Peer.entries c (a.after e).refused = Peer.entries c a.refused := by
  cases e with
  | opens d user =>
    have hnew : Peer.entries c [⟨d, user, []⟩] = [] := by
      simpa [Peer.entries] using show d ≠ c from h
    rw [after, accept?]
    split_ifs <;> simp [Peer.entries_append, hnew]
  | writes | hangsUp | isTold =>
    rw [after_eq rfl]
    exact ⟨Peer.entries_after_of_ne (a := a) h, Peer.entries_after_of_ne (a := a) h⟩

end SocketAdapter

theorem lines_after {s : Server σ} {e : ConnectionEvent} {user : Option UInt32} {l : Life}
    (hpeer : s.adapter.peer? c = (l.peers c user).head?) (he : e.connection = c)
    (hopen : e.opened? = none) : (l.after c e).lines = l.lines ++ s.newLines e := by
  cases e with
  | opens d user => cases hopen
  | writes d bytes =>
    obtain rfl : d = c := he
    cases l with
    | before | past =>
      simp only [Life.peers, List.head?_nil] at hpeer
      simp [Server.newLines, hpeer, Life.after]
    | during before =>
      simp only [Life.peers, List.head?_cons] at hpeer
      simp [Server.newLines, hpeer, Life.after, Life.lines, Text.splitLines_append before bytes]
  | hangsUp d =>
    obtain rfl : d = c := he
    cases l with
    | before | past =>
      simp only [Life.peers, List.head?_nil] at hpeer
      simp [Server.newLines, hpeer, Life.after]
    | during before =>
      simp only [Life.peers, List.head?_cons] at hpeer
      simp [Server.newLines, hpeer, Life.after, Life.lines, Text.allLines]
  | isTold d status => cases l <;> simp [Server.newLines, Life.after]

theorem requests_after {s : Server σ} {e : ConnectionEvent} {user : Option UInt32} {l : Life}
    (hpeer : s.adapter.peer? c = (l.peers c user).head?) (he : e.connection = c)
    (hopen : e.opened? = none) : (l.after c e).requests = l.requests ++ s.newRequests e := by
  rw [Life.requests, lines_after hpeer he hopen, List.filterMap_append]
  rfl

theorem newRequests_of_gone {s : Server σ} {e : ConnectionEvent}
    (h : s.adapter.peer? e.connection = none) : s.newRequests e = [] := by
  cases e <;> simp_all [Server.newRequests, Server.newLines, ConnectionEvent.connection]

/-! What an event does to the standing of a connection. -/

section

variable {handler : TellingHandler σ} {start : SocketAdapter} {w : Watched σ} {e : ConnectionEvent}
  {user : Option UInt32} {l : Life}

theorem IsServed.peer? (h : IsServed c user l w) :
    w.server.adapter.peer? c = (l.peers c user).head? := by
  rw [SocketAdapter.peer?_eq_head?, h.clients, h.refused, List.append_nil]

theorem IsTurnedAway.peer? (h : IsTurnedAway start c user l w) :
    w.server.adapter.peer? c = (l.peers c user).head? := by
  rw [SocketAdapter.peer?_eq_head?, h.clients, h.refused, List.nil_append]

theorem IsServed.calls_after (h : IsServed c user l w) (he : e.connection = c)
    (hopen : e.opened? = none) :
    (l.after c e).calls c = l.calls c ++ w.server.newCalls e := by
  have hrequests := requests_after h.peer? he hopen
  have hclients := h.clients
  cases l with
  | before | past =>
    have hclient := SocketAdapter.isClient_eq_false_iff.mpr hclients
    rw [Server.newCalls_of_not_isClient (he ▸ hclient), List.append_nil]
    cases e with
    | opens d user => cases hopen
    | writes | hangsUp | isTold => rfl
  | during bytes =>
    have hclient : w.server.adapter.isClient c := by
      by_contra hno
      rw [Bool.not_eq_true, SocketAdapter.isClient_eq_false_iff, hclients] at hno
      cases hno
    simp only [Life.calls, Server.newCalls, he, hclient, if_true, hrequests, List.flatMap_append,
      List.append_assoc, List.append_nil]
    cases e with
    | opens d user => cases hopen
    | writes d more | hangsUp d =>
      obtain rfl : d = c := he
      simp [Life.after]
    | isTold d status => simp [Life.after]

theorem Watched.adapter_step (handler : TellingHandler σ)
    (htext : ∀ line ∈ w.server.newLines e, (Text.lineText? line).isSome) :
    ∃ sent, (w.step handler e).server.adapter = { w.server.adapter.after e with sent := sent } :=
  Server.step_frame handler.journaled htext

theorem Watched.step_of_ne (handler : TellingHandler σ)
    (htext : ∀ line ∈ w.server.newLines e, (Text.lineText? line).isSome)
    (he : e.connection ≠ c) :
    Peer.entries c (w.step handler e).server.adapter.clients =
        Peer.entries c w.server.adapter.clients ∧
      Peer.entries c (w.step handler e).server.adapter.refused =
        Peer.entries c w.server.adapter.refused ∧
      (w.step handler e).callsOf c = w.callsOf c := by
  obtain ⟨sent, hadapter⟩ := Watched.adapter_step handler htext
  obtain ⟨hclients, hrefused⟩ := @SocketAdapter.entries_after_of_ne c w.server.adapter e he
  rw [hadapter, Watched.callsOf_step htext, if_neg he, List.append_nil]
  exact ⟨hclients, hrefused, rfl⟩

theorem IsServed.step_of_ne (h : IsServed c user l w)
    (htext : ∀ line ∈ w.server.newLines e, (Text.lineText? line).isSome)
    (he : e.connection ≠ c) : IsServed c user l (w.step handler e) := by
  obtain ⟨hclients, hrefused, hcalls⟩ := Watched.step_of_ne handler htext he
  exact ⟨hclients.trans h.clients, hrefused.trans h.refused, hcalls.trans h.calls⟩

theorem IsServed.step (h : IsServed c user l w)
    (htext : ∀ line ∈ w.server.newLines e, (Text.lineText? line).isSome)
    (he : e.connection = c) (hopen : e.opened? = none) :
    IsServed c user (l.after c e) (w.step handler e) := by
  obtain ⟨sent, hadapter⟩ := Watched.adapter_step handler htext
  rw [SocketAdapter.after_eq hopen] at hadapter
  refine ⟨?_, ?_, ?_⟩
  · rw [hadapter]
    exact Peer.entries_after h.peer? h.clients he hopen
  · rw [hadapter]
    exact Peer.entries_after_of_nil h.refused
  · rw [Watched.callsOf_step htext, if_pos he, h.calls, h.calls_after he hopen]

theorem IsTurnedAway.isClient (h : IsTurnedAway start c user l w) :
    w.server.adapter.isClient c = false :=
  SocketAdapter.isClient_eq_false_iff.mpr h.clients

theorem IsTurnedAway.step_of_ne (h : IsTurnedAway start c user l w)
    (htext : ∀ line ∈ w.server.newLines e, (Text.lineText? line).isSome)
    (he : e.connection ≠ c) : IsTurnedAway start c user l (w.step handler e) := by
  obtain ⟨hclients, hrefused, hcalls⟩ := Watched.step_of_ne handler htext he
  have hstream : (w.step handler e).server.adapter.stream c = _ :=
    Server.stream_step handler.journaled htext h.isClient
  rw [if_neg fun hown => he hown.1, List.append_nil] at hstream
  exact ⟨hclients.trans h.clients, hrefused.trans h.refused, hcalls.trans h.calls,
    hstream.trans h.stream⟩

theorem IsTurnedAway.step (h : IsTurnedAway start c user l w)
    (htext : ∀ line ∈ w.server.newLines e, (Text.lineText? line).isSome)
    (he : e.connection = c) (hopen : e.opened? = none) :
    IsTurnedAway start c user (l.after c e) (w.step handler e) := by
  obtain ⟨sent, hadapter⟩ := Watched.adapter_step handler htext
  have hstream : (w.step handler e).server.adapter.stream c = _ :=
    Server.stream_step handler.journaled htext h.isClient
  rw [SocketAdapter.after_eq hopen] at hadapter
  refine ⟨?_, ?_, ?_, ?_⟩
  · rw [hadapter]
    exact Peer.entries_after_of_nil h.clients
  · rw [hadapter]
    exact Peer.entries_after h.peer? h.refused he hopen
  · rw [Watched.callsOf_step htext, if_pos he, h.calls,
      Server.newCalls_of_not_isClient (he ▸ h.isClient), List.append_nil]
  · rw [hstream, h.stream, requests_after h.peer? he hopen, List.map_append, List.append_assoc]
    congr 2
    by_cases hrefused : w.server.adapter.isRefused c
    · rw [if_pos ⟨he, he ▸ hrefused⟩]
    -- a connection that is not refused either is not open, and nothing of it is read
    · have hgone : w.server.adapter.peer? e.connection = none := by
        rw [Bool.not_eq_true, SocketAdapter.isRefused_eq_false_iff] at hrefused
        rw [he, SocketAdapter.peer?_eq_head?, h.clients, hrefused]
        rfl
      rw [newRequests_of_gone hgone]
      simp

/-! A connection that opens. -/

theorem callsOf_step_opens (d : ConnectionId) :
    (w.step handler (.opens d user)).callsOf c = w.callsOf c := by
  rw [Watched.callsOf_step (by simp [Server.newLines])]
  simp [Server.newCalls, Server.newRequests, Server.newLines]

theorem IsTurnedAway.admit {before : Option UInt32} (h : IsTurnedAway start c before .before w)
    (hloop : w.server.adapter.loop = .running)
    (hroom : w.server.adapter.clients.length < w.server.adapter.maxConnections) :
    IsServed c user (.during []) (w.step handler (.opens c user)) := by
  have hadapter : (w.step handler (.opens c user)).server.adapter =
      { w.server.adapter with clients := w.server.adapter.clients ++ [⟨c, user, []⟩] } := by
    simp [Watched.step, Server.step, SocketAdapter.accept?, hloop, hroom]
  refine ⟨?_, ?_, ?_⟩
  · rw [hadapter, Peer.entries_append, h.clients]
    exact Peer.entries_of_new c user
  · rw [hadapter]
    exact h.refused
  · rw [callsOf_step_opens, h.calls]
    rfl

theorem IsTurnedAway.refuse {before : Option UInt32} (h : IsTurnedAway start c before .before w)
    (hloop : w.server.adapter.loop = .running)
    (hfull : ¬w.server.adapter.clients.length < w.server.adapter.maxConnections) :
    IsTurnedAway start c user (.during []) (w.step handler (.opens c user)) := by
  have hadapter : (w.step handler (.opens c user)).server.adapter =
      { w.server.adapter with refused := w.server.adapter.refused ++ [⟨c, user, []⟩] } := by
    simp [Watched.step, Server.step, SocketAdapter.accept?, hloop, hfull]
  refine ⟨?_, ?_, ?_, ?_⟩
  · rw [hadapter]
    exact h.clients
  · rw [hadapter, Peer.entries_append, h.refused]
    exact Peer.entries_of_new c user
  · rw [callsOf_step_opens, h.calls]
  · rw [hadapter]
    exact h.stream

end
end ResourceBroker
