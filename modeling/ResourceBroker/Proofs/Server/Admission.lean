import ResourceBroker.Proofs.Server.Standing

/-!
Connections past the limit. Over every course of events the table of clients is the set of admitted
connections that were not closed yet, so places are neither lost nor given twice. A connection that was
refused stays refused and never reaches the handler; an admitted one reaches it with its requests in
order and, once it is closed, with one report of that.
-/

namespace ResourceBroker

open ConnectionEvent (held opened Admitted life IsText)

variable {σ : Type} {c : ConnectionId}

/-- The books of a server after some events: who holds a place, and how every connection stands. -/
structure PlacesKept (start : SocketAdapter) (events : List ConnectionEvent) (w : Watched σ) :
    Prop where
  loop : w.server.adapter.loop = .running
  maxConnections : w.server.adapter.maxConnections = start.maxConnections
  clients : w.server.adapter.clients.map Peer.connection = held start.maxConnections events
  served {c : ConnectionId} : Admitted start.maxConnections events c →
    ∃ user, IsServed c user (life c events) w
  turnedAway {c : ConnectionId} : ¬Admitted start.maxConnections events c →
    ∃ user, IsTurnedAway start c user (life c events) w
  log : w.log.map Prod.snd = w.server.owner.2

namespace PlacesKept

section

variable {handler : TellingHandler σ} {start : SocketAdapter} {events : List ConnectionEvent}
  {e : ConnectionEvent} {w : Watched σ}

theorem length_clients (h : PlacesKept start events w) :
    w.server.adapter.clients.length = (held start.maxConnections events).length := by
  rw [← h.clients, List.length_map]

theorem peer? (h : PlacesKept start events w) (c : ConnectionId) :
    ∃ user, w.server.adapter.peer? c = ((life c events).peers c user).head? := by
  by_cases hc : Admitted start.maxConnections events c
  · obtain ⟨user, hserved⟩ := h.served hc
    exact ⟨user, hserved.peer?⟩
  · obtain ⟨user, haway⟩ := h.turnedAway hc
    exact ⟨user, haway.peer?⟩

theorem text (h : PlacesKept start events w) (htext : IsText (events ++ [e])) :
    ∀ line ∈ w.server.newLines e, (Text.lineText? line).isSome := by
  cases hopen : e.opened? with
  | some c =>
    cases e with
    | opens => exact List.forall_mem_nil _
    | writes | hangsUp | isTold => cases hopen
  | none =>
    obtain ⟨user, hpeer⟩ := h.peer? e.connection
    intro line hline
    refine htext e.connection line ?_
    rw [life_append_singleton, lines_after hpeer rfl hopen]
    exact List.mem_append_right _ hline

theorem clients_step (h : PlacesKept start events w)
    (htext : ∀ line ∈ w.server.newLines e, (Text.lineText? line).isSome) :
    (w.step handler e).server.adapter.clients.map Peer.connection =
      held start.maxConnections (events ++ [e]) := by
  obtain ⟨sent, hadapter⟩ := Watched.adapter_step handler htext
  rw [hadapter, ConnectionEvent.held_append_singleton]
  cases e with
  | opens c user =>
    rw [← h.length_clients, ← h.clients, ← h.maxConnections]
    by_cases hroom : w.server.adapter.clients.length < w.server.adapter.maxConnections <;>
      simp [SocketAdapter.after, SocketAdapter.accept?, h.loop, hroom]
  | writes c bytes =>
    rw [← h.clients, SocketAdapter.after]
    cases w.server.adapter.peer? c <;> simp [SocketAdapter.keep_eq, Function.comp_def]
  | hangsUp c =>
    rw [← h.clients]
    simp [SocketAdapter.after, SocketAdapter.remove, List.filter_map, Function.comp_def]
  | isTold c status => exact h.clients

theorem opened?_eq_none (hopened : (opened (events ++ [e])).Nodup) (hc : c ∈ opened events)
    (he : e.connection = c) : e.opened? = none := by
  cases e with
  | opens d user =>
    obtain rfl : d = c := he
    exact absurd hc (ConnectionEvent.notMem_opened hopened)
  | writes | hangsUp | isTold => rfl

theorem served_step (h : PlacesKept start events w) (hopened : (opened (events ++ [e])).Nodup)
    (htext : ∀ line ∈ w.server.newLines e, (Text.lineText? line).isSome)
    (hc : Admitted start.maxConnections (events ++ [e]) c) :
    ∃ user, IsServed c user (life c (events ++ [e])) (w.step handler e) := by
  rw [life_append_singleton]
  by_cases hold : Admitted start.maxConnections events c
  · obtain ⟨user, hserved⟩ := h.served hold
    refine ⟨user, ?_⟩
    by_cases he : e.connection = c
    · exact hserved.step htext he (opened?_eq_none hopened hold.mem_opened he)
    · rw [Life.after_of_ne he]
      exact hserved.step_of_ne htext he
  -- it is admitted by this event: it was turned away so far, as connections are before they open
  · obtain hadmitted | ⟨⟨user, rfl⟩, hroom⟩ := ConnectionEvent.admitted_append_singleton.mp hc
    · exact absurd hadmitted hold
    · obtain ⟨before, haway⟩ := h.turnedAway hold
      rw [← h.length_clients, ← h.maxConnections] at hroom
      rw [life_of_notMem_opened (ConnectionEvent.notMem_opened hopened)] at haway ⊢
      refine ⟨user, ?_⟩
      simpa [Life.after] using haway.admit h.loop hroom

theorem turnedAway_step (h : PlacesKept start events w) (hopened : (opened (events ++ [e])).Nodup)
    (htext : ∀ line ∈ w.server.newLines e, (Text.lineText? line).isSome)
    (hc : ¬Admitted start.maxConnections (events ++ [e]) c) :
    ∃ user, IsTurnedAway start c user (life c (events ++ [e])) (w.step handler e) := by
  rw [ConnectionEvent.admitted_append_singleton, not_or] at hc
  rw [life_append_singleton]
  obtain ⟨before, haway⟩ := h.turnedAway hc.1
  by_cases he : e.connection = c
  · cases hopen : e.opened? with
    | none => exact ⟨before, haway.step htext he hopen⟩
    | some d =>
      cases e with
      | opens d user =>
        obtain rfl : d = c := he
        have hfull := fun hroom => hc.2 ⟨⟨user, rfl⟩, hroom⟩
        rw [← h.length_clients, ← h.maxConnections] at hfull
        rw [life_of_notMem_opened (ConnectionEvent.notMem_opened hopened)] at haway ⊢
        refine ⟨user, ?_⟩
        simpa [Life.after] using haway.refuse h.loop hfull
      | writes | hangsUp | isTold => cases hopen
  · rw [Life.after_of_ne he]
    exact ⟨before, haway.step_of_ne htext he⟩

theorem step (h : PlacesKept start events w) (hopened : (opened (events ++ [e])).Nodup)
    (htext : IsText (events ++ [e])) :
    PlacesKept start (events ++ [e]) (w.step handler e) := by
  have hlines := h.text htext
  obtain ⟨sent, hadapter⟩ := Watched.adapter_step handler hlines
  obtain ⟨hloop, hmax⟩ := w.server.adapter.after_frame e
  refine ⟨?_, ?_, h.clients_step hlines, h.served_step hopened hlines,
    h.turnedAway_step hopened hlines, ?_⟩
  · rw [hadapter]
    exact hloop.trans h.loop
  · rw [hadapter]
    exact hmax.trans h.maxConnections
  · exact Watched.journal_step hlines h.log

/-! What the books say. -/

theorem isClient_eq (h : PlacesKept start events w) (hc : Admitted start.maxConnections events c) :
    w.server.adapter.isClient c = (life c events).isOpen := by
  obtain ⟨user, hserved⟩ := h.served hc
  exact SocketAdapter.isClient_eq_isOpen hserved.clients

theorem isClient_eq_false (h : PlacesKept start events w)
    (hc : ¬Admitted start.maxConnections events c) : w.server.adapter.isClient c = false := by
  obtain ⟨user, haway⟩ := h.turnedAway hc
  exact haway.isClient

theorem isClient_iff (h : PlacesKept start events w) :
    w.server.adapter.isClient c ↔
      Admitted start.maxConnections events c ∧ (life c events).isOpen := by
  by_cases hc : Admitted start.maxConnections events c
  · simp [h.isClient_eq hc, hc]
  · simp [h.isClient_eq_false hc, hc]

theorem mem_held_iff (h : PlacesKept start events w) :
    c ∈ held start.maxConnections events ↔ w.server.adapter.isClient c := by
  rw [← h.clients]
  simp [SocketAdapter.isClient]

theorem connection_of_mem_log (h : PlacesKept start events w) {entry : ConnectionId × HandlerCall}
    (hentry : entry ∈ w.log) (hc : entry.2.connection? = some c) : c = entry.1 := by
  have hcall := Watched.mem_callsOf hentry
  by_cases hadmitted : Admitted start.maxConnections events entry.1
  · obtain ⟨user, hserved⟩ := h.served hadmitted
    rw [hserved.calls] at hcall
    exact Life.connection_of_mem_calls hcall hc
  · obtain ⟨user, haway⟩ := h.turnedAway hadmitted
    rw [haway.calls] at hcall
    cases hcall

theorem connection?_ne (h : PlacesKept start events w)
    (hc : ¬Admitted start.maxConnections events c) :
    ∀ call ∈ w.server.owner.2, call.connection? ≠ some c := by
  rw [← h.log]
  intro call hcall hname
  obtain ⟨entry, hentry, rfl⟩ := List.mem_map.mp hcall
  obtain rfl := h.connection_of_mem_log hentry hname
  obtain ⟨user, haway⟩ := h.turnedAway hc
  have hown := Watched.mem_callsOf hentry
  rw [haway.calls] at hown
  cases hown

theorem count_connectionClosed (h : PlacesKept start events w)
    (hc : Admitted start.maxConnections events c) :
    w.server.owner.2.count (.connectionClosed c) = if (life c events).isPast then 1 else 0 := by
  obtain ⟨user, hserved⟩ := h.served hc
  rw [← h.log, ← Watched.count_callsOf rfl fun _ hentry _ hname => h.connection_of_mem_log hentry hname,
    hserved.calls, Life.count_connectionClosed_calls]

theorem isClient_opens_iff {user : Option UInt32} (h : PlacesKept start events w)
    (hopens : PlacesKept start (events ++ [.opens c user]) (w.step handler (.opens c user)))
    (hnew : c ∉ opened events) :
    (w.step handler (.opens c user)).server.adapter.isClient c ↔
      w.server.adapter.clients.length < start.maxConnections := by
  have hopen : (life c (events ++ [.opens c user])).isOpen := by
    rw [life_append_singleton, life_of_notMem_opened hnew]
    simp [Life.after, Life.isOpen]
  have hold : ¬Admitted start.maxConnections events c := fun hc => hnew hc.mem_opened
  rw [hopens.isClient_iff, ConnectionEvent.admitted_append_singleton, h.length_clients]
  simp [hopen, hold]

theorem length_clients_hangsUp (h : PlacesKept start events w)
    (hclosed : PlacesKept start (events ++ [.hangsUp c]) (w.step handler (.hangsUp c)))
    (hopened : (opened events).Nodup) :
    (w.step handler (.hangsUp c)).server.adapter.clients.length +
        (if w.server.adapter.isClient c then 1 else 0) =
      w.server.adapter.clients.length := by
  rw [hclosed.length_clients, h.length_clients,
    ← @ConnectionEvent.length_held_hangsUp c events start.maxConnections hopened]
  simp only [h.mem_held_iff]

end

variable {start : SocketAdapter}

theorem nil (owner : σ) (hloop : start.loop = .running) (hclients : start.clients = [])
    (hrefused : start.refused = []) : PlacesKept start [] ⟨⟨start, owner, []⟩, []⟩ where
  loop := hloop
  maxConnections := rfl
  clients := by simp [hclients, held]
  served hc := absurd hc ConnectionEvent.not_admitted_nil
  turnedAway _ := by
    refine ⟨none, ?_, ?_, rfl, ?_⟩
    · simp [hclients, Peer.entries]
    · simp [hrefused, Peer.entries, life, Life.peers]
    · simp [life, Life.requests, Life.lines]
  log := rfl

theorem run (handler : TellingHandler σ) (owner : σ) {events : List ConnectionEvent}
    (hloop : start.loop = .running) (hclients : start.clients = []) (hrefused : start.refused = [])
    (hopened : (opened events).Nodup) (htext : IsText events) :
    PlacesKept start events (Watched.run handler start owner events) := by
  induction events using List.reverseRecOn with
  | nil => exact nil owner hloop hclients hrefused
  | append_singleton events e ih =>
    rw [Watched.run_append_singleton]
    exact (ih (ConnectionEvent.nodup_opened_of_append hopened) htext.of_append).step hopened htext

end PlacesKept

/-- What there is to show for a connection that was refused. As long as it is open, every request of it
is answered so. It holds no place, and nothing that it does makes a call of the handler. -/
structure StaysRefused (start : SocketAdapter) (c : ConnectionId) (l : Life) (w : Watched σ) :
    Prop where
  isClient : w.server.adapter.isClient c = false
  isRefused : w.server.adapter.isRefused c = l.isOpen
  stream : w.server.adapter.stream c = start.stream c ++
    l.requests.map fun r => .response (.failure r.id (.ofStatus .connectionsExceeded))
  calls : w.callsOf c = []
  unnamed : ∀ call ∈ w.server.owner.2, call.connection? ≠ some c

/-- What there is to show for one that was admitted: the calls of its requests in order and, once it is
closed, one more that reports it. -/
structure StaysAdmitted (c : ConnectionId) (l : Life) (w : Watched σ) : Prop where
  calls : w.callsOf c = l.calls c
  reports : w.server.owner.2.count (.connectionClosed c) = if l.isPast then 1 else 0

/-- How places are given, kept and given back over a course of events. The calls of the handler are
those of its connections, and they name no other one. -/
structure GivesPlaces (handler : TellingHandler σ) (start : SocketAdapter) (owner : σ)
    (events : List ConnectionEvent) (run : List ConnectionEvent → Watched σ) : Prop where
  forget : (run events).server.forget = events.foldl (Server.step handler) ⟨start, owner⟩
  opens : ∀ before c user after, events = before ++ .opens c user :: after →
    ((run (before ++ [.opens c user])).server.adapter.isClient c ↔
      (run before).server.adapter.clients.length < start.maxConnections)
  clients : (run events).server.adapter.clients.map Peer.connection =
    held start.maxConnections events
  nodup : (held start.maxConnections events).Nodup
  within : (held start.maxConnections events).length ≤ start.maxConnections
  held_iff : ∀ c, c ∈ held start.maxConnections events ↔
    Admitted start.maxConnections events c ∧ (life c events).isOpen
  hangsUp : ∀ before c after, events = before ++ .hangsUp c :: after →
    (run (before ++ [.hangsUp c])).server.adapter.clients.length +
        (if (run before).server.adapter.isClient c then 1 else 0) =
      (run before).server.adapter.clients.length
  refused : ∀ c, ¬Admitted start.maxConnections events c →
    StaysRefused start c (life c events) (run events)
  admitted : ∀ c, Admitted start.maxConnections events c →
    StaysAdmitted c (life c events) (run events)
  log : (run events).log.map Prod.snd = (run events).server.owner.2
  named : ∀ entry ∈ (run events).log, ∀ c, entry.2.connection? = some c → c = entry.1

namespace PlacesKept

variable {start : SocketAdapter} {events : List ConnectionEvent} {w : Watched σ}

theorem staysRefused (h : PlacesKept start events w)
    (hc : ¬Admitted start.maxConnections events c) : StaysRefused start c (life c events) w := by
  obtain ⟨user, haway⟩ := h.turnedAway hc
  exact ⟨haway.isClient, SocketAdapter.isRefused_eq_isOpen haway.refused, haway.stream, haway.calls,
    h.connection?_ne hc⟩

theorem staysAdmitted (h : PlacesKept start events w)
    (hc : Admitted start.maxConnections events c) : StaysAdmitted c (life c events) w := by
  obtain ⟨user, hserved⟩ := h.served hc
  exact ⟨hserved.calls, h.count_connectionClosed hc⟩

end PlacesKept

theorem admission_history (handler : TellingHandler σ) (start : SocketAdapter) (owner : σ)
    (events : List ConnectionEvent) (hloop : start.loop = .running) (hclients : start.clients = [])
    (hrefused : start.refused = []) (hopened : (opened events).Nodup) (htext : IsText events) :
    GivesPlaces handler start owner events (Watched.run handler start owner) := by
  have hrun {first rest : List ConnectionEvent} (heq : events = first ++ rest) :
      PlacesKept start first (Watched.run handler start owner first) := by
    subst heq
    exact .run handler owner hloop hclients hrefused
      (ConnectionEvent.nodup_opened_of_append hopened) htext.of_append
  have hend : PlacesKept start events (Watched.run handler start owner events) :=
    hrun (List.append_nil events).symm
  exact {
    forget := Watched.forget_run handler start owner events
    opens := by
      intro before c user after heq
      have hafter := hrun (show events = (before ++ [.opens c user]) ++ after by simpa using heq)
      have hnew : (opened (before ++ [.opens c user])).Nodup := by
        rw [heq, List.append_cons] at hopened
        exact ConnectionEvent.nodup_opened_of_append hopened
      rw [Watched.run_append_singleton] at hafter ⊢
      exact (hrun heq).isClient_opens_iff hafter (ConnectionEvent.notMem_opened hnew)
    clients := hend.clients
    nodup := hopened.sublist ConnectionEvent.held_sublist_opened
    within := ConnectionEvent.length_held_le
    held_iff := fun c => hend.mem_held_iff.trans hend.isClient_iff
    hangsUp := by
      intro before c after heq
      have hafter := hrun (show events = (before ++ [.hangsUp c]) ++ after by simpa using heq)
      rw [heq] at hopened
      rw [Watched.run_append_singleton] at hafter ⊢
      exact (hrun heq).length_clients_hangsUp hafter
        (ConnectionEvent.nodup_opened_of_append hopened)
    refused := fun c => hend.staysRefused
    admitted := fun c => hend.staysAdmitted
    log := hend.log
    named := fun _ hentry _ => hend.connection_of_mem_log hentry }

namespace Watched

def sampleStart : SocketAdapter :=
  { SocketAdapter.new .vacant 1 ⟨0, 0, 0⟩ with loop := .running }

/-- There is one place. The second connection is refused, also after the first has given its place back
and whatever it asks for, and the third gets the place. -/
def sampleEvents : List ConnectionEvent :=
  [.opens ⟨1⟩ none, .opens ⟨2⟩ none, .writes ⟨2⟩ (Request.new 5 .ping).toLine,
    .writes ⟨1⟩ (Request.new 6 (.register "x")).toLine, .hangsUp ⟨1⟩,
    .writes ⟨2⟩ (Request.new 7 (.setValues ⟨"x"⟩ [])).toLine, .opens ⟨3⟩ none]

def sampleRun : Watched Unit :=
  run (.registering fun _ _ => pure (.rejected .failed)) sampleStart () sampleEvents

end Watched

open Watched (sampleStart sampleEvents sampleRun) in
theorem admission_history_sample :
    sampleStart.loop = .running ∧ sampleStart.clients = [] ∧ sampleStart.refused = [] ∧
    (opened sampleEvents).Nodup ∧ IsText sampleEvents ∧
    sampleRun.server.adapter.clients.map Peer.connection = [⟨3⟩] ∧
    sampleRun.server.adapter.isRefused ⟨2⟩ ∧
    sampleRun.server.adapter.stream ⟨2⟩ = [5, 7].map
      (fun id => .response (.failure id (.ofStatus .connectionsExceeded))) ∧
    sampleRun.callsOf ⟨2⟩ = [] ∧
    sampleRun.callsOf ⟨1⟩ = [.register ⟨1⟩ "x", .connectionClosed ⟨1⟩] := by
  have hopened : (opened sampleEvents).Nodup := by decide +kernel
  have htext : IsText sampleEvents := by decide +kernel
  have hfirst : Admitted 1 sampleEvents ⟨1⟩ := by decide +kernel
  have hsecond : ¬Admitted 1 sampleEvents ⟨2⟩ := by decide +kernel
  have hheld : held 1 sampleEvents = [⟨3⟩] := by decide +kernel
  have hopen : (life ⟨2⟩ sampleEvents).isOpen := by decide +kernel
  have hrequests : (life ⟨2⟩ sampleEvents).requests.map Request.id = [5, 7] := by decide +kernel
  have hcalls : (life ⟨1⟩ sampleEvents).calls ⟨1⟩ =
      [.register ⟨1⟩ "x", .connectionClosed ⟨1⟩] := by decide +kernel
  have hplaces := admission_history (.registering fun _ _ => pure (.rejected .failed)) sampleStart ()
    sampleEvents rfl rfl rfl hopened htext
  have hrefused := hplaces.refused ⟨2⟩ hsecond
  have hsent : sampleStart.stream ⟨2⟩ = [] := rfl
  refine ⟨rfl, rfl, rfl, hopened, htext, ?_, ?_, ?_, ?_, ?_⟩
  -- unfolded, as the run would be evaluated to compare it
  all_goals unfold sampleRun
  · rw [hplaces.clients]
    exact hheld
  · rw [hrefused.isRefused]
    exact hopen
  · rw [hrefused.stream, hsent, List.nil_append, ← hrequests, List.map_map, Function.comp_def]
  · exact hrefused.calls
  · rw [(hplaces.admitted ⟨1⟩ hfirst).calls]
    exact hcalls

end ResourceBroker
