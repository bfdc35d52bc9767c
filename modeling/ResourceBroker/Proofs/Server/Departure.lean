import ResourceBroker.Proofs.Server.Cycle
import ResourceBroker.Proofs.Server.Journal

/-!
What becomes of admitted connections, over any number of cycles. One that ends while the event loop
runs is reported to the handler, and not again. The end of the event loop itself is no end of a
connection: those that are open then are never reported, neither at that moment nor at the release.
-/

namespace ResourceBroker

variable {σ : Type} {c : ConnectionId}

def SocketAction.opened? : SocketAction → Option ConnectionId
  | .meets event => event.opened?
  | _ => none

def SocketAction.opened (actions : List SocketAction) : List ConnectionId := actions.filterMap opened?

namespace SocketAdapter

variable {a : SocketAdapter}

def serves (c : ConnectionId) (a : SocketAdapter) : Bool := a.loop = .running && a.isClient c

theorem serves_of_running (h : a.loop = .running) (c : ConnectionId) :
    a.serves c = a.isClient c := by
  simp [serves, h]

theorem serves_of_not_running (h : a.loop ≠ .running) (c : ConnectionId) : a.serves c = false := by
  simp [serves, h]

theorem isClient_concat {d : ConnectionId} {user : Option UInt32} :
    ({ a with clients := a.clients ++ [⟨d, user, []⟩] } : SocketAdapter).isClient c =
      (a.isClient c || d = c) := by
  simp [isClient]

theorem isClient_iff_mem : a.isClient c ↔ c ∈ a.clients.map Peer.connection := by
  simp [isClient]

theorem count_clients (h : (a.clients.map Peer.connection).Nodup) (c : ConnectionId) :
    (a.clients.map Peer.connection).count c = if a.isClient c then 1 else 0 := by
  simp only [h.count, isClient_iff_mem]

end SocketAdapter

namespace Server

def admits (handler : TellingHandler σ) (s : Server σ) (action : SocketAction) :
    List ConnectionId :=
  match action.opened? with
  | some c => if (s.act handler action).1.adapter.serves c then [c] else []
  | none => []

/-- The clients that an action leaves behind: all there are when the event loop returns. -/
def abandons (handler : TellingHandler σ) (s : Server σ) (action : SocketAction) :
    List ConnectionId :=
  match (s.act handler action).2 with
  | .returned _ => s.adapter.clients.map Peer.connection
  | _ => []

/-- How often the handler was told that a connection is closed, and once more as long as it is a
client. -/
def account (c : ConnectionId) (s : Server (σ × List HandlerCall)) : Nat :=
  s.owner.2.count (.connectionClosed c) + if s.adapter.isClient c then 1 else 0

/-! Nothing that a client does changes its account. -/

section

variable {handler : TellingHandler σ} {d : ConnectionId} {s : Server (σ × List HandlerCall)}

theorem account_serve (request : Request) :
    (s.serve handler.journaled d request).account c = s.account c := by
  obtain ⟨sent, hsent⟩ := serve_frame handler.journaled d request s
  have hclient : (s.serve handler.journaled d request).adapter.isClient c = s.adapter.isClient c := by
    rw [hsent]
    rfl
  have hcalls : (request.calls d).count (.connectionClosed c) = 0 :=
    List.count_eq_zero.mpr request.connectionClosed_notMem_calls
  rw [account, account, hclient, calls_serve, List.count_append]
  split <;> simp [hcalls]

theorem account_close : (s.close handler.journaled d).account c = s.account c := by
  obtain ⟨sent, hsent⟩ := close_frame handler.journaled d s
  have hclient : (s.close handler.journaled d).adapter.isClient c =
      (s.adapter.isClient c && c ≠ d) := by
    rw [hsent]
    exact SocketAdapter.isClient_remove
  rw [account, account, hclient, calls_close, List.count_append]
  by_cases hd : c = d
  · subst hd
    cases s.adapter.isClient c <;> simp
  · have hother : ¬ d = c := Ne.symm hd
    cases s.adapter.isClient d <;> simp [hd, hother]

theorem account_readLine (line : List UInt8) (s : Server (σ × List HandlerCall)) :
    (s.readLine handler.journaled d line).account c = s.account c := by
  unfold readLine
  split
  · exact account_close
  · split
    · exact account_serve _
    · rfl

theorem account_foldl_readLine (lines : List (List UInt8)) (s : Server (σ × List HandlerCall)) :
    (lines.foldl (readLine handler.journaled d) s).account c = s.account c := by
  induction lines generalizing s with
  | nil => rfl
  | cons line lines ih => rw [List.foldl_cons, ih, account_readLine]

theorem account_keep (unread : List UInt8) (s : Server (σ × List HandlerCall)) :
    (s.keep d unread).account c = s.account c := by
  simp [account, keep]

theorem account_step {e : ConnectionEvent} (h : e.opened? = none) :
    (s.step handler.journaled e).account c = s.account c := by
  cases e with
  | opens d user => cases h
  | writes d bytes =>
    cases hpeer : s.adapter.peer? d with
    | none => simp [step, receive, hpeer]
    | some p =>
      rw [step, receive_eq hpeer, account_keep, account_foldl_readLine]
  | hangsUp d =>
    cases hpeer : s.adapter.peer? d with
    | none => simp [step, hangUp, hpeer]
    | some p => rw [step, hangUp_eq hpeer, account_close, account_foldl_readLine]
  | isTold d status =>
    obtain ⟨sent, hsent⟩ := SocketAdapter.push_frame [(d, status)] s.adapter
    have hpush : (s.adapter.push d status).1 = { s.adapter with sent := sent } := hsent
    rw [step, hpush]
    rfl

end

/-- The books of admitted connections. Every one was reported, is served still, or was left behind. -/
structure Departures (admitted abandoned : List ConnectionId) (calls : List HandlerCall)
    (a : SocketAdapter) : Prop where
  account (c : ConnectionId) :
    calls.count (.connectionClosed c) + (if a.serves c then 1 else 0) + abandoned.count c =
      admitted.count c
  distinct : (a.clients.map Peer.connection).Nodup
  idle : a.loop = .released ∨ a.loop = .ready → a.clients = []

namespace Departures

section

variable {a b : SocketAdapter} {admitted abandoned : List ConnectionId} {calls : List HandlerCall}

theorem of_empty (h : Departures admitted abandoned calls a) (hloop : a.loop ≠ .running)
    (hclients : b.clients = []) : Departures admitted abandoned calls b := by
  refine ⟨fun c => ?_, by simp [hclients], fun _ => hclients⟩
  have hserves : b.serves c = false := by
    simp [SocketAdapter.serves, SocketAdapter.isClient, hclients]
  have haccount := h.account c
  rw [SocketAdapter.serves_of_not_running hloop] at haccount
  rwa [hserves]

theorem look (h : Departures admitted abandoned calls a) (hloop : a.loop = .running)
    (hclients : b.clients = a.clients) (hover : b.loop = .over) :
    Departures admitted (abandoned ++ a.clients.map Peer.connection) calls b := by
  refine ⟨fun c => ?_, by rw [hclients]; exact h.distinct, by simp [hover]⟩
  have haccount := h.account c
  rw [SocketAdapter.serves_of_running hloop] at haccount
  rw [SocketAdapter.serves_of_not_running (by simp [hover]), List.count_append,
    SocketAdapter.count_clients h.distinct, ← haccount]
  simp only [Bool.false_eq_true, if_false]
  omega

theorem not_isClient (h : Departures admitted abandoned calls a) (hloop : a.loop = .running)
    (hnew : c ∉ admitted) : a.isClient c = false := by
  have haccount := h.account c
  rw [List.count_eq_zero.mpr hnew, SocketAdapter.serves_of_running hloop] at haccount
  by_contra hclient
  rw [Bool.not_eq_false] at hclient
  rw [hclient, if_pos rfl] at haccount
  omega

theorem grow (h : Departures admitted abandoned calls a) (user : Option UInt32)
    (hloop : a.loop = .running) (hclient : a.isClient c = false) :
    Departures (admitted ++ [c]) abandoned calls
      { a with clients := a.clients ++ [⟨c, user, []⟩] } := by
  refine ⟨fun d => ?_, ?_, by simp [hloop]⟩
  · have haccount := h.account d
    rw [SocketAdapter.serves_of_running hloop] at haccount
    rw [SocketAdapter.serves_of_running (by exact hloop), SocketAdapter.isClient_concat,
      List.count_append, ← haccount]
    by_cases hd : c = d
    · subst hd
      simp [hclient]
      omega
    · simp [hd]
  · rw [List.map_append, List.nodup_append]
    refine ⟨h.distinct, List.nodup_singleton _, ?_⟩
    rintro _ hmem _ hlast rfl
    obtain rfl := List.mem_singleton.mp hlast
    rw [← SocketAdapter.isClient_iff_mem, hclient] at hmem
    cases hmem

/-! What the books say. -/

theorem nodup_abandoned (h : Departures admitted abandoned calls a) (hadmitted : admitted.Nodup) :
    abandoned.Nodup := by
  rw [List.nodup_iff_count_le_one]
  intro c
  have haccount := h.account c
  have hmost := List.nodup_iff_count_le_one.mp hadmitted c
  omega

theorem abandoned_subset (h : Departures admitted abandoned calls a) : abandoned ⊆ admitted := by
  intro c hc
  have haccount := h.account c
  have hleast := List.count_pos_iff.mpr hc
  exact List.count_pos_iff.mp (by omega)

theorem count_of_notMem (h : Departures admitted abandoned calls a) (hc : c ∉ admitted) :
    calls.count (.connectionClosed c) = 0 := by
  have haccount := h.account c
  rw [List.count_eq_zero.mpr hc] at haccount
  omega

theorem count_of_mem (h : Departures admitted abandoned calls a) (hadmitted : admitted.Nodup)
    (hc : c ∈ admitted) :
    calls.count (.connectionClosed c) = if c ∈ abandoned ∨ a.serves c then 0 else 1 := by
  have haccount := h.account c
  rw [List.count_eq_one_of_mem hadmitted hc, (h.nodup_abandoned hadmitted).count] at haccount
  by_cases hleft : c ∈ abandoned <;> cases hserved : a.serves c <;>
    simp [hleft, hserved] at haccount ⊢ <;> omega

end

section

variable {handler : TellingHandler σ} {s : Server (σ × List HandlerCall)} {action : SocketAction}
  {admitted abandoned : List ConnectionId}

theorem event (h : Departures admitted abandoned s.owner.2 s.adapter) {e : ConnectionEvent}
    (hopen : e.opened? = none) (hloop : s.adapter.loop = .running) :
    Departures admitted abandoned (s.step handler.journaled e).owner.2
      (s.step handler.journaled e).adapter := by
  obtain ⟨clients, refused, sent, hsame, hsublist⟩ :=
    @sheds_step _ handler.journaled s e hopen
  have hafter : (s.step handler.journaled e).adapter.loop = .running := by
    rw [hsame]
    exact hloop
  refine ⟨fun c => ?_, ?_, by simp [hafter]⟩
  · have haccount := h.account c
    rw [SocketAdapter.serves_of_running hloop] at haccount
    rw [SocketAdapter.serves_of_running hafter]
    have hkept := @account_step σ c handler s e hopen
    unfold Server.account at hkept
    omega
  · rw [hsame]
    exact h.distinct.sublist hsublist

theorem opens (h : Departures admitted abandoned s.owner.2 s.adapter) {user : Option UInt32}
    (hloop : s.adapter.loop = .running) (hnew : c ∉ admitted) :
    let after := s.step handler.journaled (.opens c user)
    Departures (admitted ++ if after.adapter.serves c then [c] else []) abandoned after.owner.2
      after.adapter := by
  intro after
  have hclient := h.not_isClient hloop hnew
  have hstep : after = _ := step_opens hloop
  by_cases hroom : s.adapter.clients.length < s.adapter.maxConnections
  · rw [if_pos hroom] at hstep
    have hserves : after.adapter.serves c := by
      rw [hstep, SocketAdapter.serves_of_running (by exact hloop), SocketAdapter.isClient_concat]
      simp
    rw [if_pos hserves, hstep]
    exact h.grow user hloop hclient
  · rw [if_neg hroom] at hstep
    have hserves : ¬after.adapter.serves c := by
      rw [hstep, SocketAdapter.serves_of_running (by exact hloop), Bool.not_eq_true]
      exact hclient
    rw [if_neg hserves, hstep, List.append_nil]
    exact ⟨h.account, h.distinct, h.idle⟩

theorem of_quiet {s' : Server (σ × List HandlerCall)} {answer : SocketAnswer}
    (hact : s.act handler.journaled action = (s', answer)) (hopened : action.opened? = none)
    (hanswer : ∀ reason, answer ≠ .returned reason)
    (hbooks : Departures admitted abandoned s'.owner.2 s'.adapter) :
    Departures (admitted ++ s.admits handler.journaled action)
      (abandoned ++ s.abandons handler.journaled action)
      (s.act handler.journaled action).1.owner.2 (s.act handler.journaled action).1.adapter := by
  have habandons : s.abandons handler.journaled action = [] := by
    rw [abandons, hact]
    cases answer with
    | returned reason => exact absurd rfl (hanswer reason)
    | done | failed error | silent => rfl
  rw [admits, hopened, habandons, hact, List.append_nil, List.append_nil]
  exact hbooks

theorem act_look (h : Departures admitted abandoned s.owner.2 s.adapter)
    (hstray : s.adapter.stray = false) :
    Departures (admitted ++ s.admits handler.journaled .look)
      (abandoned ++ s.abandons handler.journaled .look)
      (s.act handler.journaled .look).1.owner.2 (s.act handler.journaled .look).1.adapter := by
  by_cases hloop : s.adapter.loop = .running
  · have hact := @act_look_of_running _ handler.journaled s hloop
    cases hreason : s.adapter.stopReason with
    | none =>
      rw [hreason] at hact
      exact of_quiet hact rfl (by simp) h
    | some reason =>
      rw [hreason] at hact
      have hbooks : Departures admitted (abandoned ++ s.adapter.clients.map Peer.connection)
          s.owner.2 { s.adapter with loop := .over, stray := false } := h.look hloop rfl rfl
      have hopened : SocketAction.look.opened? = none := rfl
      rw [admits, hopened, abandons, hact, List.append_nil]
      exact hbooks
  · exact of_quiet (act_look_of_not_running hloop hstray) rfl (by simp) h

theorem act_meets (h : Departures admitted abandoned s.owner.2 s.adapter) {e : ConnectionEvent}
    (hnew : ∀ c ∈ e.opened?, c ∉ admitted) :
    Departures (admitted ++ s.admits handler.journaled (.meets e))
      (abandoned ++ s.abandons handler.journaled (.meets e))
      (s.act handler.journaled (.meets e)).1.owner.2
      (s.act handler.journaled (.meets e)).1.adapter := by
  by_cases hloop : s.adapter.loop = .running
  · have hact : s.act handler.journaled (.meets e) = (s.step handler.journaled e, .silent) := by
      rw [Server.act, if_pos hloop]
    cases hopen : e.opened? with
    | none => exact of_quiet hact hopen (by simp) (h.event hopen hloop)
    | some c =>
      cases e with
      | opens d user =>
        have hbooks := @opens _ d handler s admitted abandoned h user hloop (hnew d rfl)
        rw [admits, abandons, hact, List.append_nil]
        exact hbooks
      | writes | hangsUp | isTold => cases hopen
  · have hact : s.act handler.journaled (.meets e) = (s, .silent) := by
      rw [Server.act, if_neg hloop]
    rw [admits, abandons, hact]
    cases SocketAction.opened? (.meets e) <;>
      simpa [SocketAdapter.serves_of_not_running hloop] using h

theorem act (h : Departures admitted abandoned s.owner.2 s.adapter)
    (hstray : s.adapter.stray = false)
    (hrelease : action = .deinit → s.adapter.loop ≠ .running)
    (hnew : ∀ c ∈ action.opened?, c ∉ admitted) :
    Departures (admitted ++ s.admits handler.journaled action)
      (abandoned ++ s.abandons handler.journaled action)
      (s.act handler.journaled action).1.owner.2 (s.act handler.journaled action).1.adapter := by
  cases action with
  | init =>
    by_cases hloop : s.adapter.loop = .released
    · have hact := @act_init_of_released _ handler.journaled s hloop
      split_ifs at hact
      · exact of_quiet hact rfl (by simp) (h.of_empty (by simp [hloop]) (h.idle (.inl hloop)))
      · exact of_quiet hact rfl (by simp) h
    · exact of_quiet (act_init_of_not_released hloop) rfl (by simp) h
  | deinit =>
    by_cases hloop : s.adapter.loop = .released
    · exact of_quiet (act_of_released hloop).1 rfl (by simp) h
    · exact of_quiet (act_deinit_of_not_released hloop) rfl (by simp) (h.of_empty (hrelease rfl) rfl)
  | stop reason =>
    by_cases hloop : s.adapter.loop = .released
    · exact of_quiet ((act_of_released hloop).2.1 reason) rfl (by simp) h
    · exact of_quiet (act_stop_of_not_released hloop reason) rfl (by simp)
        ⟨h.account, h.distinct, h.idle⟩
  | run =>
    cases hloop : s.adapter.loop with
    | released => exact of_quiet (act_of_released hloop).2.2 rfl (by simp) h
    | ready =>
      exact of_quiet (act_run_of_ready hloop) rfl (by simp)
        (h.of_empty (by simp [hloop]) (h.idle (.inr hloop)))
    | _ => exact of_quiet (act_run_again (by simp [hloop])) rfl (by simp) h
  | look => exact h.act_look hstray
  | meets e => exact h.act_meets hnew

end

theorem admits_sublist (handler : TellingHandler σ) (actions : List SocketAction) (s : Server σ) :
    (s.trace handler (admits handler) actions).Sublist (SocketAction.opened actions) := by
  induction actions generalizing s with
  | nil => exact .slnil
  | cons action rest ih =>
    have hfirst : (s.admits handler action).Sublist action.opened?.toList := by
      unfold admits
      cases action.opened? with
      | none => exact .slnil
      | some c =>
        dsimp only
        split_ifs
        · exact List.Sublist.refl _
        · exact List.nil_sublist _
    have hopened : SocketAction.opened (action :: rest) =
        action.opened?.toList ++ SocketAction.opened rest := by
      cases h : action.opened? <;> simp [SocketAction.opened, h]
    rw [trace, hopened]
    exact hfirst.append (ih _)

theorem acted {handler : TellingHandler σ} {site : SocketSite} {maxConnections : Nat}
    {clock : Timestamp} {owner : σ} {actions : List SocketAction} :
    let start : Server (σ × List HandlerCall) := ⟨.new site maxConnections clock, owner, []⟩
    (SocketAction.opened actions).Nodup → InOrder handler.journaled start actions →
    Departures (start.trace handler.journaled (admits handler.journaled) actions)
      (start.trace handler.journaled (abandons handler.journaled) actions)
      (start.acted handler.journaled actions).owner.2
      (start.acted handler.journaled actions).adapter := by
  intro start hopened horder
  induction actions using List.reverseRecOn with
  | nil => exact ⟨fun _ => rfl, List.nodup_nil, fun _ => rfl⟩
  | append_singleton actions action ih =>
    have hstep : InStep site (start.history handler.journaled actions)
        (start.acted handler.journaled actions).adapter := InStep.acted horder.of_append
    rw [SocketAction.opened, List.filterMap_append, List.nodup_append] at hopened
    rw [trace_concat, trace_concat, acted_concat]
    refine (ih hopened.1 horder.of_append).act hstep.stray ?_ fun c hc hmem => ?_
    · rintro rfl
      exact hstep.not_running (horder actions [] rfl)
    · refine hopened.2.2 c ((admits_sublist _ _ _).subset hmem) c ?_ rfl
      simpa using hc

end Departures

/-! Keeping a journal changes nothing. -/

theorem act_forget (handler : TellingHandler σ) (action : SocketAction)
    (s : Server (σ × List HandlerCall)) :
    (s.act handler.journaled action).1.forget = (s.forget.act handler action).1 := by
  cases action with
  | init | deinit | stop reason | run => rfl
  | look =>
    have hleave : s.forget.adapter.leave? = s.adapter.leave? := rfl
    rw [act, act, hleave]
    cases s.adapter.leave? <;> rfl
  | meets e =>
    have hloop : s.forget.adapter.loop = s.adapter.loop := rfl
    rw [act, act, hloop]
    split_ifs
    · exact step_forget e s
    · rfl

theorem acted_forget (handler : TellingHandler σ) (actions : List SocketAction)
    (s : Server (σ × List HandlerCall)) :
    (s.acted handler.journaled actions).forget = s.forget.acted handler actions := by
  induction actions using List.reverseRecOn with
  | nil => rfl
  | append_singleton actions action ih => rw [acted_concat, acted_concat, act_forget, ih]

/-- What there is to say of the reports after some actions: an admitted connection is reported once,
unless it is served still or was left behind. Without an event loop, all were reported just in case none
was left behind. -/
structure ReportsDepartures (handler : TellingHandler σ) (start : Server (σ × List HandlerCall))
    (actions : List SocketAction) (s : Server (σ × List HandlerCall))
    (admitted abandoned : List ConnectionId) : Prop where
  forget : s.forget = start.forget.acted handler actions
  nodup_admitted : admitted.Nodup
  nodup_abandoned : abandoned.Nodup
  abandoned_subset : abandoned ⊆ admitted
  others : ∀ c, c ∉ admitted → s.owner.2.count (.connectionClosed c) = 0
  reports : ∀ c ∈ admitted, s.owner.2.count (.connectionClosed c) =
    if c ∈ abandoned ∨ s.adapter.serves c then 0 else 1
  complete : s.adapter.loop ≠ .running →
    ((∀ c ∈ admitted, s.owner.2.count (.connectionClosed c) = 1) ↔ abandoned = [])

theorem departure_history (handler : TellingHandler σ) (site : SocketSite) (maxConnections : Nat)
    (clock : Timestamp) (owner : σ) (actions : List SocketAction)
    (hopened : (SocketAction.opened actions).Nodup)
    (horder : InOrder handler.journaled ⟨.new site maxConnections clock, owner, []⟩ actions) :
    let start : Server (σ × List HandlerCall) := ⟨.new site maxConnections clock, owner, []⟩
    ReportsDepartures handler start actions (start.acted handler.journaled actions)
      (start.trace handler.journaled (admits handler.journaled) actions)
      (start.trace handler.journaled (abandons handler.journaled) actions) := by
  intro start
  have hbooks := Departures.acted hopened horder
  have hadmitted := hopened.sublist (Departures.admits_sublist handler.journaled actions start)
  exact {
    forget := acted_forget handler actions start
    nodup_admitted := hadmitted
    nodup_abandoned := hbooks.nodup_abandoned hadmitted
    abandoned_subset := hbooks.abandoned_subset
    others := fun c hc => hbooks.count_of_notMem hc
    reports := fun c hc => hbooks.count_of_mem hadmitted hc
    complete := by
      intro hloop
      constructor
      · refine fun hall => List.eq_nil_iff_forall_not_mem.mpr fun c hc => ?_
        have hc' := hbooks.abandoned_subset hc
        have hone := hall c hc'
        rw [hbooks.count_of_mem hadmitted hc', if_pos (.inl hc)] at hone
        cases hone
      · intro hnone c hc
        rw [hbooks.count_of_mem hadmitted hc, hnone, SocketAdapter.serves_of_not_running hloop]
        simp }

/-- Two connections are admitted. One of them is closed, and the other is open when the stop comes. -/
def sampleLife : List SocketAction :=
  [.init, .run, .meets (.opens ⟨1⟩ none), .meets (.opens ⟨2⟩ none), .meets (.hangsUp ⟨2⟩),
    .stop .shutdown, .look, .deinit]

def sampleFresh : Server (Unit × List HandlerCall) := ⟨.new .vacant 2 ⟨0, 0, 0⟩, (), []⟩

def sampleHandler : TellingHandler Unit := .registering fun _ _ => pure (.rejected .failed)

theorem departure_history_sample :
    (SocketAction.opened sampleLife).Nodup ∧
    sampleFresh.InOrder sampleHandler.journaled sampleLife ∧
    let s := sampleFresh.acted sampleHandler.journaled sampleLife
    s.owner.2.count (.connectionClosed ⟨1⟩) = 0 ∧ s.owner.2.count (.connectionClosed ⟨2⟩) = 1 := by
  have hopened : (SocketAction.opened sampleLife).Nodup := by decide +kernel
  have horder : sampleFresh.InOrder sampleHandler.journaled sampleLife := by decide +kernel
  have hfirst : ⟨1⟩ ∈ sampleFresh.trace sampleHandler.journaled (admits sampleHandler.journaled)
      sampleLife := by decide +kernel
  have hleft : ⟨1⟩ ∈ sampleFresh.trace sampleHandler.journaled (abandons sampleHandler.journaled)
      sampleLife := by decide +kernel
  have hsecond : ⟨2⟩ ∈ sampleFresh.trace sampleHandler.journaled (admits sampleHandler.journaled)
      sampleLife := by decide +kernel
  have hclosed : ¬(⟨2⟩ ∈ sampleFresh.trace sampleHandler.journaled (abandons sampleHandler.journaled)
      sampleLife ∨ (sampleFresh.acted sampleHandler.journaled sampleLife).adapter.serves ⟨2⟩) := by
    decide +kernel
  have hdepartures :=
    departure_history sampleHandler .vacant 2 ⟨0, 0, 0⟩ () sampleLife hopened horder
  exact ⟨hopened, horder, (hdepartures.reports ⟨1⟩ hfirst).trans (if_pos (.inl hleft)),
    (hdepartures.reports ⟨2⟩ hsecond).trans (if_neg hclosed)⟩

/-- After the release, the connection that was open at the stop has never been reported. -/
theorem departure_unreported :
    let s := sampleFresh.acted sampleHandler.journaled sampleLife
    let admitted := sampleFresh.trace sampleHandler.journaled (admits sampleHandler.journaled)
      sampleLife
    sampleFresh.InOrder sampleHandler.journaled sampleLife ∧ s.adapter.loop = .released ∧
    ¬∀ c ∈ admitted, s.owner.2.count (.connectionClosed c) = 1 := by
  decide +kernel

end Server
end ResourceBroker
