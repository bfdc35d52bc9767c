import ResourceBroker.Proofs.Server.Step

/-!
The whole life of a socket adapter, with the handler that it serves: calls of its owner, the event loop
that looks whether it is to stop, and what happens at the socket while the loop runs. Lines need not be
text here. Whatever happens at the socket, of the adapter it changes the connections and what was sent.
-/

namespace ResourceBroker

deriving instance DecidableEq for ConnectionEvent

/-- What may come next. A run is seen as its begin, after which connections are served, and the moments
at which the event loop looks for a stop. -/
inductive SocketAction where
  | init
  | deinit
  | stop (reason : StopReason)
  | run
  | look
  | meets (event : ConnectionEvent)
deriving DecidableEq

inductive SocketAnswer where
  | done
  | failed (error : IpcError)
  | returned (reason : StopReason)
  | silent
deriving DecidableEq

def SocketAnswer.ofResult : Except IpcError Unit → SocketAnswer
  | .ok _ => .done
  | .error error => .failed error

variable {σ : Type}

namespace Server

def call (op : SocketAdapter → SocketAdapter × Except IpcError Unit) (s : Server σ) :
    Server σ × SocketAnswer :=
  ({ s with adapter := (op s.adapter).1 }, .ofResult (op s.adapter).2)

/-- An event loop that is not to stop goes on, and without one nothing is served. -/
def act (handler : TellingHandler σ) (action : SocketAction) (s : Server σ) :
    Server σ × SocketAnswer :=
  match action with
  | .init => s.call SocketAdapter.init
  | .deinit => s.call SocketAdapter.deinit
  | .stop reason => s.call (SocketAdapter.stop reason)
  | .run => s.call SocketAdapter.enter
  | .look => match s.adapter.leave? with
    | some (adapter, reason) => ({ s with adapter := adapter }, .returned reason)
    | none => (s, .silent)
  | .meets event => (if s.adapter.loop = .running then s.step handler event else s, .silent)

def acted (handler : TellingHandler σ) (actions : List SocketAction) (s : Server σ) : Server σ :=
  actions.foldl (fun s action => (s.act handler action).1) s

def trace {β : Type} (handler : TellingHandler σ) (observe : Server σ → SocketAction → List β) :
    List SocketAction → Server σ → List β
  | [], _ => []
  | action :: rest, s => observe s action ++ trace handler observe rest (s.act handler action).1

def history (handler : TellingHandler σ) (actions : List SocketAction) (s : Server σ) :
    List (SocketAction × SocketAnswer) :=
  s.trace handler (fun s action => [(action, (s.act handler action).2)]) actions

section

variable {handler : TellingHandler σ} {s : Server σ}

theorem acted_append (first rest : List SocketAction) (s : Server σ) :
    s.acted handler (first ++ rest) = (s.acted handler first).acted handler rest :=
  List.foldl_append

theorem acted_concat (first : List SocketAction) (action : SocketAction) (s : Server σ) :
    s.acted handler (first ++ [action]) = ((s.acted handler first).act handler action).1 :=
  acted_append first [action] s

theorem trace_append {β : Type} (observe : Server σ → SocketAction → List β)
    (first rest : List SocketAction) (s : Server σ) :
    s.trace handler observe (first ++ rest) =
      s.trace handler observe first ++ (s.acted handler first).trace handler observe rest := by
  induction first generalizing s with
  | nil => rfl
  | cons action first ih =>
    rw [List.cons_append, trace, trace, ih, List.append_assoc]
    rfl

theorem trace_concat {β : Type} (observe : Server σ → SocketAction → List β)
    (first : List SocketAction) (action : SocketAction) (s : Server σ) :
    s.trace handler observe (first ++ [action]) =
      s.trace handler observe first ++ observe (s.acted handler first) action := by
  rw [trace_append, trace, trace, List.append_nil]

theorem history_concat (first : List SocketAction) (action : SocketAction) (s : Server σ) :
    s.history handler (first ++ [action]) =
      s.history handler first ++ [(action, ((s.acted handler first).act handler action).2)] :=
  trace_concat _ first action s

end
end Server

/-! What happens at the socket. -/

/-- The same adapter, in which no client is new and some may be gone. What else is the same matters as
well: whether an event loop runs or is to stop, and what stands in place of the socket. -/
def SocketAdapter.Sheds (a b : SocketAdapter) : Prop :=
  ∃ clients refused sent, b = { a with clients := clients, refused := refused, sent := sent } ∧
    (clients.map Peer.connection).Sublist (a.clients.map Peer.connection)

namespace SocketAdapter

variable {a b d : SocketAdapter}

theorem Sheds.refl (a : SocketAdapter) : a.Sheds a :=
  ⟨a.clients, a.refused, a.sent, rfl, List.Sublist.refl _⟩

theorem Sheds.trans (h : a.Sheds b) (h' : b.Sheds d) : a.Sheds d := by
  obtain ⟨_, _, _, rfl, hfirst⟩ := h
  obtain ⟨clients, refused, sent, rfl, hnext⟩ := h'
  exact ⟨clients, refused, sent, rfl, hnext.trans hfirst⟩

theorem sheds_of_sent (sent : List (ConnectionId × Outbound)) : a.Sheds { a with sent := sent } :=
  ⟨a.clients, a.refused, sent, rfl, List.Sublist.refl _⟩

theorem sheds_keep (connection : ConnectionId) (unread : List UInt8) (a : SocketAdapter) :
    a.Sheds (a.keep connection unread) := by
  refine ⟨_, _, _, keep_eq connection unread a, ?_⟩
  simp [Function.comp_def]

theorem sheds_remove (connection : ConnectionId) (a : SocketAdapter) :
    a.Sheds (a.remove connection) :=
  ⟨_, _, _, rfl, List.filter_sublist.map _⟩

end SocketAdapter

namespace Server

variable {handler : TellingHandler σ} {c : ConnectionId} {s : Server σ}

theorem sheds_serve (request : Request) :
    s.adapter.Sheds (s.serve handler c request).adapter := by
  obtain ⟨sent, hsent⟩ := serve_frame handler c request s
  rw [hsent]
  exact SocketAdapter.sheds_of_sent sent

theorem sheds_close (s : Server σ) : s.adapter.Sheds (s.close handler c).adapter := by
  obtain ⟨sent, hsent⟩ := close_frame handler c s
  rw [hsent]
  exact (s.adapter.sheds_remove c).trans (SocketAdapter.sheds_of_sent sent)

theorem sheds_readLine (line : List UInt8) (s : Server σ) :
    s.adapter.Sheds (s.readLine handler c line).adapter := by
  unfold readLine
  split
  · exact sheds_close s
  · split
    · exact sheds_serve _
    · exact .refl _

theorem sheds_foldl_readLine (lines : List (List UInt8)) (s : Server σ) :
    s.adapter.Sheds (lines.foldl (readLine handler c) s).adapter := by
  induction lines generalizing s with
  | nil => exact .refl _
  | cons line lines ih => exact (sheds_readLine line s).trans (ih _)

theorem sheds_step {e : ConnectionEvent} (h : e.opened? = none) :
    s.adapter.Sheds (s.step handler e).adapter := by
  cases e with
  | opens d user => cases h
  | writes d bytes =>
    cases hpeer : s.adapter.peer? d with
    | none => simpa [step, receive, hpeer] using SocketAdapter.Sheds.refl s.adapter
    | some p =>
      rw [step, receive_eq hpeer]
      exact (sheds_foldl_readLine _ s).trans (SocketAdapter.sheds_keep _ _ _)
  | hangsUp d =>
    cases hpeer : s.adapter.peer? d with
    | none => simpa [step, hangUp, hpeer] using SocketAdapter.Sheds.refl s.adapter
    | some p =>
      rw [step, hangUp_eq hpeer]
      exact (sheds_foldl_readLine _ s).trans (sheds_close _)
  | isTold d status =>
    obtain ⟨sent, hsent⟩ := SocketAdapter.push_frame [(d, status)] s.adapter
    have hstep : (s.step handler (.isTold d status)).adapter = { s.adapter with sent := sent } :=
      hsent
    rw [hstep]
    exact SocketAdapter.sheds_of_sent sent

theorem step_opens {user : Option UInt32} (hloop : s.adapter.loop = .running) :
    s.step handler (.opens c user) =
      if s.adapter.clients.length < s.adapter.maxConnections then
        { s with adapter :=
            { s.adapter with clients := s.adapter.clients ++ [⟨c, user, []⟩] } }
      else
        { s with adapter :=
            { s.adapter with refused := s.adapter.refused ++ [⟨c, user, []⟩] } } := by
  rw [step, SocketAdapter.accept?, if_neg (not_not_intro hloop)]
  split_ifs <;> rfl

theorem step_keeps (handler : TellingHandler σ) (s : Server σ) (e : ConnectionEvent) :
    ∃ clients refused sent, (s.step handler e).adapter =
      { s.adapter with clients := clients, refused := refused, sent := sent } := by
  cases e with
  | opens c user =>
    have haccept : (s.step handler (.opens c user)).adapter =
        (s.adapter.accept? c user).getD s.adapter := by
      rw [step]
      cases s.adapter.accept? c user <;> rfl
    rw [haccept, SocketAdapter.accept?]
    split_ifs <;> exact ⟨_, _, _, rfl⟩
  | writes c bytes =>
    obtain ⟨clients, refused, sent, hsame, -⟩ := @sheds_step σ handler s (.writes c bytes) rfl
    exact ⟨clients, refused, sent, hsame⟩
  | hangsUp c =>
    obtain ⟨clients, refused, sent, hsame, -⟩ := @sheds_step σ handler s (.hangsUp c) rfl
    exact ⟨clients, refused, sent, hsame⟩
  | isTold c status =>
    obtain ⟨clients, refused, sent, hsame, -⟩ := @sheds_step σ handler s (.isTold c status) rfl
    exact ⟨clients, refused, sent, hsame⟩

end Server
end ResourceBroker
