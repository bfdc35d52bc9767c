import ResourceBroker.Proofs.Server.Admission

/-!
What is exchanged at a socket, told by its events alone: those who hold a place are answered by the
handler, every other connection is refused, and a status reaches whoever holds a place.
-/

namespace ResourceBroker

open ConnectionEvent (held opened Admitted life IsText)

/-- A request that is answered or refused, or a status that is told, with what comes of it. -/
inductive Exchange where
  | answers (connection : ConnectionId) (request : Request) (response : Response)
  | refuses (connection : ConnectionId) (request : Request)
  | tells (connection : ConnectionId) (status : Status) (result : Except IpcError Unit)

namespace Exchange

def connection : Exchange → ConnectionId
  | .answers c _ _ | .refuses c _ | .tells c _ _ => c

def requestOn? (c : ConnectionId) : Exchange → Option Request
  | .answers d request _ | .refuses d request => if d = c then some request else none
  | .tells _ _ _ => none

/-- What is written, and to whom. A status that cannot be told is not written anywhere. -/
def sends? (clock : Timestamp) : Exchange → Option (ConnectionId × Outbound)
  | .answers c _ response => some (c, .response response)
  | .refuses c request => some (c, .response (refuse request))
  | .tells c status (.ok _) => some (c, .event (.new clock (.registrationUpdated status)))
  | .tells _ _ (.error _) => none

def written (clock : Timestamp) (exchanges : List Exchange) : List (ConnectionId × Outbound) :=
  exchanges.filterMap (sends? clock)

/-- An answer is the one of the handler, and goes to an admitted connection as a status does. Telling
fails in one way only. A connection that was refused once is never admitted. -/
def Fits {σ : Type} (handler : TellingHandler σ) (max : Nat) (events : List ConnectionEvent) :
    Exchange → Prop
  | .answers c request response =>
    Admitted max events c ∧ ∃ owner, (handler.dispatch c request owner).value.1 = response
  | .tells c _ (.ok _) => Admitted max events c
  | .refuses c _ => c ∈ opened events ∧ ¬Admitted max events c
  | .tells c _ (.error error) => error = .unknownConnection c

theorem written_append (clock : Timestamp) (first last : List Exchange) :
    written clock (first ++ last) = written clock first ++ written clock last :=
  List.filterMap_append

theorem connection_of_sends? {clock : Timestamp} {x : Exchange} {c : ConnectionId}
    {message : Outbound} (h : x.sends? clock = some (c, message)) : x.connection = c := by
  cases x with
  | answers | refuses => exact congrArg Prod.fst (Option.some.inj h)
  | tells d status result =>
    cases result with
    | ok => exact congrArg Prod.fst (Option.some.inj h)
    | error => cases h

theorem filter_written (clock : Timestamp) (c : ConnectionId) (exchanges : List Exchange) :
    (written clock exchanges).filter (fun entry => entry.1 = c) =
      written clock (exchanges.filter fun x => x.connection = c) := by
  rw [written, written, List.filter_filterMap, List.filterMap_filter]
  refine List.filterMap_congr fun x _ => ?_
  rcases hx : x.sends? clock with - | ⟨d, message⟩
  · simp
  · obtain rfl := connection_of_sends? hx
    by_cases hc : x.connection = c <;> simp [hc]

end Exchange

structure Transcript (σ : Type) where
  owner : σ
  exchanges : List Exchange

namespace ConnectionEvent

/-- The requests that an event completes, by the life of its connection. -/
def completed (events : List ConnectionEvent) (e : ConnectionEvent) : List Request :=
  (life e.connection (events ++ [e])).requests.drop (life e.connection events).requests.length

variable {c : ConnectionId} {events : List ConnectionEvent} {e : ConnectionEvent}

theorem requests_append_singleton :
    (life c (events ++ [e])).requests =
      (life c events).requests ++ if e.connection = c then e.completed events else [] := by
  by_cases he : e.connection = c
  · subst he
    have hlines := @Life.lines_prefix_after e.connection e (life e.connection events)
    rw [if_pos rfl, completed, eq_comm, ← List.prefix_iff_eq_append, life_append_singleton]
    exact hlines.filterMap Server.request?
  · rw [if_neg he, List.append_nil, life_append_singleton, Life.after_of_ne he]

theorem completed_of_lines
    (h : ((life e.connection events).after e.connection e).lines = (life e.connection events).lines) :
    e.completed events = [] := by
  rw [completed, life_append_singleton, Life.requests, Life.requests, h, List.drop_length]

theorem completed_opens {user : Option UInt32} : completed events (.opens c user) = [] := by
  refine completed_of_lines ?_
  rw [connection]
  cases life c events with
  | before => simp [Life.after, Life.lines, Text.splitLines_of_notMem]
  | during | past => rfl

theorem completed_isTold {status : Status} : completed events (.isTold c status) = [] := by
  refine completed_of_lines ?_
  cases life (isTold c status).connection events <;> rfl

theorem completed_of_not_open (h : (life e.connection events).isOpen = false)
    (hopen : e.opened? = none) : e.completed events = [] := by
  refine completed_of_lines ?_
  cases hlife : life e.connection events with
  | during bytes =>
    rw [hlife] at h
    cases h
  | before | past bytes =>
    cases e with
    | opens => cases hopen
    | writes | hangsUp | isTold => rfl

end ConnectionEvent

namespace Transcript

variable {σ : Type}

def tell (held : List ConnectionId) (push : Push) : Exchange :=
  .tells push.1 push.2 (if push.1 ∈ held then .ok () else .error (.unknownConnection push.1))

def perform {β : Type} (held : List ConnectionId) (step : StateT σ Telling β) (t : Transcript σ) :
    β × Transcript σ :=
  let told := step t.owner
  (told.value.1, ⟨told.value.2, t.exchanges ++ told.pushes.map (tell held)⟩)

def serve (handler : TellingHandler σ) (held : List ConnectionId) (c : ConnectionId)
    (t : Transcript σ) (request : Request) : Transcript σ :=
  if c ∈ held then
    let (response, t) := t.perform held (handler.dispatch c request)
    { t with exchanges := t.exchanges ++ [.answers c request response] }
  else { t with exchanges := t.exchanges ++ [.refuses c request] }

/-- The handler hears of the end of a connection that held a place, when it does no more. -/
def step (handler : TellingHandler σ) (max : Nat) (events : List ConnectionEvent) (t : Transcript σ)
    (e : ConnectionEvent) : Transcript σ :=
  let served := (e.completed events).foldl (serve handler (held max events) e.connection) t
  match e with
  | .opens _ _ => t
  | .writes _ _ => served
  | .hangsUp c =>
    if c ∈ held max events then
      (served.perform (held max (events ++ [e])) (handler.connectionClosed c)).2
    else served
  | .isTold c status => { t with exchanges := t.exchanges ++ [tell (held max events) (c, status)] }

def ofEvents (handler : TellingHandler σ) (max : Nat) (owner : σ) (events : List ConnectionEvent) :
    Transcript σ :=
  (events.foldl (fun p e => (p.1 ++ [e], p.2.step handler max p.1 e)) ([], ⟨owner, []⟩)).2

theorem ofEvents_concat (handler : TellingHandler σ) (max : Nat) (owner : σ)
    (events : List ConnectionEvent) (e : ConnectionEvent) :
    ofEvents handler max owner (events ++ [e]) =
      (ofEvents handler max owner events).step handler max events e := by
  have hbefore (before : List ConnectionEvent) (t : Transcript σ) :
      (events.foldl (fun p e => (p.1 ++ [e], p.2.step handler max p.1 e)) (before, t)).1 =
        before ++ events := by
    induction events generalizing before t with
    | nil => exact (List.append_nil before).symm
    | cons e rest ih => rw [List.foldl_cons, ih, List.append_assoc, List.singleton_append]
  rw [ofEvents, List.foldl_append, List.foldl_cons, List.foldl_nil]
  dsimp only
  rw [hbefore, List.nil_append]
  rfl

/-! What the transcript says of requests: each is answered or refused once, in order. -/

section

variable {c d : ConnectionId} {held : List ConnectionId} {handler : TellingHandler σ}
  {t : Transcript σ}

def requestsOn (c : ConnectionId) (t : Transcript σ) : List Request :=
  t.exchanges.filterMap (Exchange.requestOn? c)

theorem filterMap_tell (pushes : List Push) :
    (pushes.map (tell held)).filterMap (Exchange.requestOn? c) = [] := by
  simp [List.filterMap_map, tell, Exchange.requestOn?]

theorem requestsOn_perform {β : Type} (step : StateT σ Telling β) :
    (t.perform held step).2.requestsOn c = t.requestsOn c := by
  rw [perform, requestsOn, List.filterMap_append, filterMap_tell, List.append_nil]
  rfl

theorem requestsOn_serve (request : Request) :
    (t.serve handler held d request).requestsOn c =
      t.requestsOn c ++ if d = c then [request] else [] := by
  have hlast (exchange : Exchange)
      (h : exchange.requestOn? c = if d = c then some request else none) :
      [exchange].filterMap (Exchange.requestOn? c) = if d = c then [request] else [] := by
    rw [List.filterMap_cons, h]
    split_ifs <;> rfl
  unfold serve
  split
  · rw [requestsOn, List.filterMap_append, hlast _ rfl]
    exact congrArg (· ++ _) (requestsOn_perform _)
  · rw [requestsOn, List.filterMap_append, hlast _ rfl]
    rfl

theorem requestsOn_foldl_serve (requests : List Request) (t : Transcript σ) :
    (requests.foldl (serve handler held d) t).requestsOn c =
      t.requestsOn c ++ if d = c then requests else [] := by
  induction requests generalizing t with
  | nil => simp
  | cons request rest ih =>
    rw [List.foldl_cons, ih, requestsOn_serve, List.append_assoc]
    split_ifs <;> rfl

theorem requestsOn_step {max : Nat} {events : List ConnectionEvent}
    (h : t.requestsOn c = (life c events).requests) (e : ConnectionEvent) :
    (t.step handler max events e).requestsOn c = (life c (events ++ [e])).requests := by
  have hserved : ((e.completed events).foldl
      (serve handler (ConnectionEvent.held max events) e.connection) t).requestsOn c =
        (life c (events ++ [e])).requests := by
    rw [requestsOn_foldl_serve, h, ConnectionEvent.requests_append_singleton]
  cases e with
  | opens d user =>
    rw [ConnectionEvent.requests_append_singleton, ConnectionEvent.completed_opens, ite_self,
      List.append_nil]
    exact h
  | writes d bytes => exact hserved
  | hangsUp d =>
    rw [step]
    split_ifs
    · exact (requestsOn_perform _).trans hserved
    · exact hserved
  | isTold d status =>
    rw [ConnectionEvent.requests_append_singleton, ConnectionEvent.completed_isTold, ite_self,
      List.append_nil, step, requestsOn, List.filterMap_append]
    exact (List.append_nil _).trans h

end

/-! Who takes part in what. -/

section

variable {c d : ConnectionId} {held : List ConnectionId} {handler : TellingHandler σ} {max : Nat}
  {events : List ConnectionEvent} {t : Transcript σ}

def Fits (handler : TellingHandler σ) (max : Nat) (events : List ConnectionEvent)
    (t : Transcript σ) : Prop :=
  ∀ x ∈ t.exchanges, x.Fits handler max events

theorem Fits.append {exchanges : List Exchange} (h : t.Fits handler max events)
    (hmore : ∀ x ∈ exchanges, x.Fits handler max events) (owner : σ) :
    Fits handler max events ⟨owner, t.exchanges ++ exchanges⟩ := by
  intro x hx
  obtain hx | hx := List.mem_append.mp hx
  · exact h x hx
  · exact hmore x hx

theorem fits_tell (hheld : ∀ c ∈ held, Admitted max events c) (push : Push) :
    (tell held push).Fits handler max events := by
  unfold tell
  split_ifs with hpush
  · exact hheld _ hpush
  · rfl

theorem Fits.perform {β : Type} (h : t.Fits handler max events)
    (hheld : ∀ c ∈ held, Admitted max events c) (step : StateT σ Telling β) :
    (t.perform held step).2.Fits handler max events := by
  refine h.append (fun x hx => ?_) _
  obtain ⟨push, -, rfl⟩ := List.mem_map.mp hx
  exact fits_tell hheld push

theorem Fits.serve (h : t.Fits handler max events) (hheld : ∀ c ∈ held, Admitted max events c)
    (hrefused : d ∉ held → d ∈ opened events ∧ ¬Admitted max events d) (request : Request) :
    (t.serve handler held d request).Fits handler max events := by
  unfold Transcript.serve
  split_ifs with hd
  · refine (h.perform hheld _).append (fun x hx => ?_) _
    obtain rfl := List.mem_singleton.mp hx
    exact ⟨hheld d hd, t.owner, rfl⟩
  · refine h.append (fun x hx => ?_) _
    obtain rfl := List.mem_singleton.mp hx
    exact hrefused hd

theorem Fits.foldl_serve (hheld : ∀ c ∈ held, Admitted max events c)
    (hrefused : d ∉ held → d ∈ opened events ∧ ¬Admitted max events d) (requests : List Request) :
    t.Fits handler max events →
      (requests.foldl (Transcript.serve handler held d) t).Fits handler max events := by
  induction requests generalizing t with
  | nil => exact id
  | cons request rest ih => exact fun h => ih (h.serve hheld hrefused request)

/-- A connection that has been refused opened before, so that it cannot be admitted later. -/
theorem Fits.concat (h : t.Fits handler max events) {e : ConnectionEvent}
    (hopened : (opened (events ++ [e])).Nodup) : t.Fits handler max (events ++ [e]) := by
  intro x hx
  have hfits := h x hx
  cases x with
  | answers c request response =>
    exact ⟨ConnectionEvent.admitted_append_singleton.mpr (.inl hfits.1), hfits.2⟩
  | tells c status result =>
    cases result with
    | ok => exact ConnectionEvent.admitted_append_singleton.mpr (.inl hfits)
    | error error => exact hfits
  | refuses c request =>
    obtain ⟨hc, hno⟩ := hfits
    refine ⟨?_, fun hadmitted => ?_⟩
    · rw [ConnectionEvent.opened_append_singleton]
      exact List.mem_append_left _ hc
    · obtain hbefore | ⟨⟨user, rfl⟩, -⟩ := ConnectionEvent.admitted_append_singleton.mp hadmitted
      · exact hno hbefore
      · exact ConnectionEvent.notMem_opened hopened hc

theorem Fits.step (h : t.Fits handler max events)
    (hheld : ∀ c, c ∈ ConnectionEvent.held max events ↔
      Admitted max events c ∧ (life c events).isOpen)
    {e : ConnectionEvent} (hopened : (opened (events ++ [e])).Nodup) :
    (t.step handler max events e).Fits handler max (events ++ [e]) := by
  have hadmitted : ∀ c ∈ ConnectionEvent.held max events, Admitted max events c :=
    fun c hc => ((hheld c).mp hc).1
  have hserved (hopen : e.opened? = none) : ((e.completed events).foldl
      (Transcript.serve handler (ConnectionEvent.held max events) e.connection) t).Fits handler max
        events := by
    cases hlife : (life e.connection events).isOpen with
    | false =>
      rw [ConnectionEvent.completed_of_not_open hlife hopen]
      exact h
    | true =>
      refine foldl_serve hadmitted (fun hno => ⟨?_, fun hc => hno ((hheld _).mpr ⟨hc, hlife⟩)⟩) _ h
      by_contra hnew
      rw [life_of_notMem_opened hnew] at hlife
      cases hlife
  refine Fits.concat ?_ hopened
  cases e with
  | opens d user => exact h
  | writes d bytes => exact hserved rfl
  | hangsUp d =>
    rw [Transcript.step]
    split_ifs
    · refine (hserved rfl).perform (fun c hc => hadmitted c ?_) _
      rw [ConnectionEvent.held_append_singleton] at hc
      exact List.mem_of_mem_filter hc
    · exact hserved rfl
  | isTold d status =>
    refine h.append (fun x hx => ?_) t.owner
    obtain rfl := List.mem_singleton.mp hx
    exact fits_tell hadmitted (d, status)

end

end Transcript
end ResourceBroker
