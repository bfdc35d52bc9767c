import ResourceBroker.Proofs.Text.Line
import ResourceBroker.Server

/-!
What a server does with the bytes of one connection depends on the lines they make up, and not on the
pieces they arrive in: the start of a line is kept without an influence on anything else.
-/

namespace ResourceBroker

def Peer.keep (connection : ConnectionId) (unread : List UInt8) (p : Peer) : Peer :=
  if p.connection = connection then { p with unread := unread } else p

@[simp] theorem Peer.connection_keep (connection : ConnectionId) (unread : List UInt8) (p : Peer) :
    (p.keep connection unread).connection = p.connection := by
  unfold keep
  split <;> rfl

variable {c : ConnectionId}

theorem Peer.keep_of_ne {p : Peer} (h : p.connection ≠ c) (unread : List UInt8) :
    p.keep c unread = p := if_neg h

theorem map_keep_of_ne {peers : List Peer} (h : ∀ p ∈ peers, p.connection ≠ c)
    (unread : List UInt8) : peers.map (Peer.keep c unread) = peers :=
  (List.map_congr_left fun p hp => Peer.keep_of_ne (h p hp) unread).trans (List.map_id peers)

namespace SocketAdapter

variable {a : SocketAdapter}

theorem keep_eq (connection : ConnectionId) (unread : List UInt8) (a : SocketAdapter) :
    a.keep connection unread =
      { a with
        clients := a.clients.map (Peer.keep connection unread)
        refused := a.refused.map (Peer.keep connection unread) } := rfl

theorem keep_keep (first last : List UInt8) : (a.keep c first).keep c last = a.keep c last := by
  have hkeep : Peer.keep c last ∘ Peer.keep c first = Peer.keep c last := by
    funext p
    by_cases hp : p.connection = c <;> simp [Peer.keep, hp]
  simp [keep_eq, hkeep]

@[simp] theorem isClient_keep (connection : ConnectionId) (unread : List UInt8) :
    (a.keep c unread).isClient connection = a.isClient connection := by
  simp [isClient, keep_eq, Function.comp_def]

@[simp] theorem isRefused_keep (connection : ConnectionId) (unread : List UInt8) :
    (a.keep c unread).isRefused connection = a.isRefused connection := by
  simp [isRefused, keep_eq, Function.comp_def]

theorem push_keep (connection : ConnectionId) (status : Status) (unread : List UInt8) :
    ((a.keep c unread).push connection status).1 = (a.push connection status).1.keep c unread := by
  simp only [push, isClient_keep]
  split <;> rfl

theorem remove_keep (unread : List UInt8) : (a.keep c unread).remove c = a.remove c := by
  have hfilter (peers : List Peer) :
      (peers.map (Peer.keep c unread)).filter (fun p => p.connection ≠ c) =
        peers.filter fun p => p.connection ≠ c := by
    rw [List.filter_map]
    simp only [Function.comp_def, Peer.connection_keep]
    exact map_keep_of_ne (fun p hp => by simpa using (List.mem_filter.mp hp).2) unread
  rw [remove, remove, keep_eq, hfilter, hfilter]

theorem peer?_keep (unread : List UInt8) :
    (a.keep c unread).peer? c = (a.peer? c).map fun p => { p with unread := unread } := by
  have hfound : (a.keep c unread).peer? c = (a.peer? c).map (Peer.keep c unread) := by
    have hkept : (fun p : Peer => decide (p.connection = c)) ∘ Peer.keep c unread =
        fun p => decide (p.connection = c) := by
      funext p
      simp
    rw [peer?, peer?, keep_eq, ← List.map_append, List.find?_map, hkept]
  rw [hfound]
  cases hpeer : a.peer? c with
  | none => rfl
  | some p =>
    have hp : p.connection = c := by simpa using List.find?_some hpeer
    simp [Peer.keep, hp]

theorem peer?_eq_none_iff :
    a.peer? c = none ↔
      (∀ p ∈ a.clients, p.connection ≠ c) ∧ ∀ p ∈ a.refused, p.connection ≠ c := by
  simp [peer?]

theorem peer?_remove : (a.remove c).peer? c = none := by
  simp [peer?_eq_none_iff, remove]

theorem keep_of_peer?_eq_none (h : a.peer? c = none) (unread : List UInt8) :
    a.keep c unread = a := by
  rw [peer?_eq_none_iff] at h
  rw [keep_eq, map_keep_of_ne h.1, map_keep_of_ne h.2]

theorem isClient_of_peer?_eq_none (h : a.peer? c = none) : a.isClient c = false := by
  rw [peer?_eq_none_iff] at h
  simpa [isClient] using h.1

theorem isRefused_of_peer?_eq_none (h : a.peer? c = none) : a.isRefused c = false := by
  rw [peer?_eq_none_iff] at h
  simpa [isRefused] using h.2

theorem isRefused_of_peer? {p : Peer} (h : a.peer? c = some p) (hclient : a.isClient c = false) :
    a.isRefused c := by
  by_contra hrefused
  have hnone : a.peer? c = none := by
    rw [peer?_eq_none_iff]
    simpa [isClient, isRefused] using And.intro hclient hrefused
  rw [hnone] at h
  cases h

theorem isClient_remove {d : ConnectionId} : (a.remove d).isClient c = (a.isClient c && c ≠ d) := by
  rw [Bool.eq_iff_iff]
  simp only [isClient, remove, List.any_filter, List.any_eq_true, Bool.and_eq_true,
    decide_eq_true_eq]
  constructor
  · rintro ⟨p, hp, hd, rfl⟩
    exact ⟨⟨p, hp, rfl⟩, hd⟩
  · rintro ⟨⟨p, hp, rfl⟩, hd⟩
    exact ⟨p, hp, hd, rfl⟩

theorem remove_of_peer?_eq_none (h : a.peer? c = none) : a.remove c = a := by
  have hfilter {peers : List Peer} (hpeers : ∀ p ∈ peers, p.connection ≠ c) :
      peers.filter (fun p => p.connection ≠ c) = peers :=
    List.filter_eq_self.mpr fun p hp => by simpa using hpeers p hp
  rw [peer?_eq_none_iff] at h
  rw [remove, hfilter h.1, hfilter h.2]

end SocketAdapter

namespace Server

variable {σ : Type} {handler : TellingHandler σ} {s : Server σ}

def keep (connection : ConnectionId) (unread : List UInt8) (s : Server σ) : Server σ :=
  { s with adapter := s.adapter.keep connection unread }

theorem foldl_push_keep (pushes : List Push) (a : SocketAdapter) (unread : List UInt8) :
    pushes.foldl (fun a p => (a.push p.1 p.2).1) (a.keep c unread) =
      (pushes.foldl (fun a p => (a.push p.1 p.2).1) a).keep c unread := by
  induction pushes generalizing a with
  | nil => rfl
  | cons p pushes ih => rw [List.foldl_cons, SocketAdapter.push_keep, ih, List.foldl_cons]

theorem perform_keep {β : Type} (step : StateT σ Telling β) (unread : List UInt8) :
    perform step (s.keep c unread) = ((perform step s).1, (perform step s).2.keep c unread) := by
  simp only [perform, keep, foldl_push_keep]

theorem serve_keep (connection : ConnectionId) (request : Request) (unread : List UInt8) :
    (s.keep c unread).serve handler connection request =
      (s.serve handler connection request).keep c unread := by
  have hclient : (s.keep c unread).adapter.isClient connection = s.adapter.isClient connection :=
    SocketAdapter.isClient_keep connection unread
  have hrefused : (s.keep c unread).adapter.isRefused connection = s.adapter.isRefused connection :=
    SocketAdapter.isRefused_keep connection unread
  rw [serve, serve, hclient, hrefused]
  split
  · simp only [answer, perform_keep]
    rfl
  · split <;> rfl

theorem close_keep (unread : List UInt8) : (s.keep c unread).close handler c = s.close handler c := by
  simp only [close, keep, SocketAdapter.isClient_keep, SocketAdapter.remove_keep]

theorem keep_close (unread : List UInt8) :
    (s.close handler c).keep c unread = s.close handler c := by
  have hrest : ({ s with adapter := s.adapter.remove c } : Server σ).keep c unread =
      { s with adapter := s.adapter.remove c } := by
    rw [keep, SocketAdapter.keep_of_peer?_eq_none SocketAdapter.peer?_remove]
  unfold close
  split
  · have hperform := congrArg Prod.snd (perform_keep (c := c)
      (s := { s with adapter := s.adapter.remove c }) (handler.connectionClosed c) unread)
    rw [hrest] at hperform
    exact hperform.symm
  · exact hrest

theorem readLine_keep (line unread : List UInt8) :
    (s.keep c unread).readLine handler c line = (s.readLine handler c line).keep c unread := by
  unfold readLine
  split
  · rw [close_keep, keep_close]
  · split
    · exact serve_keep c _ unread
    · rfl

theorem foldl_readLine_keep (lines : List (List UInt8)) (unread : List UInt8) (s : Server σ) :
    lines.foldl (readLine handler c) (s.keep c unread) =
      (lines.foldl (readLine handler c) s).keep c unread := by
  induction lines generalizing s with
  | nil => rfl
  | cons line lines ih => rw [List.foldl_cons, readLine_keep, ih, List.foldl_cons]

theorem close_of_gone (h : s.adapter.peer? c = none) : s.close handler c = s := by
  rw [close, SocketAdapter.isClient_of_peer?_eq_none h, SocketAdapter.remove_of_peer?_eq_none h]
  rfl

theorem readLine_of_gone (h : s.adapter.peer? c = none) (line : List UInt8) :
    s.readLine handler c line = s := by
  unfold readLine
  split
  · exact close_of_gone h
  · split
    · simp [serve, SocketAdapter.isClient_of_peer?_eq_none h,
        SocketAdapter.isRefused_of_peer?_eq_none h]
    · rfl

theorem foldl_readLine_of_gone (h : s.adapter.peer? c = none) (lines : List (List UInt8)) :
    lines.foldl (readLine handler c) s = s := by
  induction lines with
  | nil => rfl
  | cons line lines ih => rw [List.foldl_cons, readLine_of_gone h, ih]

theorem receive_eq {p : Peer} (hpeer : s.adapter.peer? c = some p) (bytes : List UInt8) :
    s.receive handler c bytes =
      ((Text.splitLines (p.unread ++ bytes)).1.foldl (readLine handler c) s).keep c
        (Text.splitLines (p.unread ++ bytes)).2 := by
  rw [← foldl_readLine_keep, receive, hpeer]
  rfl

/-- The peer of a connection after some of its lines, with the start of the next, or nothing if the
connection is gone. -/
theorem peer?_keep_foldl (lines : List (List UInt8)) (unread : List UInt8) :
    ((lines.foldl (readLine handler c) s).keep c unread).adapter.peer? c =
      ((lines.foldl (readLine handler c) s).adapter.peer? c).map
        fun p => { p with unread := unread } :=
  SocketAdapter.peer?_keep unread

theorem receive_append (first last : List UInt8) (s : Server σ) :
    s.receive handler c (first ++ last) = (s.receive handler c first).receive handler c last := by
  cases hpeer : s.adapter.peer? c with
  | none =>
    have hreceive (bytes : List UInt8) : s.receive handler c bytes = s := by rw [receive, hpeer]
    rw [hreceive, hreceive, hreceive]
  | some p =>
    rw [receive_eq hpeer first, receive_eq hpeer (first ++ last), ← List.append_assoc,
      Text.splitLines_append, List.foldl_append]
    generalize hlines : (Text.splitLines (p.unread ++ first)).1 = lines
    generalize hunread : (Text.splitLines (p.unread ++ first)).2 = unread
    have hafter := @peer?_keep_foldl c σ handler s lines unread
    -- a line that is not text may have ended the connection before the second piece
    cases hgone : (lines.foldl (readLine handler c) s).adapter.peer? c with
    | none =>
      rw [hgone, Option.map_none] at hafter
      rw [receive, hafter, foldl_readLine_of_gone hgone]
      simp only [keep, SocketAdapter.keep_of_peer?_eq_none hgone]
    | some q =>
      rw [hgone] at hafter
      rw [receive_eq hafter, foldl_readLine_keep]
      exact congrArg (Server.mk · _) (SocketAdapter.keep_keep _ _).symm

theorem foldl_receive (first : List UInt8) (chunks : List (List UInt8)) (s : Server σ) :
    chunks.foldl (fun s bytes => s.receive handler c bytes) (s.receive handler c first) =
      s.receive handler c (first ++ chunks.flatten) := by
  induction chunks generalizing first with
  | nil => rw [List.foldl_nil, List.flatten_nil, List.append_nil]
  | cons chunk chunks ih =>
    rw [List.foldl_cons, ← receive_append, ih, List.flatten_cons, List.append_assoc]

theorem hangUp_eq {p : Peer} (hpeer : s.adapter.peer? c = some p) :
    s.hangUp handler c =
      ((if p.unread.isEmpty then [] else [p.unread]).foldl (readLine handler c) s).close
        handler c := by
  rw [hangUp, hpeer]
  by_cases hunread : p.unread.isEmpty <;> simp [hunread]

theorem hangUp_receive {p : Peer} (hpeer : s.adapter.peer? c = some p) (bytes : List UInt8) :
    (s.receive handler c bytes).hangUp handler c =
      ((Text.allLines (p.unread ++ bytes)).foldl (readLine handler c) s).close handler c := by
  rw [receive_eq hpeer, Text.allLines, List.foldl_append]
  generalize (Text.splitLines (p.unread ++ bytes)).1 = lines
  generalize (Text.splitLines (p.unread ++ bytes)).2 = unread
  have hafter := @peer?_keep_foldl c σ handler s lines unread
  cases hgone : (lines.foldl (readLine handler c) s).adapter.peer? c with
  | none =>
    rw [hgone, Option.map_none] at hafter
    rw [hangUp, hafter, foldl_readLine_of_gone hgone, close_of_gone hgone]
    exact congrArg (Server.mk · _) (SocketAdapter.keep_of_peer?_eq_none hgone unread)
  | some q =>
    rw [hgone, Option.map_some] at hafter
    rw [hangUp_eq hafter, foldl_readLine_keep, close_keep]

/-- A connection that is used until it ends: its lines are read in order, whatever the pieces they
arrive in. -/
theorem hangUp_foldl_receive {p : Peer} (hpeer : s.adapter.peer? c = some p)
    (hunread : Text.lineFeed ∉ p.unread) (chunks : List (List UInt8)) :
    (chunks.foldl (fun s bytes => s.receive handler c bytes) s).hangUp handler c =
      ((Text.allLines (p.unread ++ chunks.flatten)).foldl (readLine handler c) s).close
        handler c := by
  cases chunks with
  | nil =>
    rw [List.foldl_nil, hangUp_eq hpeer, List.flatten_nil, List.append_nil, Text.allLines,
      Text.splitLines_of_notMem hunread, List.nil_append]
  | cons chunk chunks => rw [List.foldl_cons, foldl_receive, hangUp_receive hpeer, List.flatten_cons]

def request? (line : List UInt8) : Option Request :=
  (Text.lineText? line).bind Request.ofText?

/-- Of lines of text, those that hold a request are served, and the others are passed over. -/
theorem foldl_readLine {lines : List (List UInt8)} (h : ∀ line ∈ lines, (Text.lineText? line).isSome)
    (s : Server σ) :
    lines.foldl (readLine handler c) s =
      (lines.filterMap request?).foldl (fun s request => s.serve handler c request) s := by
  induction lines generalizing s with
  | nil => rfl
  | cons line lines ih =>
    rw [List.forall_mem_cons] at h
    obtain ⟨text, htext⟩ := Option.isSome_iff_exists.mp h.1
    rw [List.foldl_cons, ih h.2, readLine, htext, List.filterMap_cons, request?, htext,
      Option.bind_some]
    cases hrequest : Request.ofText? text <;> simp only [hrequest, List.foldl_cons]

end Server
end ResourceBroker
