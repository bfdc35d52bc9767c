import Mathlib.Data.List.Induction
import Mathlib.Data.List.Nodup
import ResourceBroker.Proofs.Server.Serve

/-!
What happens at a socket while an event loop runs, and what it means for each connection: whether it is
admitted, how long it lasts, which requests it makes and which calls these are for the handler.
-/

namespace ResourceBroker

inductive ConnectionEvent where
  | opens (connection : ConnectionId) (user : Option UInt32)
  | writes (connection : ConnectionId) (bytes : List UInt8)
  | hangsUp (connection : ConnectionId)
  | isTold (connection : ConnectionId) (status : Status)

namespace ConnectionEvent

def connection : ConnectionEvent → ConnectionId
  | .opens c _ | .writes c _ | .hangsUp c | .isTold c _ => c

def opened? : ConnectionEvent → Option ConnectionId
  | .opens c _ => some c
  | _ => none

def opened (events : List ConnectionEvent) : List ConnectionId := events.filterMap opened?

theorem opened_append_singleton (events : List ConnectionEvent) (e : ConnectionEvent) :
    opened (events ++ [e]) = opened events ++ e.opened?.toList := by
  cases e <;> simp [opened, opened?]

/-- The admitted connections that were not closed yet: one that opens is admitted if there are fewer of
them than the limit. -/
def held (max : Nat) (events : List ConnectionEvent) : List ConnectionId :=
  events.foldl (fun held e => match e with
    | .opens c _ => if held.length < max then held ++ [c] else held
    | .hangsUp c => held.filter (· ≠ c)
    | .writes _ _ | .isTold _ _ => held) []

/-- The connection was admitted: fewer than the limit were held when it opened. -/
def Admitted (max : Nat) (events : List ConnectionEvent) (c : ConnectionId) : Prop :=
  ∃ before user after, events = before ++ .opens c user :: after ∧ (held max before).length < max

end ConnectionEvent

open ConnectionEvent (held opened Admitted)

/-- How long a connection lasts, with the bytes that came in meanwhile. -/
inductive Life where
  | before
  | during (bytes : List UInt8)
  | past (bytes : List UInt8)

namespace Life

def after (c : ConnectionId) (life : Life) (e : ConnectionEvent) : Life :=
  match life, e with
  | .before, .opens d _ => if d = c then .during [] else .before
  | .during bytes, .writes d more => if d = c then .during (bytes ++ more) else .during bytes
  | .during bytes, .hangsUp d => if d = c then .past bytes else .during bytes
  | life, _ => life

def isOpen : Life → Bool
  | .during _ => true
  | _ => false

def isPast : Life → Bool
  | .past _ => true
  | _ => false

/-- The lines so far. Once the connection is past, what is left counts as a line as well. -/
def lines : Life → List (List UInt8)
  | .before => []
  | .during bytes => (Text.splitLines bytes).1
  | .past bytes => Text.allLines bytes

def requests (life : Life) : List Request := life.lines.filterMap Server.request?

/-- The calls that an admitted connection makes: those of its requests in order, and in the end the
report that it was closed. -/
def calls (c : ConnectionId) (life : Life) : List HandlerCall :=
  (life.requests.flatMap fun r => r.calls c) ++ match life with
    | .past _ => [.connectionClosed c]
    | _ => []

def peers (c : ConnectionId) (user : Option UInt32) : Life → List Peer
  | .during bytes => [⟨c, user, (Text.splitLines bytes).2⟩]
  | _ => []

end Life

namespace ConnectionEvent

def life (c : ConnectionId) (events : List ConnectionEvent) : Life :=
  events.foldl (Life.after c) .before

def IsText (events : List ConnectionEvent) : Prop :=
  ∀ c, ∀ line ∈ (life c events).lines, (Text.lineText? line).isSome

end ConnectionEvent

open ConnectionEvent (life)

variable {c : ConnectionId} {events : List ConnectionEvent} {e : ConnectionEvent} {max : Nat}

theorem Life.after_of_ne (h : e.connection ≠ c) (l : Life) : l.after c e = l := by
  cases l <;> cases e <;> simp_all [after, ConnectionEvent.connection]

theorem Life.lines_prefix_after (l : Life) : l.lines <+: (l.after c e).lines := by
  by_cases he : e.connection = c
  · cases l with
    | before => exact List.nil_prefix
    | during bytes =>
      cases e with
      | writes d more =>
        obtain rfl : d = c := he
        rw [after, if_pos rfl, lines, lines, Text.splitLines_append]
        exact List.prefix_append _ _
      | hangsUp d =>
        obtain rfl : d = c := he
        rw [after, if_pos rfl, lines, lines]
        exact List.prefix_append _ _
      | opens | isTold => exact List.prefix_rfl
    | past bytes => cases e <;> exact List.prefix_rfl
  · simp only [after_of_ne he, List.prefix_rfl]

theorem Life.mem_lines_after {l : Life} {line : List UInt8} (h : line ∈ l.lines) :
    line ∈ (l.after c e).lines :=
  l.lines_prefix_after.subset h

theorem life_append_singleton :
    life c (events ++ [e]) = (life c events).after c e := by
  simp [life]

theorem life_of_notMem_opened (h : c ∉ opened events) : life c events = .before := by
  induction events using List.reverseRecOn with
  | nil => rfl
  | append_singleton events e ih =>
    rw [ConnectionEvent.opened_append_singleton, List.mem_append, not_or] at h
    rw [life_append_singleton, ih h.1]
    cases e with
    | opens d user =>
      have hne : d ≠ c := by
        rintro rfl
        exact h.2 List.mem_cons_self
      simp [Life.after, hne]
    | writes | hangsUp | isTold => rfl

theorem Life.peers_eq_nil_iff {l : Life} {user : Option UInt32} :
    l.peers c user = [] ↔ l.isOpen = false := by
  cases l <;> simp [peers, isOpen]

theorem Life.count_connectionClosed_calls (l : Life) :
    (l.calls c).count (.connectionClosed c) = if l.isPast then 1 else 0 := by
  have hrequests : (l.requests.flatMap fun r => r.calls c).count (.connectionClosed c) = 0 := by
    rw [List.count_eq_zero, List.mem_flatMap]
    rintro ⟨r, -, hr⟩
    exact r.connectionClosed_notMem_calls hr
  unfold calls
  rw [List.count_append, hrequests]
  cases l <;> simp [isPast]

theorem Life.connection_of_mem_calls {l : Life} {call : HandlerCall} {d : ConnectionId}
    (h : call ∈ l.calls c) (hd : call.connection? = some d) : d = c := by
  obtain hrequest | hlast := List.mem_append.mp h
  · obtain ⟨r, -, hr⟩ := List.mem_flatMap.mp hrequest
    exact r.connection_of_mem_calls hr hd
  · cases l with
    | past bytes =>
      obtain rfl := List.mem_singleton.mp hlast
      exact (Option.some.inj hd).symm
    | before | during => cases hlast

namespace ConnectionEvent

theorem IsText.of_append {rest : List ConnectionEvent} (h : IsText (events ++ rest)) :
    IsText events := by
  induction rest using List.reverseRecOn with
  | nil => rwa [List.append_nil] at h
  | append_singleton rest e ih =>
    refine ih fun c line hline => h c line ?_
    rw [← List.append_assoc, life_append_singleton]
    exact Life.mem_lines_after hline

theorem nodup_opened_of_append {rest : List ConnectionEvent} (h : (opened (events ++ rest)).Nodup) :
    (opened events).Nodup := by
  rw [opened, List.filterMap_append] at h
  exact h.of_append_left

theorem notMem_opened {user : Option UInt32} (h : (opened (events ++ [.opens c user])).Nodup) :
    c ∉ opened events := by
  rw [opened_append_singleton, List.nodup_append] at h
  exact fun hc => h.2.2 c hc c List.mem_cons_self rfl

theorem held_append_singleton :
    held max (events ++ [e]) = match e with
      | .opens c _ => if (held max events).length < max then held max events ++ [c]
          else held max events
      | .hangsUp c => (held max events).filter (· ≠ c)
      | .writes _ _ | .isTold _ _ => held max events := by
  rw [held, List.foldl_append]
  cases e <;> rfl

theorem length_held_le : (held max events).length ≤ max := by
  induction events using List.reverseRecOn with
  | nil => exact Nat.zero_le max
  | append_singleton events e ih =>
    rw [held_append_singleton]
    cases e with
    | opens c user =>
      dsimp only
      split
      · rw [List.length_append, List.length_singleton]
        omega
      · exact ih
    | hangsUp c => exact Nat.le_trans (List.length_filter_le _ _) ih
    | writes | isTold => exact ih

theorem held_sublist_opened : (held max events).Sublist (opened events) := by
  induction events using List.reverseRecOn with
  | nil => exact .slnil
  | append_singleton events e ih =>
    rw [held_append_singleton, opened_append_singleton]
    cases e with
    | opens c user =>
      dsimp only
      split
      · exact ih.append (List.Sublist.refl [c])
      · exact ih.trans (List.sublist_append_left _ _)
    | hangsUp c => exact (List.filter_sublist.trans ih).trans (List.sublist_append_left _ _)
    | writes | isTold => exact ih.trans (List.sublist_append_left _ _)

theorem length_held_hangsUp (hopened : (opened events).Nodup) :
    (held max (events ++ [.hangsUp c])).length + (if c ∈ held max events then 1 else 0) =
      (held max events).length := by
  have hnodup : (held max events).Nodup := hopened.sublist held_sublist_opened
  have herase : held max (events ++ [.hangsUp c]) = (held max events).erase c := by
    rw [held_append_singleton, hnodup.erase_eq_filter]
    refine List.filter_congr fun d _ => ?_
    rw [Bool.eq_iff_iff, decide_eq_true_iff, bne_iff_ne]
  rw [herase]
  split
  · next hc =>
    rw [List.length_erase_of_mem hc]
    exact Nat.succ_pred_eq_of_pos (List.length_pos_of_mem hc)
  · next hc => rw [List.erase_of_not_mem hc, Nat.add_zero]

theorem not_admitted_nil : ¬Admitted max [] c := by
  rintro ⟨before, user, after, heq, -⟩
  simp at heq

theorem admitted_append_singleton :
    Admitted max (events ++ [e]) c ↔
      Admitted max events c ∨ (∃ user, e = .opens c user) ∧ (held max events).length < max := by
  constructor
  · rintro ⟨before, user, after, heq, hroom⟩
    cases after using List.reverseRecOn with
    | nil =>
      obtain ⟨rfl, he⟩ := List.append_inj' heq rfl
      exact .inr ⟨⟨user, (List.cons.inj he).1⟩, hroom⟩
    | append_singleton after last =>
      rw [← List.cons_append, ← List.append_assoc] at heq
      obtain ⟨rfl, -⟩ := List.append_inj' heq rfl
      exact .inl ⟨before, user, after, rfl, hroom⟩
  · rintro (⟨before, user, after, rfl, hroom⟩ | ⟨⟨user, rfl⟩, hroom⟩)
    · exact ⟨before, user, after ++ [e], by simp, hroom⟩
    · exact ⟨events, user, [], rfl, hroom⟩

theorem admitted_iff :
    Admitted max events c ↔ ∃ i : Fin events.length,
      events[i].opened? = some c ∧ (held max (events.take i)).length < max := by
  constructor
  · rintro ⟨before, user, after, rfl, hroom⟩
    exact ⟨⟨before.length, by simp⟩, by simp [opened?], by simpa using hroom⟩
  · rintro ⟨i, hopened, hroom⟩
    cases he : events[i] with
    | opens d user =>
      rw [he] at hopened
      obtain rfl : d = c := Option.some.inj hopened
      refine ⟨events.take i, user, events.drop (i + 1), ?_, hroom⟩
      rw [← he, Fin.getElem_fin, ← List.drop_eq_getElem_cons, List.take_append_drop]
    | writes | hangsUp | isTold =>
      rw [he] at hopened
      cases hopened

instance : Decidable (Admitted max events c) := decidable_of_iff' _ admitted_iff

theorem isText_iff :
    IsText events ↔
      ∀ c ∈ opened events, ∀ line ∈ (life c events).lines, (Text.lineText? line).isSome := by
  refine ⟨fun h c _ => h c, fun h c => ?_⟩
  by_cases hc : c ∈ opened events
  · exact h c hc
  · rw [life_of_notMem_opened hc]
    exact List.forall_mem_nil _

instance : Decidable (IsText events) := decidable_of_iff' _ isText_iff

theorem Admitted.mem_opened (h : Admitted max events c) : c ∈ opened events := by
  obtain ⟨before, user, after, rfl, -⟩ := h
  simp [opened, opened?]

end ConnectionEvent
end ResourceBroker
