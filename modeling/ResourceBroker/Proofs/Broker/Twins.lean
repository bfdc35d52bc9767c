import ResourceBroker.Broker.Lifecycle

/-!
Two brokers side by side that have nothing different but their adapters. As long as these take the
calls of the lifecycle with the same results, the brokers go through the same phases and answer their
owner the same.
-/

namespace ResourceBroker

/-- An operation carried out on two sides: with the same result, and what it leaves is related. -/
def Matched {β β' ρ : Type} (T : β → β' → Prop) (out : β × ρ) (out' : β' × ρ) : Prop :=
  ∃ x x' result, out = (x, result) ∧ out' = (x', result) ∧ T x x'

variable {α α' : Type}

namespace Matched

variable {β β' ρ : Type} {T : β → β' → Prop} {out : β × ρ} {out' : β' × ρ}

theorem intro {x : β} {x' : β'} (h : T x x') (result : ρ) : Matched T (x, result) (x', result) :=
  ⟨x, x', result, rfl, rfl, h⟩

theorem ite {c : Prop} [Decidable c] {other : β × ρ} {other' : β' × ρ} (h : Matched T out out')
    (hother : Matched T other other') :
    Matched T (if c then out else other) (if c then out' else other') := by
  split
  · exact h
  · exact hother

theorem result_eq (h : Matched T out out') : out.2 = out'.2 := by
  obtain ⟨_, _, _, rfl, rfl, -⟩ := h
  rfl

theorem related (h : Matched T out out') : T out.1 out'.1 := by
  obtain ⟨_, _, _, rfl, rfl, h⟩ := h
  exact h

end Matched

/-- Related adapters take the calls of the broker with the same results, and stay related. -/
structure Steady [Adapter α] [Adapter α'] (Q : α → α' → Prop) : Prop where
  init : ∀ a a', Q a a' → Matched Q (Adapter.init a) (Adapter.init a')
  deinit : ∀ a a', Q a a' → Matched Q (Adapter.deinit a) (Adapter.deinit a')
  enter : ∀ a a', Q a a' → Matched Q (Adapter.enter a) (Adapter.enter a')
  leave : ∀ a a', Q a a' → Option.Rel (Matched Q) (Adapter.leave? a) (Adapter.leave? a')
  stop : ∀ reason a a', Q a a' → Matched Q (Adapter.stop reason a) (Adapter.stop reason a')

structure Aligned (Q : Nat → α → α' → Prop) (adapters : List α) (adapters' : List α') : Prop where
  length : adapters.length = adapters'.length
  each : ∀ place a a', adapters[place]? = some a → adapters'[place]? = some a' → Q place a a'

namespace Aligned

variable {Q : Nat → α → α' → Prop} {adapters : List α} {adapters' : List α'}

theorem lookup (h : Aligned Q adapters adapters') (place : Nat) :
    (adapters[place]? = none ∧ adapters'[place]? = none) ∨
      ∃ a a', adapters[place]? = some a ∧ adapters'[place]? = some a' ∧ Q place a a' := by
  by_cases hplace : place < adapters.length
  · have hplace' : place < adapters'.length := h.length ▸ hplace
    have ha := List.getElem?_eq_getElem hplace
    have ha' := List.getElem?_eq_getElem hplace'
    exact .inr ⟨_, _, ha, ha', h.each place _ _ ha ha'⟩
  · have hplace' : adapters'.length ≤ place := h.length ▸ Nat.le_of_not_lt hplace
    exact .inl ⟨List.getElem?_eq_none (Nat.le_of_not_lt hplace), List.getElem?_eq_none hplace'⟩

theorem set {Q' : Nat → α → α' → Prop} (h : Aligned Q adapters adapters') {place : Nat} {x : α}
    {x' : α'} (hx : Q' place x x') (hother : ∀ q a a', place ≠ q → Q q a a' → Q' q a a') :
    Aligned Q' (adapters.set place x) (adapters'.set place x') where
  length := by rw [List.length_set, List.length_set, h.length]
  each q a a' ha ha' := by
    by_cases hq : place = q
    · subst hq
      rw [List.getElem?_set_self', Option.map_eq_map, Option.map_eq_some_iff] at ha ha'
      obtain ⟨_, -, rfl⟩ := ha
      obtain ⟨_, -, rfl⟩ := ha'
      exact hx
    · rw [List.getElem?_set_ne hq] at ha ha'
      exact hother q a a' hq (h.each q a a' ha ha')

theorem modify (h : Aligned Q adapters adapters') {place : Nat} {change : α → α}
    {change' : α' → α'} (hchange : ∀ a a', Q place a a' → Q place (change a) (change' a')) :
    Aligned Q (adapters.modify place change) (adapters'.modify place change') where
  length := by rw [List.length_modify, List.length_modify, h.length]
  each q a a' ha ha' := by
    rw [List.getElem?_modify, Option.map_eq_map, Option.map_eq_some_iff] at ha ha'
    obtain ⟨x, hx, rfl⟩ := ha
    obtain ⟨x', hx', rfl⟩ := ha'
    have hQ := h.each q x x' hx hx'
    by_cases hq : place = q
    · subst hq
      rw [if_pos rfl, if_pos rfl]
      exact hchange x x' hQ
    · rw [if_neg hq, if_neg hq]
      exact hQ

theorem concat (h : Aligned Q adapters adapters') {x : α} {x' : α'}
    (hx : Q adapters.length x x') : Aligned Q (adapters ++ [x]) (adapters' ++ [x']) where
  length := by rw [List.length_append, List.length_append, h.length]; rfl
  each q a a' ha ha' := by
    obtain hq | hq := Nat.lt_or_ge q adapters.length
    · rw [List.getElem?_append_left hq] at ha
      rw [List.getElem?_append_left (h.length ▸ hq)] at ha'
      exact h.each q a a' ha ha'
    · rw [List.getElem?_append_right hq, List.getElem?_singleton] at ha
      rw [List.getElem?_append_right (h.length ▸ hq), List.getElem?_singleton] at ha'
      split at ha
      · next hzero =>
        obtain rfl := Option.some.inj ha
        split at ha'
        · obtain rfl := Option.some.inj ha'
          have hlast : q = adapters.length := by omega
          rw [hlast]
          exact hx
        · cases ha'
      · cases ha

end Aligned

namespace Broker

def withAdapters (blueprint' : α') (adapters' : List α') (b : Broker α) : Broker α' :=
  { b with blueprint := blueprint', adapters := adapters' }

@[simp] theorem adapters_withAdapters (blueprint' : α') (adapters' : List α') (b : Broker α) :
    (b.withAdapters blueprint' adapters').adapters = adapters' := rfl

/-- Two brokers that have nothing different but their adapters, and these are related. The blueprint
is related by every place that an adapter may yet be built for. -/
inductive Twins (Q : Nat → α → α' → Prop) (b : Broker α) : Broker α' → Prop where
  | intro {blueprint' : α'} {adapters' : List α'} (aligned : Aligned Q b.adapters adapters')
    (blueprint : ∀ place, b.adapters.length ≤ place → Q place b.blueprint blueprint') :
    Twins Q b (b.withAdapters blueprint' adapters')

namespace Twins

variable {Q : Nat → α → α' → Prop} {b : Broker α} {b' : Broker α'}

theorem eq_withAdapters (h : Twins Q b b') :
    ∃ blueprint' adapters', b' = b.withAdapters blueprint' adapters' := by
  obtain ⟨-, -⟩ := h
  exact ⟨_, _, rfl⟩

theorem aligned (h : Twins Q b b') : Aligned Q b.adapters b'.adapters := by
  obtain ⟨aligned, -⟩ := h
  exact aligned

theorem held (h : Twins Q b b') : b'.held = b.held := by
  obtain ⟨-, -⟩ := h
  rfl

theorem registrar (h : Twins Q b b') : b'.registrar = b.registrar := by
  obtain ⟨-, -⟩ := h
  rfl

theorem worker (h : Twins Q b b') : b'.worker = b.worker := by
  obtain ⟨-, -⟩ := h
  rfl

theorem stopTimedOut (h : Twins Q b b') : b'.stopTimedOut = b.stopTimedOut := by
  obtain ⟨-, -⟩ := h
  rfl

theorem call (h : Twins Q b b') {place : Nat} {op : α → α × Except IpcError Unit}
    {op' : α' → α' × Except IpcError Unit}
    (hop : ∀ a a', Q place a a' → Matched (Q place) (op a) (op' a')) :
    Matched (Twins Q) (b.call place op) (b'.call place op') := by
  obtain ⟨aligned, blueprint⟩ := h
  unfold Broker.call
  rw [adapters_withAdapters]
  obtain ⟨hnone, hnone'⟩ | ⟨a, a', ha, ha', hQ⟩ := aligned.lookup place
  · rw [hnone, hnone']
    exact .intro (.intro aligned blueprint) _
  · obtain ⟨x, x', result, hx, hx', hQ'⟩ := hop a a' hQ
    simp only [ha, ha', hx, hx']
    refine ⟨_, _, result, rfl, rfl, .intro (aligned.set hQ' fun _ _ _ _ h => h) ?_⟩
    intro q hq
    rw [List.length_set] at hq
    exact blueprint q hq

theorem start (h : Twins Q b b') (place : Nat) :
    Matched (Twins Q) (b.start place) (b'.start place) := by
  unfold Broker.start
  rw [h.worker]
  refine .ite (.intro h _) ?_
  obtain ⟨aligned, blueprint⟩ := h
  exact .intro (.intro aligned blueprint) _

theorem abandon (h : Twins Q b b') (error : BrokerError) :
    Twins Q (b.abandon error) (b'.abandon error) := by
  obtain ⟨aligned, blueprint⟩ := h
  exact .intro aligned blueprint

theorem build (h : Twins Q b b') : Twins Q b.build b'.build := by
  unfold Broker.build
  rw [h.held]
  cases b.held with
  | some place => exact h.abandon .alreadyInitialized
  | none =>
    obtain ⟨aligned, blueprint⟩ := h
    -- The new adapters come to the same place on both sides.
    dsimp only [withAdapters]
    rw [← aligned.length]
    refine .intro (aligned.concat (blueprint _ (Nat.le_refl _))) fun place hplace => ?_
    rw [List.length_append] at hplace
    exact blueprint place (Nat.le_trans (Nat.le_add_right _ _) hplace)

variable [Adapter α] [Adapter α']

theorem deinit (hQ : ∀ place, Steady (Q place)) (h : Twins Q b b') :
    Matched (Twins Q) b.deinit b'.deinit := by
  unfold Broker.deinit
  rw [h.held]
  cases b.held with
  | none => exact .intro h _
  | some place =>
    -- The adapter is given up before it is released, so it is called on the brokers without it.
    obtain ⟨aligned, blueprint⟩ := h
    have hreleased : Twins Q { b with held := none } _ := .intro aligned blueprint
    obtain ⟨x, x', result, hx, hx', hafter⟩ := hreleased.call (hQ place).deinit
    dsimp only [withAdapters] at hx hx' ⊢
    rw [hx, hx']
    obtain ⟨aligned, blueprint⟩ := hafter
    cases result with
    | ok _ => exact .intro (.intro aligned blueprint) _
    | error e => exact .intro (.intro aligned blueprint) _

theorem enterLoop (hQ : ∀ place, Steady (Q place)) (h : Twins Q b b') :
    Twins Q b.enterLoop b'.enterLoop := by
  unfold Broker.enterLoop
  rw [h.held]
  obtain ⟨aligned, blueprint⟩ := h
  cases b.held with
  | none => exact .intro aligned blueprint
  | some place =>
    have hrunning : Twins Q { b with phase := .running, held := some place } _ :=
      .intro aligned blueprint
    obtain ⟨x, x', result, hx, hx', hafter⟩ := hrunning.call (hQ place).enter
    dsimp only [withAdapters] at hx hx' ⊢
    rw [hx, hx']
    obtain ⟨aligned, blueprint⟩ := hafter
    cases result with
    | ok _ => exact .intro aligned blueprint
    | error e => exact .intro aligned blueprint

theorem initAdapter (hQ : ∀ place, Steady (Q place)) (h : Twins Q b b') (place : Nat) :
    Twins Q (b.initAdapter place) (b'.initAdapter place) := by
  obtain ⟨x, x', result, hx, hx', hafter⟩ := h.call (hQ place).init
  unfold Broker.initAdapter
  rw [hx, hx']
  cases result with
  | error e => exact hafter.abandon e.toBrokerError
  | ok _ =>
    obtain ⟨aligned, blueprint⟩ := hafter
    exact enterLoop hQ (.intro aligned blueprint)

theorem leaveLoop (hQ : ∀ place, Steady (Q place)) (h : Twins Q b b') (place : Nat) :
    Twins Q (b.leaveLoop place) (b'.leaveLoop place) := by
  have hsame := h
  obtain ⟨aligned, blueprint⟩ := h
  unfold Broker.leaveLoop
  rw [adapters_withAdapters]
  obtain ⟨hnone, hnone'⟩ | ⟨a, a', ha, ha', hrelated⟩ := aligned.lookup place
  · rw [hnone, hnone']
    exact hsame
  · have hleave := (hQ place).leave a a' hrelated
    rw [ha, ha', Option.bind_some, Option.bind_some]
    generalize Adapter.leave? a = left, Adapter.leave? a' = left' at hleave ⊢
    cases hleave with
    | none => exact hsame
    | some hleft =>
      obtain ⟨x, x', reason, rfl, rfl, hx⟩ := hleft
      refine .intro (aligned.set hx fun _ _ _ _ h => h) fun q hq => ?_
      rw [List.length_set] at hq
      exact blueprint q hq

theorem conclude (hQ : ∀ place, Steady (Q place)) (h : Twins Q b b')
    (result : Except BrokerError StopReason) : Twins Q (b.conclude result) (b'.conclude result) := by
  obtain ⟨x, x', released, hx, hx', hafter⟩ := h.deinit hQ
  unfold Broker.conclude
  rw [hx, hx']
  obtain ⟨aligned, blueprint⟩ := hafter
  exact .intro aligned blueprint

theorem advance (hQ : ∀ place, Steady (Q place)) (h : Twins Q b b') :
    Twins Q b.advance b'.advance := by
  unfold Broker.advance
  rw [h.worker]
  cases b.worker with
  | starting => exact h.build
  | built place => exact h.initAdapter hQ place
  | looping place => exact h.leaveLoop hQ place
  | returned result => exact h.conclude hQ result
  | absent | finished _ | panicked => exact h

theorem advanceUnder (hQ : ∀ place, Steady (Q place)) (h : Twins Q b b') (i : Interference) :
    Twins Q (b.advanceUnder i) (b'.advanceUnder i) := by
  have hadvance := h.advance hQ
  unfold Broker.advanceUnder
  rw [h.worker]
  cases b.worker with
  | built place =>
    cases i.holdInit with
    | true => exact h
    | false => exact hadvance
  | returned result =>
    dsimp only
    cases i.holdRun && result.isOk with
    | true => exact h
    | false =>
      cases i.panicRun with
      | true =>
        obtain ⟨aligned, blueprint⟩ := h
        exact .intro aligned blueprint
      | false => exact hadvance
  | starting | looping _ | absent | finished _ | panicked => exact hadvance

theorem settle (hQ : ∀ place, Steady (Q place)) (h : Twins Q b b') (i : Interference) :
    Twins Q (b.settle i) (b'.settle i) :=
  (((h.advanceUnder hQ i).advanceUnder hQ i).advanceUnder hQ i).advanceUnder hQ i

theorem signal (hQ : ∀ place, Steady (Q place)) (h : Twins Q b b') :
    Matched (Twins Q) b.signal b'.signal := by
  unfold Broker.signal
  rw [h.held]
  cases b.held with
  | none =>
    dsimp only
    rw [h.stopTimedOut]
    exact .ite (.intro h _) (.intro h _)
  | some place =>
    obtain ⟨x, x', result, hx, hx', hafter⟩ := h.call ((hQ place).stop .shutdown)
    dsimp only
    rw [hx, hx']
    cases result with
    | ok _ =>
      obtain ⟨aligned, blueprint⟩ := hafter
      exact .intro (.intro aligned blueprint) _
    | error e =>
      dsimp only
      rw [hafter.stopTimedOut]
      exact .ite (.intro hafter _) (.intro hafter _)

theorem release (hQ : ∀ place, Steady (Q place)) (h : Twins Q b b') :
    Matched (Twins Q) b.release b'.release := by
  obtain ⟨aligned, blueprint⟩ := h
  have habsent : Twins Q { b with worker := .absent } _ := .intro aligned blueprint
  obtain ⟨x, x', released, hx, hx', hafter⟩ := habsent.deinit hQ
  unfold Broker.release
  dsimp only [withAdapters] at hx hx' ⊢
  rw [hx, hx']
  obtain ⟨aligned, blueprint⟩ := hafter
  exact .intro (.intro aligned blueprint) _

theorem join (hQ : ∀ place, Steady (Q place)) (h : Twins Q b b') :
    Matched (Twins Q) b.join b'.join := by
  unfold Broker.join
  rw [h.worker]
  obtain ⟨aligned, blueprint⟩ := h
  cases b.worker with
  | absent | finished _ => exact release hQ (.intro aligned blueprint)
  | panicked | starting | built _ | looping _ | returned _ =>
    exact .intro (.intro aligned blueprint) _

theorem stop (hQ : ∀ place, Steady (Q place)) (h : Twins Q b b') (i : Interference) :
    Matched (Twins Q) (b.stop i) (b'.stop i) := by
  obtain ⟨x, x', result, hx, hx', hafter⟩ := h.signal hQ
  unfold Broker.stop
  rw [hx, hx']
  cases result with
  | ok _ => exact (hafter.settle hQ i).join hQ
  | error e => exact .intro hafter _

end Twins
end Broker
end ResourceBroker
