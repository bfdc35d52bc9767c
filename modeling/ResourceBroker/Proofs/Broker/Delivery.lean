import ResourceBroker.Proofs.Broker.Admission
import ResourceBroker.Proofs.Broker.Tries
import ResourceBroker.Proofs.Broker.Twins

/-!
What becomes of the statuses that a broker sends has no influence on what it does. Two runs may differ
in the pushes that fail, and in calls that no broker supports and reports of closed connections that
come in between. Then all else is the same in both: the answers, the results of the lifecycle, the
registrar, and the pushes that are tried. What an adapter has delivered is what was tried at its place,
less the tries that failed.
-/

namespace ResourceBroker

namespace Try

def deliveredAt (place : Nat) (tries : List Try) : List Push :=
  (tries.filter fun t => t.place = place ∧ t.delivered).map Try.push

theorem deliveredAt_append (place : Nat) (first rest : List Try) :
    deliveredAt place (first ++ rest) = deliveredAt place first ++ deliveredAt place rest := by
  unfold deliveredAt
  rw [List.filter_append, List.map_append]

theorem deliveredAt_concat (place : Nat) (p : Push) (delivered : Bool) (tries : List Try) :
    deliveredAt place (tries ++ [⟨place, p, delivered⟩]) =
      if delivered then deliveredAt place tries ++ [p] else deliveredAt place tries := by
  rw [deliveredAt_append]
  cases delivered <;> simp [deliveredAt]

theorem deliveredAt_other {t : Try} {place : Nat} (h : t.place ≠ place) :
    deliveredAt place [t] = [] := by
  simp [deliveredAt, h]

end Try

/-- The statuses that an adapter has delivered. Nothing adds to them but a push that succeeds. -/
structure StatusLog (α : Type) [Adapter α] where
  told : α → List Push
  init : ∀ a, told (Adapter.init a).1 = told a
  deinit : ∀ a, told (Adapter.deinit a).1 = told a
  enter : ∀ a, told (Adapter.enter a).1 = told a
  leave : ∀ a left, Adapter.leave? a = some left → told left.1 = told a
  stop : ∀ reason a, told (Adapter.stop reason a).1 = told a
  push : ∀ (p : Push) a, told (Adapter.push p.1 p.2 a).1 =
    if (Adapter.push p.1 p.2 a).2.isOk then told a ++ [p] else told a

/-- Adapters of two kinds that are alike in all but their pushes: alike adapters take the same push
and are still alike, whether it has succeeded with both, with one or with none. -/
structure Likeness (α α' : Type) [Adapter α] [Adapter α'] where
  Alike : α → α' → Prop
  steady : Steady Alike
  push : ∀ (p : Push) a a', Alike a a' →
    Alike (Adapter.push p.1 p.2 a).1 (Adapter.push p.1 p.2 a').1
  log : StatusLog α
  log' : StatusLog α'

variable {α α' : Type} [Adapter α] [Adapter α']

namespace Action

def results (b : Broker α) : Action α → List (Except BrokerError Unit)
  | .start place => [(b.start place).2]
  | .stop i => [(b.stop i).2]
  | .deinit => [b.deinit.2]
  | _ => []

inductive Idle : Action α → Prop where
  | connectionClosed (connection : ConnectionId) : Idle (.connectionClosed connection)
  | unsupported (call : UnsupportedCall) : Idle (.unsupported call)

theorem Idle.step {a : Action α} (h : a.Idle) (b : Broker α) : a.step b = b := by
  cases h with
  | connectionClosed connection => rfl
  | unsupported call => rw [Action.step, Broker.unsupported_frame]

theorem Idle.effect {a : Action α} (h : a.Idle) (b : Broker α) :
    a.effect b = pure b.registrar := by
  cases h <;> rfl

theorem Idle.attempts {a : Action α} (h : a.Idle) (b : Broker α) : a.attempts b = [] := by
  rw [Action.attempts, h.effect]
  rfl

theorem Idle.tries {a : Action α} (h : a.Idle) (b : Broker α) : a.tries b = [] := by
  rw [Action.tries, h.attempts]
  rfl

theorem Idle.replies {a : Action α} (h : a.Idle) (b : Broker α) : a.replies b = [] := by
  cases h <;> rfl

theorem Idle.results {a : Action α} (h : a.Idle) (b : Broker α) : a.results b = [] := by
  cases h <;> rfl

end Action

namespace Likeness

/-- What adapters go through by themselves, on both sides. They may come to fail or to succeed with
their pushes, but are otherwise alike, and deliver nothing. -/
structure Quiet (like : Likeness α α') (change : α → α) (change' : α' → α') : Prop where
  alike : ∀ a a', like.Alike a a' → like.Alike (change a) (change' a')
  told : ∀ a, like.log.told (change a) = like.log.told a
  told' : ∀ a', like.log'.told (change' a') = like.log'.told a'

inductive Agrees (like : Likeness α α') : Action α → Action α' → Prop where
  | start (place : Nat) : Agrees like (.start place) (.start place)
  | stop (i : Interference) : Agrees like (.stop i) (.stop i)
  | deinit : Agrees like .deinit .deinit
  | advance (i : Interference) : Agrees like (.advance i) (.advance i)
  | transport (place : Nat) {change : α → α} {change' : α' → α'} (h : like.Quiet change change') :
    Agrees like (.transport place change) (.transport place change')
  | blueprint {change : α → α} {change' : α' → α'} (h : like.Quiet change change') :
    Agrees like (.blueprint change) (.blueprint change')
  | register (connection : ConnectionId) (definition : String) (during : List Firing) :
    Agrees like (.register connection definition during) (.register connection definition during)
  | fire (firing : Firing) : Agrees like (.fire firing) (.fire firing)
  | script (place : Nat) (complete : Bool) (failure : Option CloudClientError) :
    Agrees like (.script place complete failure) (.script place complete failure)

/-- Two runs with the same actions, and idle ones put in anywhere on either side. -/
inductive Parallel (like : Likeness α α') : List (Action α) → List (Action α') → Prop where
  | done : Parallel like [] []
  | both {a : Action α} {a' : Action α'} {rest : List (Action α)} {rest' : List (Action α')}
    (h : like.Agrees a a') (hrest : Parallel like rest rest') :
    Parallel like (a :: rest) (a' :: rest')
  | left {a : Action α} {rest : List (Action α)} {rest' : List (Action α')} (h : a.Idle)
    (hrest : Parallel like rest rest') : Parallel like (a :: rest) rest'
  | right {a' : Action α'} {rest : List (Action α)} {rest' : List (Action α')} (h : a'.Idle)
    (hrest : Parallel like rest rest') : Parallel like rest (a' :: rest')

/-- Two adapters at a place that are alike, and what each has delivered of the tries on its side. -/
structure Told (like : Likeness α α') (tries tries' : List Try) (place : Nat) (a : α) (a' : α') :
    Prop where
  alike : like.Alike a a'
  told : like.log.told a = Try.deliveredAt place tries
  told' : like.log'.told a' = Try.deliveredAt place tries'

namespace Told

variable {like : Likeness α α'} {tries tries' : List Try} {place : Nat} {a : α} {a' : α'}

theorem keep {ρ : Type} (h : like.Told tries tries' place a a') {out : α × ρ} {out' : α' × ρ}
    (hout : Matched like.Alike out out') (htold : like.log.told out.1 = like.log.told a)
    (htold' : like.log'.told out'.1 = like.log'.told a') :
    Matched (like.Told tries tries' place) out out' := by
  obtain ⟨x, x', result, rfl, rfl, halike⟩ := hout
  exact ⟨x, x', result, rfl, rfl, halike, htold.trans h.told, htold'.trans h.told'⟩

theorem steady (like : Likeness α α') (tries tries' : List Try) (place : Nat) :
    Steady (like.Told tries tries' place) where
  init a a' h := h.keep (like.steady.init a a' h.alike) (like.log.init a) (like.log'.init a')
  deinit a a' h :=
    h.keep (like.steady.deinit a a' h.alike) (like.log.deinit a) (like.log'.deinit a')
  enter a a' h := h.keep (like.steady.enter a a' h.alike) (like.log.enter a) (like.log'.enter a')
  leave a a' h := by
    have hleave := like.steady.leave a a' h.alike
    have htold := like.log.leave a
    have htold' := like.log'.leave a'
    generalize Adapter.leave? a = left, Adapter.leave? a' = left' at hleave htold htold' ⊢
    cases hleave with
    | none => exact .none
    | some hout => exact .some (h.keep hout (htold _ rfl) (htold' _ rfl))
  stop reason a a' h :=
    h.keep (like.steady.stop reason a a' h.alike) (like.log.stop reason a)
      (like.log'.stop reason a')

theorem push (h : like.Told tries tries' place a a') (p : Push) :
    like.Told (tries ++ [⟨place, p, (Adapter.push p.1 p.2 a).2.isOk⟩])
      (tries' ++ [⟨place, p, (Adapter.push p.1 p.2 a').2.isOk⟩]) place
      (Adapter.push p.1 p.2 a).1 (Adapter.push p.1 p.2 a').1 where
  alike := like.push p a a' h.alike
  told := by rw [like.log.push, Try.deliveredAt_concat, h.told]
  told' := by rw [like.log'.push, Try.deliveredAt_concat, h.told']

theorem elsewhere (h : like.Told tries tries' place a a') {t t' : Try} (ht : t.place ≠ place)
    (ht' : t'.place ≠ place) : like.Told (tries ++ [t]) (tries' ++ [t']) place a a' where
  alike := h.alike
  told := by rw [Try.deliveredAt_append, Try.deliveredAt_other ht, List.append_nil, h.told]
  told' := by rw [Try.deliveredAt_append, Try.deliveredAt_other ht', List.append_nil, h.told']

end Told

theorem Quiet.keep {like : Likeness α α'} {change : α → α} {change' : α' → α'}
    (h : like.Quiet change change') {tries tries' : List Try} {place : Nat} {a : α} {a' : α'}
    (ha : like.Told tries tries' place a a') :
    like.Told tries tries' place (change a) (change' a') where
  alike := h.alike a a' ha.alike
  told := (h.told a).trans ha.told
  told' := (h.told' a').trans ha.told'

end Likeness

namespace Broker.Twins

variable {like : Likeness α α'} {tries tries' : List Try} {b : Broker α} {b' : Broker α'}

omit [Adapter α] [Adapter α'] in
theorem inUse? {Q : Nat → α → α' → Prop} (h : Twins Q b b') :
    (b.inUse? = none ∧ b'.inUse? = none) ∨
      ∃ place a a', b.inUse? = some (place, a) ∧ b'.inUse? = some (place, a') ∧ Q place a a' := by
  unfold Broker.inUse?
  rw [h.held]
  obtain ⟨aligned, -⟩ := h
  cases b.held with
  | none => exact .inl ⟨rfl, rfl⟩
  | some place =>
    rw [adapters_withAdapters, Option.bind_some, Option.bind_some]
    obtain ⟨hnone, hnone'⟩ | ⟨a, a', ha, ha', hQ⟩ := aligned.lookup place
    · rw [hnone, hnone']
      exact .inl ⟨rfl, rfl⟩
    · rw [ha, ha']
      exact .inr ⟨place, a, a', rfl, rfl, hQ⟩

theorem push (h : Twins (like.Told tries tries') b b') (p : Push) :
    Twins (like.Told (tries ++ (b.reach? p).toList) (tries' ++ (b'.reach? p).toList))
      (b.push p) (b'.push p) ∧
    (b.reach? p).map Try.request = (b'.reach? p).map Try.request := by
  unfold reach?
  obtain ⟨hnone, hnone'⟩ | ⟨place, a, a', ha, ha', htold⟩ := h.inUse?
  · rw [push_of_inUse?_eq_none hnone, push_of_inUse?_eq_none hnone', hnone, hnone',
      Option.map_none, Option.map_none, Option.toList_none, List.append_nil, List.append_nil]
    exact ⟨h, rfl⟩
  · rw [push_of_inUse?_eq_some ha, push_of_inUse?_eq_some ha', ha, ha', Option.map_some,
      Option.map_some, Option.toList_some, Option.toList_some]
    refine ⟨?_, rfl⟩
    -- Only the adapter in use hears of the push; at the other places nothing was tried.
    obtain ⟨aligned, blueprint⟩ := h
    refine .intro (aligned.set (htold.push p) fun q x x' hq hx => hx.elsewhere hq hq) ?_
    intro q hq
    rw [List.length_set] at hq
    have hplace : place < b.adapters.length :=
      (List.getElem?_eq_some_iff.mp (inUse?_eq_some_iff.mp ha).2).1
    have hne : place ≠ q := Nat.ne_of_lt (Nat.lt_of_lt_of_le hplace hq)
    exact (blueprint q hq).elsewhere hne hne

theorem foldl_push (pushes : List Push) (h : Twins (like.Told tries tries') b b') :
    Twins (like.Told (tries ++ b.tries pushes) (tries' ++ b'.tries pushes))
      (pushes.foldl Broker.push b) (pushes.foldl Broker.push b') ∧
    (b.tries pushes).map Try.request = (b'.tries pushes).map Try.request := by
  induction pushes generalizing tries tries' b b' with
  | nil =>
    simp only [Broker.tries, List.append_nil, and_true]
    exact h
  | cons p rest ih =>
    obtain ⟨hpush, hrequest⟩ := h.push p
    obtain ⟨hrest, hrequests⟩ := ih hpush
    simp only [Broker.tries, ← List.append_assoc, List.map_append, ← Option.toList_map, hrequest,
      hrequests, and_true]
    exact hrest

theorem tell (h : Twins (like.Told tries tries') b b') (told : Telling Registrar) :
    Twins (like.Told (tries ++ Broker.tries told.pushes { b with registrar := told.value })
        (tries' ++ Broker.tries told.pushes { b' with registrar := told.value }))
      (b.tell told) (b'.tell told) ∧
    (Broker.tries told.pushes { b with registrar := told.value }).map Try.request =
      (Broker.tries told.pushes { b' with registrar := told.value }).map Try.request := by
  have htold : Twins (like.Told tries tries') { b with registrar := told.value }
      { b' with registrar := told.value } := by
    obtain ⟨aligned, blueprint⟩ := h
    exact .intro aligned blueprint
  exact htold.foldl_push told.pushes

end Broker.Twins

/-! One action on both sides -/

namespace Likeness.Agrees

variable {like : Likeness α α'} {tries tries' : List Try} {b : Broker α} {b' : Broker α'}
  {a : Action α} {a' : Action α'}

theorem attempts_eq (ha : like.Agrees a a') (h : b'.registrar = b.registrar) :
    a.attempts b = a'.attempts b' := by
  cases ha with
  | register connection definition during =>
    rw [Action.attempts, Action.attempts, Action.effect, Action.effect, h]
  | fire firing => rw [Action.attempts, Action.attempts, Action.effect, Action.effect, h]
  | start _ | stop _ | deinit | advance _ | transport _ _ | blueprint _ | script _ _ _ => rfl

theorem replies_eq (ha : like.Agrees a a') (h : b'.registrar = b.registrar) :
    a.replies b = a'.replies b' := by
  cases ha with
  | register connection definition during =>
    simp only [Action.replies, Broker.reply_registerDuring, h]
  | start _ | stop _ | deinit | advance _ | transport _ _ | blueprint _ | fire _ | script _ _ _ =>
    rfl

theorem results_eq (ha : like.Agrees a a') (h : Broker.Twins (like.Told tries tries') b b') :
    a.results b = a'.results b' := by
  have hsteady := Told.steady like tries tries'
  cases ha with
  | start place => simp only [Action.results, (h.start place).result_eq]
  | stop i => simp only [Action.results, (h.stop hsteady i).result_eq]
  | deinit => simp only [Action.results, (h.deinit hsteady).result_eq]
  | register _ _ _ | advance _ | transport _ _ | blueprint _ | fire _ | script _ _ _ => rfl

theorem step_of_silent (ha : a.tries b = []) (ha' : a'.tries b' = [])
    (h : Broker.Twins (like.Told tries tries') (a.step b) (a'.step b')) :
    Broker.Twins (like.Told (tries ++ a.tries b) (tries' ++ a'.tries b')) (a.step b)
      (a'.step b') ∧
    (a.tries b).map Try.request = (a'.tries b').map Try.request := by
  rw [ha, ha', List.append_nil, List.append_nil]
  exact ⟨h, rfl⟩

theorem step (ha : like.Agrees a a') (h : Broker.Twins (like.Told tries tries') b b') :
    Broker.Twins (like.Told (tries ++ a.tries b) (tries' ++ a'.tries b')) (a.step b)
      (a'.step b') ∧
    (a.tries b).map Try.request = (a'.tries b').map Try.request := by
  have hsteady := Told.steady like tries tries'
  have hregistrar := h.registrar
  cases ha with
  | register connection definition during =>
    rw [Broker.step_register, Broker.step_register, Action.tries, Action.tries, Action.attempts,
      Action.attempts, Action.effect, Action.effect, hregistrar]
    exact h.tell _
  | fire firing =>
    rw [Action.step, Action.step, Action.tries, Action.tries, Action.attempts, Action.attempts,
      Action.effect, Action.effect, hregistrar]
    exact h.tell _
  | start place => exact step_of_silent rfl rfl (h.start place).related
  | stop i => exact step_of_silent rfl rfl (h.stop hsteady i).related
  | deinit => exact step_of_silent rfl rfl (h.deinit hsteady).related
  | advance i => exact step_of_silent rfl rfl (h.advanceUnder hsteady i)
  | transport place hquiet =>
    obtain ⟨aligned, blueprint⟩ := h
    refine step_of_silent rfl rfl (.intro (aligned.modify fun a a' => hquiet.keep) ?_)
    intro q hq
    simp only [Action.step, List.length_modify] at hq
    exact blueprint q hq
  | blueprint hquiet =>
    obtain ⟨aligned, blueprint⟩ := h
    exact step_of_silent rfl rfl (.intro aligned fun q hq => hquiet.keep (blueprint q hq))
  | script place complete failure =>
    obtain ⟨aligned, blueprint⟩ := h
    exact step_of_silent rfl rfl (.intro aligned blueprint)

end Likeness.Agrees

/-! Runs -/

namespace Likeness.Parallel

variable {like : Likeness α α'} {tries tries' : List Try} {b : Broker α} {b' : Broker α'}
  {actions : List (Action α)} {actions' : List (Action α')}

theorem run (hactions : like.Parallel actions actions')
    (h : Broker.Twins (like.Told tries tries') b b') :
    Broker.Twins (like.Told (tries ++ b.trace Action.tries actions)
      (tries' ++ b'.trace Action.tries actions')) (b.run actions) (b'.run actions') ∧
    (b.trace Action.tries actions).map Try.request =
      (b'.trace Action.tries actions').map Try.request := by
  -- An idle action leaves its broker as it is, so that the other side need not move.
  induction hactions generalizing tries tries' b b' with
  | done =>
    simp only [Broker.trace, List.append_nil, and_true]
    exact h
  | both ha _ ih =>
    obtain ⟨hstep, hrequest⟩ := ha.step h
    obtain ⟨hrest, hrequests⟩ := ih hstep
    simp only [Broker.trace, ← List.append_assoc, List.map_append, hrequest, hrequests, and_true]
    exact hrest
  | left hidle _ ih =>
    rw [Broker.trace, Broker.run_cons, hidle.tries, hidle.step]
    exact ih h
  | right hidle _ ih =>
    rw [Broker.trace, Broker.run_cons, hidle.tries, hidle.step]
    exact ih h

theorem trace_eq {β : Type} {observe : Broker α → Action α → List β}
    {observe' : Broker α' → Action α' → List β}
    (hboth : ∀ tries tries' (b : Broker α) (b' : Broker α') a a', like.Agrees a a' →
      Broker.Twins (like.Told tries tries') b b' → observe b a = observe' b' a')
    (hleft : ∀ b a, a.Idle → observe b a = []) (hright : ∀ b' a', a'.Idle → observe' b' a' = [])
    (hactions : like.Parallel actions actions')
    (h : Broker.Twins (like.Told tries tries') b b') :
    b.trace observe actions = b'.trace observe' actions' := by
  induction hactions generalizing tries tries' b b' with
  | done => rfl
  | both ha _ ih =>
    rw [Broker.trace, Broker.trace, hboth _ _ _ _ _ _ ha h, ih (ha.step h).1]
  | left hidle _ ih =>
    rw [Broker.trace, hleft _ _ hidle, hidle.step, List.nil_append]
    exact ih h
  | right hidle _ ih =>
    rw [Broker.trace, hright _ _ hidle, hidle.step, List.nil_append]
    exact ih h

end Likeness.Parallel

/-- Two runs between which delivery is the only difference. -/
structure Likeness.SameCourse (like : Likeness α α') (fresh : Broker α) (actions : List (Action α))
    (fresh' : Broker α') (actions' : List (Action α')) : Prop where
  replies : fresh.trace Action.replies actions = fresh'.trace Action.replies actions'
  results : fresh.trace Action.results actions = fresh'.trace Action.results actions'
  registrar : (fresh.run actions).registrar = (fresh'.run actions').registrar
  rest : ∃ blueprint' adapters',
    fresh'.run actions' = (fresh.run actions).withAdapters blueprint' adapters'
  attempts : fresh.trace Action.attempts actions = fresh'.trace Action.attempts actions'
  requests : (fresh.trace Action.tries actions).map Try.request =
    (fresh'.trace Action.tries actions').map Try.request
  delivered : ∀ place a, (fresh.run actions).adapters[place]? = some a →
    like.log.told a = Try.deliveredAt place (fresh.trace Action.tries actions)
  delivered' : ∀ place a', (fresh'.run actions').adapters[place]? = some a' →
    like.log'.told a' = Try.deliveredAt place (fresh'.trace Action.tries actions')

namespace Broker

/-- Whether pushes fail has no influence, and neither have idle actions. -/
theorem delivery_has_no_influence (like : Likeness α α') {blueprint : α} {blueprint' : α'}
    (halike : like.Alike blueprint blueprint') (htold : like.log.told blueprint = [])
    (htold' : like.log'.told blueprint' = []) (stopTimeout : Duration) (registrar : Registrar)
    {actions : List (Action α)} {actions' : List (Action α')}
    (hactions : like.Parallel actions actions') :
    like.SameCourse (.new blueprint stopTimeout registrar) actions
      (.new blueprint' stopTimeout registrar) actions' := by
  have hfresh : Twins (like.Told [] []) (Broker.new blueprint stopTimeout registrar)
      (Broker.new blueprint' stopTimeout registrar) :=
    .intro ⟨rfl, fun _ _ _ ha _ => nomatch ha⟩ fun _ _ => ⟨halike, htold, htold'⟩
  obtain ⟨hrun, hrequests⟩ := hactions.run hfresh
  rw [List.nil_append, List.nil_append] at hrun
  constructor
  · exact Likeness.Parallel.trace_eq
      (fun _ _ _ _ _ _ ha h => ha.replies_eq h.registrar) (fun b _ hidle => hidle.replies b)
      (fun b' _ hidle => hidle.replies b') hactions hfresh
  · exact Likeness.Parallel.trace_eq
      (fun _ _ _ _ _ _ ha h => ha.results_eq h) (fun b _ hidle => hidle.results b)
      (fun b' _ hidle => hidle.results b') hactions hfresh
  · exact hrun.registrar.symm
  · exact hrun.eq_withAdapters
  · exact Likeness.Parallel.trace_eq
      (fun _ _ _ _ _ _ ha h => ha.attempts_eq h.registrar) (fun b _ hidle => hidle.attempts b)
      (fun b' _ hidle => hidle.attempts b') hactions hfresh
  · exact hrequests
  · intro place a ha
    obtain ⟨hnone, -⟩ | ⟨x, x', hx, hx', hsides⟩ := hrun.aligned.lookup place
    · cases hnone.symm.trans ha
    · obtain rfl := Option.some.inj (hx.symm.trans ha)
      exact hsides.told
  · intro place a' ha'
    obtain ⟨-, hnone⟩ | ⟨x, x', hx, hx', hsides⟩ := hrun.aligned.lookup place
    · cases hnone.symm.trans ha'
    · obtain rfl := Option.some.inj (hx'.symm.trans ha')
      exact hsides.told'

end Broker

/-! Scripted adapters -/

namespace ScriptedAdapter

def statusLog : StatusLog ScriptedAdapter where
  told := updates
  init a := by
    change (ScriptedAdapter.init a).1.updates = a.updates
    unfold ScriptedAdapter.init
    dsimp only
    split
    · rfl
    · split <;> rfl
  deinit a := by
    change (ScriptedAdapter.deinit a).1.updates = a.updates
    unfold ScriptedAdapter.deinit
    dsimp only
    split
    · rfl
    · split <;> rfl
  enter a := by
    change (ScriptedAdapter.enter a).1.updates = a.updates
    unfold ScriptedAdapter.enter
    split
    · rfl
    · split <;> rfl
  leave a left h := by
    obtain ⟨_, -, rfl⟩ := Option.map_eq_some_iff.mp h
    rfl
  stop reason a := by
    change (ScriptedAdapter.stop reason a).1.updates = a.updates
    unfold ScriptedAdapter.stop
    dsimp only
    split
    · rfl
    · split <;> rfl
  push p a := by
    change (ScriptedAdapter.push p.1 p.2 a).1.updates =
      if (ScriptedAdapter.push p.1 p.2 a).2.isOk then a.updates ++ [p] else a.updates
    unfold ScriptedAdapter.push
    split <;> rfl

def Alike (a a' : ScriptedAdapter) : Prop :=
  ∃ fails updates, a' = { a with faults := { a.faults with updates := fails }, updates := updates }

theorem steady_alike : Steady Alike where
  init a a' h := by
    obtain ⟨fails, updates, rfl⟩ := h
    exact .ite (.intro ⟨fails, updates, rfl⟩ _)
      (.ite (.intro ⟨fails, updates, rfl⟩ _) (.intro ⟨fails, updates, rfl⟩ _))
  deinit a a' h := by
    obtain ⟨fails, updates, rfl⟩ := h
    exact .ite (.intro ⟨fails, updates, rfl⟩ _)
      (.ite (.intro ⟨fails, updates, rfl⟩ _) (.intro ⟨fails, updates, rfl⟩ _))
  enter a a' h := by
    obtain ⟨fails, updates, rfl⟩ := h
    exact .ite (.intro ⟨fails, updates, rfl⟩ _)
      (.ite (.intro ⟨fails, updates, rfl⟩ _) (.intro ⟨fails, updates, rfl⟩ _))
  leave a a' h := by
    obtain ⟨fails, updates, rfl⟩ := h
    change Option.Rel (Matched Alike) (ScriptedAdapter.leave? a) (ScriptedAdapter.leave? _)
    unfold ScriptedAdapter.leave?
    dsimp only
    cases a.stopReason with
    | none => exact .none
    | some reason => exact .some (.intro ⟨fails, updates, rfl⟩ reason)
  stop reason a a' h := by
    obtain ⟨fails, updates, rfl⟩ := h
    exact .ite (.intro ⟨fails, updates, rfl⟩ _)
      (.ite (.intro ⟨fails, updates, rfl⟩ _) (.intro ⟨fails, updates, rfl⟩ _))

def likeness : Likeness ScriptedAdapter ScriptedAdapter where
  Alike := Alike
  steady := steady_alike
  push p a a' h := by
    obtain ⟨fails, updates, rfl⟩ := h
    change Alike (ScriptedAdapter.push p.1 p.2 a).1 (ScriptedAdapter.push p.1 p.2 _).1
    unfold ScriptedAdapter.push
    split
    · split
      · exact ⟨fails, updates, rfl⟩
      · exact ⟨fails, updates ++ [p], rfl⟩
    · split
      · exact ⟨fails, updates, rfl⟩
      · exact ⟨fails, updates ++ [p], rfl⟩
  log := statusLog
  log' := statusLog

def mute (a : ScriptedAdapter) : ScriptedAdapter :=
  { a with faults := { a.faults with updates := true } }

theorem quiet_mute : likeness.Quiet id mute where
  alike := by
    rintro a a' ⟨fails, updates, rfl⟩
    exact ⟨true, updates, rfl⟩
  told _ := rfl
  told' _ := rfl

end ScriptedAdapter

/-- One adapter delivers a success, and the other one fails while its application comes and goes. -/
theorem Broker.delivery_has_no_influence_sample :
    let actions : List (Action ScriptedAdapter) :=
      [.start 0, .advance .none, .advance .none, .transport 0 id, .register ⟨1⟩ sampleDefinition [],
        .fire (.bound 0 .completed), .stop .none]
    let actions' : List (Action ScriptedAdapter) :=
      [.start 0, .advance .none, .advance .none, .transport 0 .mute,
        .register ⟨1⟩ sampleDefinition [], .connectionClosed ⟨1⟩,
        .unsupported (.deregister ⟨1⟩ (.unary 0)), .fire (.bound 0 .completed), .stop .none]
    ScriptedAdapter.likeness.Alike (.new .none) (.new .none) ∧
      ScriptedAdapter.likeness.log.told (.new .none) = [] ∧
      ScriptedAdapter.likeness.Parallel actions actions' ∧
      (sample.run actions).adapters.map ScriptedAdapter.updates = [[(⟨1⟩, .success)]] ∧
      (sample.run actions').adapters.map ScriptedAdapter.updates = [[]] ∧
      ScriptedAdapter.likeness.SameCourse sample actions sample actions' := by
  intro actions actions'
  have halike : ScriptedAdapter.likeness.Alike (.new .none) (.new .none) := ⟨false, [], rfl⟩
  have hactions : ScriptedAdapter.likeness.Parallel actions actions' :=
    .both (.start 0) <| .both (.advance .none) <| .both (.advance .none) <|
      .both (.transport 0 ScriptedAdapter.quiet_mute) <| .both (.register ⟨1⟩ sampleDefinition []) <|
      .right (.connectionClosed ⟨1⟩) <| .right (.unsupported (.deregister ⟨1⟩ (.unary 0))) <|
      .both (.fire (.bound 0 .completed)) <| .both (.stop .none) .done
  exact ⟨halike, rfl, hactions, by decide +kernel, by decide +kernel,
    delivery_has_no_influence ScriptedAdapter.likeness halike rfl rfl _ _ hactions⟩

end ResourceBroker
