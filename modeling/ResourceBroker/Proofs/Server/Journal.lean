import ResourceBroker.Proofs.Server.Step

/-!
A server whose handler keeps a journal does what it does without one.
-/

namespace ResourceBroker

variable {σ β : Type}

namespace Server

def forget (s : Server (σ × List HandlerCall)) : Server σ := ⟨s.adapter, s.owner.1⟩

variable {handler : TellingHandler σ} {c : ConnectionId} {s : Server (σ × List HandlerCall)}

theorem perform_forget {kept : StateT (σ × List HandlerCall) Telling β} {step : StateT σ Telling β}
    {calls : List HandlerCall}
    (h : kept s.owner = (fun told => (told.1, told.2, calls)) <$> step s.owner.1) :
    perform step s.forget = Prod.map id forget (perform kept s) := by
  simp [perform, forget, h]

theorem answer_forget (request : Request) :
    (s.answer handler.journaled c request).forget = s.forget.answer handler c request := by
  have hperform := perform_forget (handler.dispatch_journaled c request s.owner.1 s.owner.2)
  rw [answer, answer, hperform]
  rfl

theorem serve_forget (request : Request) :
    (s.serve handler.journaled c request).forget = s.forget.serve handler c request := by
  simp only [serve, apply_ite forget, answer_forget]
  rfl

theorem close_forget :
    (s.close handler.journaled c).forget = s.forget.close handler c := by
  have hclosed (rest : Server (σ × List HandlerCall)) :
      perform (handler.connectionClosed c) rest.forget =
        Prod.map id forget (perform (handler.journaled.connectionClosed c) rest) :=
    perform_forget rfl
  unfold close
  rw [apply_ite forget]
  exact if_congr Iff.rfl (congrArg Prod.snd (hclosed _)).symm rfl

theorem readLine_forget (line : List UInt8) :
    (s.readLine handler.journaled c line).forget = s.forget.readLine handler c line := by
  cases htext : Text.lineText? line with
  | none => simp only [readLine, htext, close_forget]
  | some text =>
    cases hrequest : Request.ofText? text <;> simp only [readLine, htext, hrequest, serve_forget]

theorem foldl_readLine_forget (lines : List (List UInt8)) (s : Server (σ × List HandlerCall)) :
    (lines.foldl (readLine handler.journaled c) s).forget =
      lines.foldl (readLine handler c) s.forget := by
  induction lines generalizing s with
  | nil => rfl
  | cons line lines ih => rw [List.foldl_cons, List.foldl_cons, ih, readLine_forget]

theorem step_forget (e : ConnectionEvent) (s : Server (σ × List HandlerCall)) :
    (s.step handler.journaled e).forget = s.forget.step handler e := by
  cases e with
  | opens c user =>
    have haccept : s.forget.adapter.accept? c user = s.adapter.accept? c user := rfl
    rw [step, step, haccept]
    cases s.adapter.accept? c user <;> rfl
  | writes c bytes =>
    have hpeer : s.forget.adapter.peer? c = s.adapter.peer? c := rfl
    rw [step, step, receive, receive, hpeer]
    cases s.adapter.peer? c with
    | none => rfl
    | some p => exact foldl_readLine_forget _ _
  | hangsUp c =>
    have hpeer : s.forget.adapter.peer? c = s.adapter.peer? c := rfl
    rw [step, step, hangUp, hangUp, hpeer]
    cases s.adapter.peer? c with
    | none => rfl
    | some p => simp only [close_forget, apply_ite forget, readLine_forget]
  | isTold c status => rfl

end Server
end ResourceBroker
