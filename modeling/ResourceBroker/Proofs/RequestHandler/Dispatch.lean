import ResourceBroker.Proofs.Server.Serve

/-!
How a request is answered. The handler is called once, with the call that belongs to the command, or
not at all, and what it answers decides the response. None of this depends on the monad that the handler
works in.
-/

namespace ResourceBroker

namespace HandlerCall

abbrev Answer : HandlerCall → Type
  | .register .. => RegistrationReply
  | .deregister .. | .addInstances .. | .removeInstances .. => Status
  | .setValues .. | .getValues .. => Status × List ValueOperation
  | .connectionClosed _ => Unit

def status : (call : HandlerCall) → call.Answer → Status
  | .register .., reply => reply.status
  | .deregister .., status | .addInstances .., status | .removeInstances .., status => status
  | .setValues .., (status, _) | .getValues .., (status, _) => status
  | .connectionClosed _, _ => .success

def payload? : (call : HandlerCall) → call.Answer → Option Payload
  | .register .., reply => reply.token.map .registered
  | .deregister .., _ | .addInstances .., _ | .removeInstances .., _ | .setValues .., _ =>
    some .completed
  | .getValues .., (_, operations) => some (.values operations)
  | .connectionClosed _, _ => none

/-- An error hides everything else that was answered. -/
def reply (call : HandlerCall) (answer : call.Answer) : Reply :=
  if (call.status answer).isError then .error (.ofStatus (call.status answer))
  else match call.payload? answer with
    | some payload => .ok payload
    | none => .error ⟨.internalError, "Registration accepted without an access token"⟩

variable {call : HandlerCall} {answer : call.Answer}

theorem reply_of_isError (h : (call.status answer).isError) :
    call.reply answer = .error (.ofStatus (call.status answer)) :=
  if_pos h

theorem reply_of_payload? {payload : Payload} (h : (call.status answer).isError = false)
    (hpayload : call.payload? answer = some payload) : call.reply answer = .ok payload := by
  simp [reply, h, hpayload]

theorem reply_of_payload?_none (h : (call.status answer).isError = false)
    (hpayload : call.payload? answer = none) :
    call.reply answer = .error ⟨.internalError, "Registration accepted without an access token"⟩ := by
  simp [reply, h, hpayload]

end HandlerCall

theorem Command.exists_call? {command : Command} (h : command ≠ .ping) (connection : ConnectionId) :
    ∃ call, command.call? connection = some call := by
  cases command with
  | ping => exact absurd rfl h
  | _ => exact ⟨_, rfl⟩

/-- Only a registration can succeed with nothing to give. -/
theorem Command.register_of_payload?_none {command : Command} {connection : ConnectionId}
    {call : HandlerCall} {answer : call.Answer} (h : command.call? connection = some call)
    (hpayload : call.payload? answer = none) : ∃ definition, command = .register definition := by
  cases command with
  | register definition => exact ⟨definition, rfl⟩
  | ping => cases h
  | _ => cases h; cases hpayload

namespace RequestHandler

variable {m : Type → Type}

def ask (handler : RequestHandler m) : (call : HandlerCall) → m call.Answer
  | .register connection definition => handler.register connection definition
  | .deregister connection token => handler.deregister connection token
  | .addInstances connection token path ids => handler.addInstances connection token path ids
  | .removeInstances connection token path ids => handler.removeInstances connection token path ids
  | .setValues token operations => handler.setValues token operations
  | .getValues token operations => handler.getValues token operations
  | .connectionClosed connection => handler.connectionClosed connection

section Lawful

variable [Monad m] {handler : RequestHandler m} {connection : ConnectionId}
  {request : Request} {call : HandlerCall}

theorem registrationResponse_eq (id : UInt64) (definition : String) (answer : RegistrationReply) :
    registrationResponse id answer =
      ⟨id, apiVersion, (HandlerCall.register connection definition).reply answer⟩ := by
  cases hstatus : answer.status.isError with
  | true =>
    have hreply := @HandlerCall.reply_of_isError (.register connection definition) answer hstatus
    rw [hreply, registrationResponse, if_pos hstatus]
    rfl
  | false =>
    have hpayload := @HandlerCall.reply_of_payload? (.register connection definition) answer
    have hnone := @HandlerCall.reply_of_payload?_none (.register connection definition) answer hstatus
    rw [registrationResponse, if_neg (by simp [hstatus])]
    cases htoken : answer.token with
    | none => rw [hnone (by rw [HandlerCall.payload?, htoken]; rfl)]; rfl
    | some token => rw [hpayload hstatus (by rw [HandlerCall.payload?, htoken]; rfl)]; rfl

theorem ofStatus_eq (id : UInt64) (call : HandlerCall) (answer : call.Answer) {payload : Payload}
    (h : call.payload? answer = some payload) :
    Response.ofStatus id (call.status answer) payload = ⟨id, apiVersion, call.reply answer⟩ := by
  cases hstatus : (call.status answer).isError with
  | true =>
    rw [HandlerCall.reply_of_isError hstatus, Response.ofStatus, if_pos hstatus]
    rfl
  | false =>
    rw [HandlerCall.reply_of_payload? hstatus h, Response.ofStatus, if_neg (by simp [hstatus])]
    rfl

theorem dispatch_of_version (h : request.version ≠ apiVersion) :
    handler.dispatch connection request =
      pure (.failure request.id (unsupportedVersion request.version)) :=
  if_pos h

theorem dispatch_of_ping (hversion : request.version = apiVersion) (h : request.command = .ping) :
    handler.dispatch connection request = pure (.success request.id .pong) := by
  rw [dispatch, if_neg (not_not.mpr hversion), h]
  rfl

theorem dispatch_of_call [LawfulMonad m] (hversion : request.version = apiVersion)
    (h : request.command.call? connection = some call) :
    handler.dispatch connection request =
      (fun answer => ⟨request.id, apiVersion, call.reply answer⟩) <$> handler.ask call := by
  have hresponse := ofStatus_eq request.id call
  rw [dispatch, if_neg (not_not.mpr hversion), map_eq_pure_bind]
  cases hcommand : request.command <;> rw [hcommand] at h <;> cases h
  case register definition => exact bind_congr fun answer => congrArg pure (registrationResponse_eq ..)
  all_goals exact bind_congr fun answer => congrArg pure (hresponse answer rfl)

end Lawful

/-! A handler with a state of its own, that may tell statuses to applications. -/

variable {σ : Type} {handler : TellingHandler σ} {connection : ConnectionId} {request : Request}

theorem told_of_call {call : HandlerCall} (hversion : request.version = apiVersion)
    (h : request.command.call? connection = some call) (owner : σ) :
    handler.dispatch connection request owner =
      ⟨(⟨request.id, apiVersion, call.reply (handler.ask call owner).value.1⟩,
        (handler.ask call owner).value.2), (handler.ask call owner).pushes⟩ := by
  rw [dispatch_of_call hversion h]
  exact congrArg (Telling.mk _) (List.append_nil _)

/-- Whatever the handler is and whatever state it is in, a request is answered under its own number and
the version of the server, and `made` are the calls that a journal would show. One of another version is
refused, and a ping is answered, without a call. Any other command makes its one call, and nothing else
happens. An error is answered with its own sentence, and nothing else that the handler answered is told.
A success is answered with the token, or with the operations as the handler left them, or just as
completed; only a registration can succeed without anything to tell, and that is an internal error. -/
theorem dispatch_calls_once (handler : TellingHandler σ) (connection : ConnectionId)
    (request : Request) (owner : σ) :
    let told := handler.dispatch connection request owner
    let response := told.value.1
    response.id = request.id ∧ response.version = apiVersion ∧
    ∃ made : List HandlerCall,
      (∀ calls, handler.journaled.dispatch connection request (owner, calls) =
        (fun x => (x.1, x.2, calls ++ made)) <$> told) ∧
      (request.version ≠ apiVersion →
        (∃ message, response.result = .error ⟨.failed, message⟩) ∧
        made = [] ∧ told.value.2 = owner ∧ told.pushes = []) ∧
      (request.version = apiVersion → request.command = .ping →
        response.result = .ok .pong ∧ made = [] ∧ told.value.2 = owner ∧ told.pushes = []) ∧
      (request.version = apiVersion → request.command ≠ .ping →
        ∃ call, request.command.call? connection = some call ∧ made = [call] ∧
        let asked := handler.ask call owner
        let answer := asked.value.1
        told.value.2 = asked.value.2 ∧ told.pushes = asked.pushes ∧
        ((call.status answer).isError →
          response.result = .error ⟨call.status answer, (call.status answer).readable⟩) ∧
        ((call.status answer).isError = false → ∀ payload, call.payload? answer = some payload →
          response.result = .ok payload) ∧
        ((call.status answer).isError = false → call.payload? answer = none →
          (∃ definition, request.command = .register definition) ∧
          ∃ message, response.result = .error ⟨.internalError, message⟩)) := by
  have hjournal := handler.dispatch_journaled connection request owner
  by_cases hversion : request.version = apiVersion
  · by_cases hping : request.command = .ping
    · have htold : handler.dispatch connection request owner =
          ⟨(.success request.id .pong, owner), []⟩ := by
        rw [dispatch_of_ping hversion hping]
        rfl
      have hcalls : request.calls connection = [] := by simp [Request.calls, hping, Command.call?]
      rw [htold] at hjournal ⊢
      exact ⟨rfl, rfl, _, hjournal, absurd hversion, fun _ _ => ⟨rfl, hcalls, rfl, rfl⟩,
        fun _ hother => absurd hping hother⟩
    · obtain ⟨call, hcall⟩ := Command.exists_call? hping connection
      have hcalls : request.calls connection = [call] := by simp [Request.calls, hversion, hcall]
      rw [told_of_call hversion hcall owner] at hjournal ⊢
      refine ⟨rfl, rfl, _, hjournal, absurd hversion, fun _ h => absurd h hping,
        fun _ _ => ⟨call, hcall, hcalls, rfl, rfl, ?_, ?_, ?_⟩⟩
      · exact fun herror => HandlerCall.reply_of_isError herror
      · exact fun hsuccess payload hpayload => HandlerCall.reply_of_payload? hsuccess hpayload
      · exact fun hsuccess hnone => ⟨Command.register_of_payload?_none hcall hnone, _,
          HandlerCall.reply_of_payload?_none hsuccess hnone⟩
  · have htold : handler.dispatch connection request owner =
        ⟨(.failure request.id (unsupportedVersion request.version), owner), []⟩ := by
      rw [dispatch_of_version hversion]
      rfl
    have hcalls : request.calls connection = [] := if_pos hversion
    rw [htold] at hjournal ⊢
    exact ⟨rfl, rfl, _, hjournal, fun _ => ⟨⟨_, rfl⟩, hcalls, rfl, rfl⟩,
      fun h => absurd h hversion, fun h => absurd h hversion⟩

end RequestHandler
end ResourceBroker
