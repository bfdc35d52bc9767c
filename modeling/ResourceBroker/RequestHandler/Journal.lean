import ResourceBroker.RequestHandler.Basic

/-!
Journals of what a handler is called for. Keeping one changes nothing else about the handler.
-/

namespace ResourceBroker

inductive HandlerCall where
  | register (connection : ConnectionId) (definition : String)
  | deregister (connection : ConnectionId) (token : AccessToken)
  | addInstances (connection : ConnectionId) (token : AccessToken) (path : String) (ids : List UInt16)
  | removeInstances (connection : ConnectionId) (token : AccessToken) (path : String)
    (ids : List UInt16)
  | setValues (token : AccessToken) (operations : List ValueOperation)
  | getValues (token : AccessToken) (operations : List ValueOperation)
  | connectionClosed (connection : ConnectionId)
deriving DecidableEq

def HandlerCall.keep {σ β : Type} (call : HandlerCall) (step : StateT σ Telling β) :
    StateT (σ × List HandlerCall) Telling β := fun (owner, calls) => do
  let (result, owner) ← step owner
  pure (result, owner, calls ++ [call])

/-- The same handler with a journal, the latest call last. -/
def RequestHandler.journaled {σ : Type} (handler : TellingHandler σ) :
    TellingHandler (σ × List HandlerCall) where
  register c definition := (HandlerCall.register c definition).keep (handler.register c definition)
  deregister c token := (HandlerCall.deregister c token).keep (handler.deregister c token)
  addInstances c token path ids :=
    (HandlerCall.addInstances c token path ids).keep (handler.addInstances c token path ids)
  removeInstances c token path ids :=
    (HandlerCall.removeInstances c token path ids).keep (handler.removeInstances c token path ids)
  setValues token operations :=
    (HandlerCall.setValues token operations).keep (handler.setValues token operations)
  getValues token operations :=
    (HandlerCall.getValues token operations).keep (handler.getValues token operations)
  connectionClosed c := (HandlerCall.connectionClosed c).keep (handler.connectionClosed c)

end ResourceBroker
