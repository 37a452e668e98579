/-
Asking the supervisor.

Of the sessions with the name of the supervisor the one in the first slot is opened, the request is
written over the window in the form that the supervisor expects, and the reply decides.  If the
supervisor did not answer the request, its leading words are put back.  The opened handle is closed
in any case.
-/
import Interception.Engine.Scope
import Interception.Window.Snapshot

namespace Interception

/-- What came of asking the supervisor. -/
inductive Consultation where
  /-- There was no one to ask, or nothing that could be asked; the window was not touched. -/
  | unavailable
  /-- The supervisor failed or declined; the request was put back. -/
  | declined
  /-- The supervisor answered; the request must not be sent. -/
  | handled
deriving DecidableEq

namespace Supervisor

/-- The word of the reply that says whether the supervisor answered. -/
def handledWord : Nat := 2

end Supervisor

namespace Engine

variable {σ : Type}

/-- Puts a request to the supervisor on a handle that was opened for it. -/
def askSupervisor (env : Environment σ) (operation : Watched) (request : Supervisor.Request)
    (saved : Snapshot Supervisor.keptWords) (route : Route) : Engine σ Consultation := do
  let pid ← pid env
  modifyWindow fun w => request.write pid w
  let result ← send env route
  if result.isSuccess && (← window).word Supervisor.handledWord != 0 then
    note (.supervisorHandled operation pid)
    return .handled
  else
    note (.supervisorDeclined operation pid result)
    modifyWindow fun w => w.restore saved
    return .declined

/-- Asks the supervisor about an operation. -/
def consult (env : Environment σ) (operation : Watched) : Engine σ Consultation := do
  match (← registry).firstNamed Supervisor.service with
  | none =>
    note (.supervisorAbsent operation)
    return .unavailable
  | some supervisor =>
    -- Nothing is written over the window before the handle is open.
    let saved := (← window).snapshot Supervisor.keptWords
    match ← Supervisor.Request.encode (readMemory env) operation saved with
    | .error refusal =>
      note (.notEncoded operation refusal)
      return .unavailable
    | .ok request =>
      withOpened env supervisor.session fun opened =>
        match opened with
        | .error result => do
          note (.supervisorUnreachable result)
          return .unavailable
        | .ok handle =>
          askSupervisor env operation request saved (.opened supervisor.session handle)

end Engine

end Interception
