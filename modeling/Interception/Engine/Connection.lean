/-
Connections to services.

A request to connect carries the name of the service in its first two payload words, and its reply
the handle of the new session in its third.  The call is made, and the session behind that handle
is registered under that name.
-/
import Interception.Engine.Outcome
import Interception.Engine.Scope

namespace Interception.Engine

variable {σ : Type}

/-- The word of the reply that holds the new handle. -/
def handleWord : Nat := 3

/-- The name that a request to connect asks for. -/
def requestedName (w : Window) : Option ServiceName :=
  ServiceName.ofBytes (w.bytes 1 8).toList

/-- Registers the session behind a handle of the reply under the name that was asked for. -/
def learnName (env : Environment σ) (name : Option ServiceName) (handle : Handle) :
    Engine σ Unit :=
  withClient env handle fun resolved =>
    match name, resolved with
    | some name, .ok (_, session) => register session name
    | none, _ => note (.unnamedService handle)
    | some name, .error error => note (.unusableService name handle error)

/-- Makes the call and learns the name of the session in its reply.  A failed call leaves no handle
behind: its caller would take a word that was never written for a handle of its own. -/
def learnConnection (env : Environment σ) (handle : Handle) : Engine σ Outcome := do
  -- The name has to be read now: the reply overwrites the words that hold it.
  let name := requestedName (← window)
  let result ← send env (.caller handle)
  if result.isFailure then
    modifyWindow fun w => w.set handleWord 0
    return .answered result
  else
    learnName env name ⟨(← window).word handleWord⟩
    return .answered result

end Interception.Engine
