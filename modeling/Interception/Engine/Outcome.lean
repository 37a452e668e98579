/-
What becomes of a request that was looked at.

Either the request goes on to its service, or it was answered and its caller gets the result at
once.
-/
import Interception.Engine.Basic

namespace Interception

/-- What becomes of a request. -/
inductive Outcome where
  /-- The real call is still to be made. -/
  | forward
  /-- The request was answered. -/
  | answered (result : ResultCode)
deriving DecidableEq

/-- The window after a reply that only says that all went well. -/
def Window.succeed (w : Window) : Window :=
  (w.setHeader w.header.resultOnly).set 1 0

namespace Engine

variable {σ : Type}

/-- Answers with success, without a call. -/
def succeed : Engine σ Outcome := do
  modifyWindow Window.succeed
  return .answered .success

end Engine

end Interception
