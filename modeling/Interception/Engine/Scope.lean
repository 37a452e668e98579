/-
References and handles for the length of a computation.

A reference that is taken is given back, and a handle that is opened is closed, by the one
function that took or opened it, after the computation that uses it.
-/
import Interception.Engine.Basic

namespace Interception.Engine

variable {σ α : Type}

/-- Looks up the object behind a handle.  Handle zero is not looked up. -/
def borrow (env : Environment σ) (handle : Handle) :
    Engine σ (Except Unresolved Object) :=
  if handle.isNull then return .error .noObject
  else do
    match ← lookUp env handle with
    | some object => return .ok object
    | none => return .error .noObject

/-- Runs a computation with the object behind a handle and gives the reference back after it. -/
def withObject (env : Environment σ) (handle : Handle)
    (body : Except Unresolved Object → Engine σ α) : Engine σ α := do
  match ← borrow env handle with
  | .error error => body (.error error)
  | .ok object =>
    let answer ← body (.ok object)
    release env object
    return answer

/-- Runs a computation with the session behind a handle.  The reference is given back after it; if
the object is not the client end of a session, the reference is given back first. -/
def withClient (env : Environment σ) (handle : Handle)
    (body : Except Unresolved (Object × SessionId) → Engine σ α) : Engine σ α := do
  match ← borrow env handle with
  | .error error => body (.error error)
  | .ok object =>
    match object.kind.session? with
    | some session =>
      let answer ← body (.ok (object, session))
      release env object
      return answer
    | none =>
      -- An object of the wrong kind is of no use to the computation.
      release env object
      body (.error .notClient)

/-- Runs a computation with a handle opened on a session and closes it after it. -/
def withOpened (env : Environment σ) (session : SessionId)
    (body : Except ResultCode Handle → Engine σ α) : Engine σ α := do
  match ← openSession env session with
  | .error result => body (.error result)
  | .ok handle =>
    let answer ← body (.ok handle)
    closeHandle env handle
    return answer

end Interception.Engine
