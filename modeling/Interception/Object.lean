/-
Kernel objects, as seen through a handle table.

A handle names an object; the object has a kind, and the client end of a session also knows the
session that it belongs to.
-/
import Interception.Text.Structural

namespace Interception

/-- The identity of a session.  Identities are compared and never computed with. -/
structure SessionId where
  raw : UInt64
deriving DecidableEq, Inhabited

/-- A handle: a number that names an object for one process.  Handle zero names none. -/
structure Handle where
  raw : UInt32
deriving DecidableEq, Inhabited

def Handle.null : Handle := ⟨0⟩

/-- Whether this is the handle that never names an object. -/
def Handle.isNull (h : Handle) : Bool :=
  h.raw == 0

/-- The number inside, as diagnostics show it. -/
def SessionId.describe (s : SessionId) : String :=
  Text.wrapped "SessionId" (toString s.raw)

/-- The number inside, as diagnostics show it. -/
def Handle.describe (h : Handle) : String :=
  Text.wrapped "Handle" (toString h.raw)

/-- What kind of object a handle names. -/
inductive Object.Kind where
  /-- The client end of a session. -/
  | clientSession (parent : SessionId)
  | serverSession
  | event
  | process
  | thread
  | addressArbiter
  /-- Anything there is no reason to tell apart. -/
  | other
deriving DecidableEq, Inhabited

namespace Object.Kind

/-- The session that a client end belongs to. -/
def session? : Object.Kind → Option SessionId
  | clientSession parent => some parent
  | _ => none

def isClient (k : Object.Kind) : Bool :=
  k.session?.isSome

def describe : Object.Kind → String
  | clientSession parent => Text.labelled "ClientSession" [("parent", parent.describe)]
  | serverSession => "ServerSession"
  | event => "Event"
  | process => "Process"
  | thread => "Thread"
  | addressArbiter => "AddressArbiter"
  | other => "Other"

/-- A borrowed reference on an object of this kind, as diagnostics show it. -/
def describeReference (k : Object.Kind) : String :=
  Text.wrapped "ObjectRef" k.describe

end Object.Kind

/-- A kernel object: which one it is, and of what kind. -/
structure Object where
  id : Nat
  kind : Object.Kind
deriving DecidableEq, Inhabited

/-- Why a handle does not lead to a client session. -/
inductive Unresolved where
  | noObject
  | notClient
deriving DecidableEq, Inhabited

def Unresolved.message : Unresolved → String
  | noObject => "invalid handle"
  | notClient => "object is not a client session"

end Interception
