/-
The events of a call.

Whatever is asked of the environment is an event, with its answer, and so is every notice.  The
events of a call in their order are its trace.
-/
import Interception.Environment
import Interception.Notice

namespace Interception

/-- The handle that a request is sent on. -/
inductive Route where
  /-- A handle of the calling process. -/
  | caller (handle : Handle)
  /-- A handle that was opened for this request alone, and its session. -/
  | opened (session : SessionId) (handle : Handle)
deriving DecidableEq

def Route.handle : Route → Handle
  | caller handle => handle
  | opened _ handle => handle

/-- Something that happened during a call. -/
inductive Event where
  /-- A handle was looked up; a reference was taken on the object found. -/
  | lookedUp (handle : Handle) (found : Option Object)
  | released (object : Object)
  /-- A session was to be opened. -/
  | opened (session : SessionId) (answer : Except ResultCode Handle)
  | closed (handle : Handle)
  /-- A request was sent; the window before and after it, and its result. -/
  | sent (route : Route) (request reply : Window) (result : ResultCode)
  | read (address : UInt32) (length : Nat) (succeeded : Bool)
  /-- User memory was to be written. -/
  | wrote (address : UInt32) (bytes : List UInt8) (succeeded : Bool)
  /-- Language emulation was asked; the window before it, and its answer. -/
  | languageAsked (request : Window) (answer : Option ResultCode)
  /-- The handler of fatal errors was asked; the window before it, and its answer. -/
  | throwShown (request : Window) (consumed : Bool)
  | pluginAsked (state : PluginPhase)
  | homeSignalled
  | applicationWoken
  | noted (notice : Notice)

/-- The events of a call, in their order. -/
abbrev Trace : Type := List Event

/-- The notices in a trace. -/
def Trace.notices (t : Trace) : List Notice :=
  t.filterMap fun
    | .noted notice => some notice
    | _ => none

end Interception
