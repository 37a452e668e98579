/-
The world of a call and the steps that change it.

A call works on the registry, the host, the window of the calling thread and the environment.
`Engine` is the type of computations on such a world.  Every step that reaches the environment
leaves an event in the trace, so that what was done, and in which order, can be read off the trace
afterwards.
-/
import Interception.Event

namespace Interception

/-- What a call works on. -/
structure World (σ : Type) where
  registry : Registry
  host : Host
  /-- The window of the calling thread. -/
  window : Window
  /-- The state of the environment. -/
  outside : σ
  /-- What has happened so far. -/
  trace : Trace

/-- Computations on a world. -/
abbrev Engine (σ : Type) : Type → Type :=
  StateM (World σ)

namespace World

variable {σ : Type}

def log (w : World σ) (event : Event) : World σ :=
  { w with trace := w.trace ++ [event] }

/-- The world with some more notices. -/
def tell (w : World σ) (notices : List Notice) : World σ :=
  { w with trace := w.trace ++ notices.map .noted }

/-- Registers a session and tells about it. -/
def register (w : World σ) (session : SessionId) (name : ServiceName) : World σ :=
  let (outcome, registry) := w.registry.insert session name
  { w with registry }.tell (Notice.ofRegistration session name outcome)

/-- Makes a change that others make to the registry. -/
def change (w : World σ) : RegistryChange → World σ
  | .insert session name => w.register session name
  | .erase session => { w with registry := (w.registry.erase session).2 }

end World

namespace Engine

variable {σ : Type}

/-- The window of the calling thread. -/
def window : Engine σ Window := fun w =>
  (w.window, w)

def modifyWindow (f : Window → Window) : Engine σ Unit := fun w =>
  ((), { w with window := f w.window })

def registry : Engine σ Registry := fun w =>
  (w.registry, w)

def host : Engine σ Host := fun w =>
  (w.host, w)

/-- Tells the operator. -/
def note (notice : Notice) : Engine σ Unit := fun w =>
  ((), w.tell [notice])

def register (session : SessionId) (name : ServiceName) : Engine σ Unit := fun w =>
  ((), w.register session name)

/-! ### Steps that reach the environment -/

def pid (env : Environment σ) : Engine σ UInt32 := fun w =>
  (env.pid w.outside, w)

/-- Looks a handle up, taking a reference on the object found. -/
def lookUp (env : Environment σ) (handle : Handle) : Engine σ (Option Object) := fun w =>
  let (found, outside) := env.lookUp handle w.outside
  (found, { w with outside }.log (.lookedUp handle found))

def release (env : Environment σ) (object : Object) : Engine σ Unit := fun w =>
  ((), { w with outside := env.release object w.outside }.log (.released object))

def openSession (env : Environment σ) (session : SessionId) :
    Engine σ (Except ResultCode Handle) := fun w =>
  let (answer, outside) := env.openSession session w.outside
  (answer, { w with outside }.log (.opened session answer))

def closeHandle (env : Environment σ) (handle : Handle) : Engine σ Unit := fun w =>
  ((), { w with outside := env.closeHandle handle w.outside }.log (.closed handle))

/-- Sends the window and lets the reply overwrite it.  What others did to the registry while the
call was waiting is done when it returns. -/
def send (env : Environment σ) (route : Route) : Engine σ ResultCode := fun w =>
  -- The call comes first in the trace, before what others did to the registry meanwhile.
  let (reply, outside) := env.send route.handle w.window w.outside
  let sent := { w with window := reply.window, outside }.log
    (.sent route w.window reply.window reply.result)
  (reply.result, reply.changes.foldl World.change sent)

def readMemory (env : Environment σ) : Fetch (Engine σ) := fun address n w =>
  let answer := env.readMemory address n w.outside
  (answer, w.log (.read address n answer.toBool))

def writeMemory (env : Environment σ) (address : UInt32) (bytes : List UInt8) :
    Engine σ (Except Fault Unit) := fun w =>
  let (answer, outside) := env.writeMemory address bytes w.outside
  (answer, { w with outside }.log (.wrote address bytes answer.toBool))

def askLanguage (env : Environment σ) : Engine σ (Option ResultCode) := fun w =>
  let ((answer, window), outside) := env.askLanguage w.window w.outside
  (answer, { w with window, outside }.log (.languageAsked w.window answer))

/-- Shows a fatal error to its handler. -/
def showThrow (env : Environment σ) : Engine σ Bool := fun w =>
  let ((consumed, window), outside) := env.showThrow w.window w.outside
  (consumed, { w with window, outside }.log (.throwShown w.window consumed))

def pluginPhase (env : Environment σ) : Engine σ PluginPhase := fun w =>
  let state := env.pluginPhase w.outside
  (state, w.log (.pluginAsked state))

def signalHome (env : Environment σ) : Engine σ Unit := fun w =>
  ((), { w with outside := env.signalHome w.outside }.log .homeSignalled)

def wakeApplication (env : Environment σ) : Engine σ Unit := fun w =>
  ((), { w with outside := env.wakeApplication w.outside }.log .applicationWoken)

end Engine

end Interception
