/-
Everything that requests pass through but that is decided elsewhere.

An environment answers for the kernel (handles, sessions, the real synchronous call, user memory)
and for the side features (language emulation, handling of fatal errors, the plugin).  It has a
state of its own, of any type, which each answer may change.  Statements about every possible
kernel are statements about every environment.
-/
import Interception.Memory.Span
import Interception.Object
import Interception.Registry
import Interception.ResultCode
import Interception.Window.Basic

namespace Interception

/-- What the plugin is doing. -/
inductive PluginPhase where
  | none
  /-- A plugin runs beside the application. -/
  | running
  /-- The application is suspended in the home menu. -/
  | inHome
  /-- The plugin is shutting down. -/
  | exiting
deriving DecidableEq, Inhabited

/-- A change that others make to the registry. -/
inductive RegistryChange where
  | insert (session : SessionId) (name : ServiceName)
  | erase (session : SessionId)
deriving DecidableEq

/-- What comes back from the real synchronous call: its result, the window after it, and what
happened to the registry meanwhile. -/
structure Reply where
  result : ResultCode
  window : Window
  changes : List RegistryChange

/-- The answers of the kernel and of the side features, over a state of their own. -/
structure Environment (σ : Type) where
  /-- The object behind a handle of the calling process.  A reference to it is taken. -/
  lookUp : Handle → σ → Option Object × σ
  release : Object → σ → σ
  /-- A new handle on a session, in the calling process. -/
  openSession : SessionId → σ → Except ResultCode Handle × σ
  closeHandle : Handle → σ → σ
  /-- The real synchronous call. -/
  send : Handle → Window → σ → Reply × σ
  /-- Bytes of the calling process. -/
  readMemory : UInt32 → (n : Nat) → σ → Except Fault (Vector UInt8 n)
  writeMemory : UInt32 → List UInt8 → σ → Except Fault Unit × σ
  pid : σ → UInt32
  /-- The answer of language emulation, if it gives one, and the window after it. -/
  askLanguage : Window → σ → (Option ResultCode × Window) × σ
  /-- Whether a fatal error was consumed, and the window after it. -/
  showThrow : Window → σ → (Bool × Window) × σ
  pluginPhase : σ → PluginPhase
  /-- Signals the event that the plugin waits for in the home menu. -/
  signalHome : σ → σ
  wakeApplication : σ → σ

namespace Environment

/-- The same kernel without side features: nothing is emulated or consumed. -/
def withoutSideFeatures {σ : Type} (env : Environment σ) : Environment σ :=
  { env with
    askLanguage := fun w s => ((none, w), s)
    showThrow := fun w s => ((false, w), s)
    pluginPhase := fun _ => .none
    signalHome := id
    wakeApplication := id }

end Environment

end Interception
