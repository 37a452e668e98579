/-
What others tell about sessions and the host.
-/
import Interception.Engine.Basic

namespace Interception.Engine

variable {σ : Type}

/-- Forgets a session, and returns its record. -/
def forget (session : SessionId) : Engine σ (Option NamedSession) := fun w =>
  let (record, registry) := w.registry.erase session
  (record, { w with registry })

/-- A session was destroyed: its name is forgotten. -/
def sessionDestroyed (session : SessionId) : Engine σ Unit := do
  match ← forget session with
  | some record => note (.sessionDestroyed record)
  | none => return

/-- Changes the host. -/
def modifyHost (f : Host → Host) : Engine σ Unit := fun w =>
  ((), { w with host := f w.host })

/-- Records the number of boot modules and the running kernel. -/
def configure (bootModules : UInt32) (version : Version) : Engine σ Unit := do
  modifyHost fun h => h.configure bootModules version
  note (.hostConfigured bootModules version)

/-- Records that network functions have started; only the first time is worth telling. -/
def startNetwork : Engine σ Unit := do
  let started := (← host).networkStarted
  modifyHost Host.startNetwork
  if !started then note .networkStarted

end Interception.Engine
