/-
What is worth telling the operator.

A notice says what happened and to what; `Notice.record` puts it into words.
-/
import Interception.Log
import Interception.Registry
import Interception.ResultCode
import Interception.Rule.Basic
import Interception.Supervisor.Request

namespace Interception

/-- Something worth telling the operator. -/
inductive Notice where
  | hostConfigured (bootModules : UInt32) (version : Version)
  /-- Network functions have started for the first time. -/
  | networkStarted
  | registered (session : SessionId) (name : ServiceName)
  /-- A session is known under another name, which stays. -/
  | nameKept (session : SessionId) (existing offered : ServiceName)
  /-- No slot was free for a session. -/
  | registryFull (name : ServiceName)
  /-- A registered session is gone. -/
  | sessionDestroyed (record : NamedSession)
  /-- A handle does not lead to a client session. -/
  | passedThrough (handle : Handle) (error : Unresolved)
  | ruleApplied (pid : UInt32) (header : Header) (name : ServiceName) (action : Action)
  /-- A connection to a service without a name. -/
  | unnamedService (handle : Handle)
  /-- The handle in the reply to a connection does not lead to a client session. -/
  | unusableService (name : ServiceName) (handle : Handle) (error : Unresolved)
  /-- The home menu hands control back. -/
  | pluginWoken (command : UInt32)
  /-- The path of a file to open could not be read. -/
  | pathUnreadable (pointer : UInt32) (fault : Fault)
  /-- The path of the boot logo could not be replaced. -/
  | pathNotReplaced (pointer : UInt32) (fault : Fault)
  /-- The path of the boot logo could not be put back. -/
  | pathNotRestored (pointer : UInt32) (fault : Fault)
  /-- The boot logo comes from removable storage. -/
  | logoServed
  | supervisorAbsent (operation : Watched)
  /-- A request could not be put to the supervisor. -/
  | notEncoded (operation : Watched) (refusal : Supervisor.Refusal)
  | supervisorUnreachable (result : ResultCode)
  | supervisorHandled (operation : Watched) (pid : UInt32)
  /-- The supervisor left a request alone. -/
  | supervisorDeclined (operation : Watched) (pid : UInt32) (result : ResultCode)
deriving DecidableEq

namespace Notice

/-- The part of the system that a notice is about. -/
inductive Topic where
  | host
  | registry
  | requests
  | supervisor
deriving DecidableEq

/-- The target of the log records on a topic. -/
def Topic.target : Topic → String
  | host => "ipc_interpose::config"
  | registry => "ipc_interpose::session::registry"
  | requests => "ipc_interpose::syscall::handler"
  | supervisor => "ipc_interpose::syscall::delegate"

def topic : Notice → Topic
  | hostConfigured _ _ | networkStarted => .host
  | registered _ _ | nameKept _ _ _ | registryFull _ => .registry
  | sessionDestroyed _ | passedThrough _ _ | ruleApplied _ _ _ _ | unnamedService _
  | unusableService _ _ _ | pluginWoken _ | pathUnreadable _ _ | pathNotReplaced _ _
  | pathNotRestored _ _ | logoServed => .requests
  | supervisorAbsent _ | notEncoded _ _ | supervisorUnreachable _ | supervisorHandled _ _
  | supervisorDeclined _ _ _ => .supervisor

def level : Notice → Log.Level
  | nameKept _ _ _ | registryFull _ | pathNotReplaced _ _ | pathNotRestored _ _
  | supervisorUnreachable _ => .warn
  | hostConfigured _ _ | networkStarted => .info
  | ruleApplied _ _ _ _ | pluginWoken _ | logoServed | notEncoded _ _
  | supervisorHandled _ _ => .debug
  | registered _ _ | sessionDestroyed _ | passedThrough _ _ | unnamedService _
  | unusableService _ _ _ | pathUnreadable _ _ | supervisorAbsent _
  | supervisorDeclined _ _ _ => .trace

private def sessionText (session : SessionId) : String :=
  s!"session {Text.hex session.raw.toNat}"

private def handleText (handle : Handle) : String :=
  s!"handle {Text.hex handle.raw.toNat}"

private def pointerText (pointer : UInt32) : String :=
  Text.hex pointer.toNat

def message : Notice → String
  | hostConfigured bootModules version =>
    s!"host configured: {bootModules} boot modules, " ++
      s!"kernel {version.major}.{version.minor}.{version.revision}"
  | networkStarted => "network functions started"
  | registered session name => s!"{sessionText session} -> {name.text}"
  | nameKept session existing offered =>
    s!"{sessionText session} already registered as {existing.text}, ignoring {offered.text}"
  | registryFull name => s!"session registry full, dropping {name.text}"
  | sessionDestroyed record => s!"{sessionText record.session} ({record.name.text}) destroyed"
  | passedThrough handle error => s!"{handleText handle}: {error.message}, passing through"
  | ruleApplied pid header name action =>
    s!"pid {pid} {header.describe} on {name.text}: {action.describe}"
  | unnamedService handle => s!"service {handleText handle} has no name"
  | unusableService name handle error => s!"{name.text} {handleText handle}: {error.message}"
  | pluginWoken command => s!"applet command {command} wakes plugin loader"
  | pathUnreadable pointer fault => s!"open path {pointerText pointer}: {fault.message}"
  | pathNotReplaced pointer fault =>
    s!"cannot rewrite logo path at {pointerText pointer}: {fault.message}"
  | pathNotRestored pointer fault =>
    s!"cannot restore logo path at {pointerText pointer}: {fault.message}"
  | logoServed => "boot logo served from SD"
  | supervisorAbsent operation => s!"{operation.label}: supervisor not running"
  | notEncoded operation refusal => s!"{operation.label}: not delegated ({refusal.message})"
  | supervisorUnreachable result =>
    s!"cannot open {Supervisor.service} session: {result.text}"
  | supervisorHandled operation pid =>
    s!"{operation.label} from pid {pid} handled by supervisor"
  | supervisorDeclined operation pid result =>
    s!"{operation.label} from pid {pid}: supervisor declined ({result.text})"

def record (n : Notice) : Log.Record :=
  ⟨n.level, n.topic.target, n.message⟩

/-- What there is to tell about a registration: nothing if the session was known by that name. -/
def ofRegistration (session : SessionId) (name : ServiceName) : Registration → List Notice
  | .added => [registered session name]
  | .known existing => if existing = name then [] else [nameKept session existing name]
  | .full => [registryFull name]

end Notice

end Interception
