/-
The rule table and the choice of a rule.

Rows are tried in order and the first that applies is taken.  Requests on sessions whose service
is not known have no rule.

* `Rule.select_eq_none_iff` — no rule is chosen exactly when none applies;
* `Rule.applies_of_select` — a chosen rule is a row of the table and applies.
-/
import Interception.Rule.Basic

namespace Interception

namespace Command

/-! ### The headers of known commands -/

-- Network management.
def enterExclusiveState : Header := ⟨0x00010042⟩

def leaveExclusiveState : Header := ⟨0x00020002⟩

def suspendScheduler : Header := ⟨0x00080040⟩

def resumeScheduler : Header := ⟨0x00090000⟩

-- Configuration.
def configBlock2 : Header := ⟨0x00010082⟩

def region : Header := ⟨0x00020000⟩

-- Privileged configuration.
def configBlock4 : Header := ⟨0x04010082⟩

def configBlock8 : Header := ⟨0x04020082⟩

def privilegedRegion : Header := ⟨0x04060000⟩

-- Initial configuration.
def initialBlock4 : Header := ⟨0x08010082⟩

def initialBlock8 : Header := ⟨0x08020082⟩

def initialRegion : Header := ⟨0x08160000⟩

-- Fatal errors.
def fatalError : Header := ⟨0x00010800⟩

-- Service manager.
def connectService : Header := ⟨0x00050100⟩

def publish : Header := ⟨0x000C0080⟩

-- Applets.
def receiveParameter : Header := ⟨0x000D0080⟩

-- File system.
def openFile : Header := ⟨0x08030204⟩

def deleteFile : Header := ⟨0x08040142⟩

def deleteDirectory : Header := ⟨0x08070142⟩

-- Sockets.
def connectSocket : Header := ⟨0x00060084⟩

-- Camera.
def startCapture : Header := ⟨0x00010040⟩

end Command

namespace Rule

/-- The notification that wakes the application. -/
def wakeNotification : UInt32 := 0x1002

/-- The home menu, as a receiver of parameters. -/
def homeMenu : UInt32 := 0x300

/-- The minor version from which the second service manager no longer connects. -/
def secondManagerLimit : Nat := 39

private def networkManager : List Pattern := [.exactly "ndm:u"]

private def anyConfiguration : List Pattern :=
  [.exactly "cfg:u", .exactly "cfg:s", .exactly "cfg:i"]

private def privilegedConfiguration : List Pattern := [.exactly "cfg:s", .exactly "cfg:i"]

private def initialConfiguration : List Pattern := [.exactly "cfg:i"]

private def fileSystem : List Pattern := [.exactly "fs:USER"]

/-- All rules, in the order in which they are tried. -/
def table : List Rule := [
  -- Applications may not pause a network that has started.
  ⟨Command.enterExclusiveState, networkManager, .networkedApplication, .succeed⟩,
  ⟨Command.leaveExclusiveState, networkManager, .networkedApplication, .succeed⟩,
  ⟨Command.suspendScheduler, networkManager, .networkedApplication, .succeed⟩,
  ⟨Command.resumeScheduler, networkManager, .networkedApplication, .succeed⟩,
  -- Region and language.
  ⟨Command.configBlock2, anyConfiguration, .always, .askLanguage⟩,
  ⟨Command.region, anyConfiguration, .always, .askLanguage⟩,
  ⟨Command.configBlock4, privilegedConfiguration, .always, .askLanguage⟩,
  ⟨Command.configBlock8, privilegedConfiguration, .always, .askLanguage⟩,
  ⟨Command.privilegedRegion, privilegedConfiguration, .always, .askLanguage⟩,
  ⟨Command.initialBlock4, privilegedConfiguration, .always, .askLanguage⟩,
  ⟨Command.initialBlock8, initialConfiguration, .always, .askLanguage⟩,
  ⟨Command.initialRegion, initialConfiguration, .always, .askLanguage⟩,
  -- Fatal errors.
  ⟨Command.fatalError, [.exactly "err:f"], .always, .showThrow⟩,
  -- Connections, and notifications from the service manager.
  ⟨Command.connectService, [.exactly "srv:"], .always, .learnConnection⟩,
  ⟨Command.connectService, [.exactly "srv:pm"], .minorBelow secondManagerLimit,
    .learnConnection⟩,
  ⟨Command.publish, [.exactly "srv:"], .firstWord wakeNotification, .wakeApplication⟩,
  -- The home menu.
  ⟨Command.receiveParameter, [.starting "APT:"], .firstWord homeMenu, .relayParameter⟩,
  -- Files, and what else the supervisor watches.
  ⟨Command.openFile, fileSystem, .always, .openLogo⟩,
  ⟨Command.deleteFile, fileSystem, .always, .consult .deleteFile⟩,
  ⟨Command.deleteDirectory, fileSystem, .always, .consult .deleteDirectory⟩,
  ⟨Command.connectSocket, [.exactly "soc:U"], .always, .consult .socketConnect⟩,
  ⟨Command.startCapture, [.exactly "cam:u"], .always, .consult .cameraCapture⟩]

/-- The rule for a request, if there is one. -/
def select (name : Option ServiceName) (w : Window) (pid : UInt32) (host : Host) :
    Option Rule :=
  match name with
  | none => none
  | some n => table.find? fun r => r.applies n w pid host

/-- For every row of the table, the rule of a request with the header of that row and a payload
of its own. -/
def selectHeaders (name : Option ServiceName) (payload : List UInt32) (pid : UInt32)
    (host : Host) : List (Option Rule) :=
  table.map fun r => select name (Window.ofList (r.header.raw :: payload)) pid host

/-- No rule is chosen exactly when none applies. -/
theorem select_eq_none_iff (n : ServiceName) (w : Window) (pid : UInt32) (host : Host) :
    select (some n) w pid host = none ↔ ∀ r ∈ table, r.applies n w pid host = false := by
  simp [select, List.find?_eq_none]

/-- A chosen rule is a row of the table and applies. -/
theorem applies_of_select {name : Option ServiceName} {w : Window} {pid : UInt32}
    {host : Host} {r : Rule} (h : select name w pid host = some r) :
    r ∈ table ∧ ∃ n, name = some n ∧ r.applies n w pid host = true := by
  cases name with
  | none => cases h
  | some n =>
    have found : (table.find? fun r => r.applies n w pid host) = some r := h
    have passes := List.find?_some found
    exact ⟨List.mem_of_find?_eq_some found, n, rfl, passes⟩

end Rule

end Interception
