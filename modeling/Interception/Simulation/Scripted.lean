/-
A simulated kernel with scripted answers.

Objects have reference counts, a table leads from handles to objects, opening a session hands out
handles in sequence or fails, the real synchronous call follows scripts, and user memory is kept
byte by byte.  The side features answer as they are told.
-/
import Interception.Simulation.Script

namespace Interception.Simulation

/-- The answers of the side features. -/
structure SideScript where
  /-- The answer of language emulation; none if it declines. -/
  language : Option ResultCode
  /-- The words that language emulation writes, whether it answers or not. -/
  languageEdits : List (Nat × UInt32)
  consumesThrows : Bool
  /-- The words that the handler of fatal errors writes. -/
  throwEdits : List (Nat × UInt32)

/-- The side features that are installed, and what the plugin does. -/
structure Side where
  /-- None if no side features are installed. -/
  script : Option SideScript
  plugin : PluginPhase

/-- Gives the installed side features other answers; where none are installed, none appear. -/
def Side.instruct (s : Side) (script : SideScript) (plugin : PluginPhase) : Side :=
  ⟨s.script.map fun _ => script, plugin⟩

namespace Scripted

/-- The state of the simulated kernel and side features. -/
structure Kernel where
  pid : UInt32
  /-- The kinds of all objects; an object is known by its position. -/
  objects : List Object.Kind
  counts : List Int
  /-- The handle table: handles and positions of objects. -/
  handles : List (Handle × Nat)
  /-- The handles that were opened and not closed. -/
  opened : List (Handle × SessionId)
  /-- The next handle that is opened. -/
  nextOpened : UInt32
  /-- If present, opening fails with this result. -/
  refusal : Option ResultCode
  scripts : List Script
  memory : Memory
  side : Side

namespace Kernel

/-- Enters a handle into the table; an earlier entry for it gives way. -/
def enter (k : Kernel) (handle : Handle) (object : Nat) : Kernel :=
  { k with handles := k.handles.filter (·.1 != handle) ++ [(handle, object)] }

/-- Gives a target its script; an earlier script for it gives way. -/
def assign (k : Kernel) (script : Script) : Kernel :=
  { k with scripts := k.scripts.filter (·.target != script.target) ++ [script] }

def count (k : Kernel) (id : Nat) (change : Int) : Kernel :=
  { k with counts := k.counts.modify id (· + change) }

def object? (k : Kernel) (handle : Handle) : Option Object := do
  let entry ← k.handles.find? (·.1 == handle)
  let kind ← k.objects[entry.2]?
  return ⟨entry.2, kind⟩

/-- Looks a handle up; the object found gains a reference. -/
def lookUp (k : Kernel) (handle : Handle) : Option Object × Kernel :=
  match k.object? handle with
  | some object => (some object, k.count object.id 1)
  | none => (none, k)

def openSession (k : Kernel) (session : SessionId) : Except ResultCode Handle × Kernel :=
  match k.refusal with
  | some result => (.error result, k)
  | none =>
    let handle : Handle := ⟨k.nextOpened⟩
    (.ok handle,
      { k with opened := k.opened ++ [(handle, session)], nextOpened := k.nextOpened + 1 })

def closeHandle (k : Kernel) (handle : Handle) : Kernel :=
  { k with opened := k.opened.eraseP (·.1 == handle) }

def send (k : Kernel) (handle : Handle) (w : Window) : Reply × Kernel :=
  -- A handle opened for a request answers as the session it leads to.
  let (reply, scripts) := nextReply (targetOf k.opened handle) k.scripts
  let side := { k.side with plugin := reply.plugin.getD k.side.plugin }
  (⟨reply.result, reply.window w, reply.changes⟩,
    { k with scripts, side, memory := reply.memory k.memory })

def writeMemory (k : Kernel) (address : UInt32) (bytes : List UInt8) :
    Except Fault Unit × Kernel :=
  match k.memory.write address bytes with
  | .ok memory => (.ok (), { k with memory })
  | .error fault => (.error fault, k)

def askLanguage (k : Kernel) (w : Window) : (Option ResultCode × Window) × Kernel :=
  match k.side.script with
  | some script => ((script.language, w.setAll script.languageEdits), k)
  | none => ((none, w), k)

def showThrow (k : Kernel) (w : Window) : (Bool × Window) × Kernel :=
  match k.side.script with
  | some script => ((script.consumesThrows, w.setAll script.throwEdits), k)
  | none => ((false, w), k)

/-- What the plugin does; without side features there is none. -/
def pluginPhase (k : Kernel) : PluginPhase :=
  match k.side.script with
  | some _ => k.side.plugin
  | none => .none

end Kernel

/-- The environment that the simulated kernel makes up. -/
def environment : Environment Kernel where
  lookUp handle k := k.lookUp handle
  release object k := k.count object.id (-1)
  openSession session k := k.openSession session
  closeHandle handle k := k.closeHandle handle
  send handle w k := k.send handle w
  readMemory address n k := k.memory.read address n
  writeMemory address bytes k := k.writeMemory address bytes
  pid k := k.pid
  askLanguage w k := k.askLanguage w
  showThrow w k := k.showThrow w
  pluginPhase k := k.pluginPhase
  signalHome := id
  wakeApplication := id

end Scripted

end Interception.Simulation
