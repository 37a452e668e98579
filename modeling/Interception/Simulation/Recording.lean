/-
A simulated kernel that keeps records.

Objects count every reference that was taken and given back, every request is kept as it was on
arrival, opened handles are counted, and the side features count how often they were asked.
-/
import Interception.Simulation.Script

namespace Interception.Simulation.Recording

/-- An object with its books. -/
structure Ledger where
  kind : Object.Kind
  /-- The reference count; it wraps around. -/
  count : UInt64
  acquired : Nat
  released : Nat

namespace Ledger

/-- An object that only its handle table refers to. -/
def fresh (kind : Object.Kind) : Ledger :=
  ⟨kind, 1, 0, 0⟩

def acquire (l : Ledger) : Ledger :=
  { l with count := l.count + 1, acquired := l.acquired + 1 }

def release (l : Ledger) : Ledger :=
  { l with count := l.count - 1, released := l.released + 1 }

/-- Every reference that was taken has been given back. -/
def isBalanced (l : Ledger) : Bool :=
  l.acquired == l.released && l.count == 1

end Ledger

/-- The side features: what they answer, and how often they were asked. -/
structure Side where
  language : Option ResultCode
  consumesThrows : Bool
  plugin : PluginPhase
  languageAsked : Nat
  throwsShown : Nat
  homeSignals : Nat
  wakeUps : Nat

/-- Side features that decline everything and were never asked. -/
def Side.fresh : Side :=
  ⟨none, false, .none, 0, 0, 0, 0⟩

/-- A request as it was on arrival. -/
structure Arrival where
  target : Target
  request : Window

structure Kernel where
  pid : UInt32
  objects : List Ledger
  /-- The handle table: handles and positions of objects, in the order of insertion. -/
  table : List (Handle × Nat)
  /-- The next handle, for objects and for opened sessions alike. -/
  nextHandle : UInt32
  opened : List (Handle × SessionId)
  openedEver : Nat
  refusal : Option ResultCode
  /-- The replies, in the order of registration; the first for a target answers. -/
  scripts : List Script
  arrivals : List Arrival
  memory : Memory
  side : Side

/-- A handle that was closed without being open. -/
structure UnknownHandle where
  handle : Handle

def UnknownHandle.message (e : UnknownHandle) : String :=
  s!"closing unknown handle {e.handle.describe}"

namespace Kernel

/-- The kernel for a process, with an empty handle table. -/
def start (pid : UInt32) (objects : List Object.Kind) : Kernel where
  pid := pid
  objects := objects.map Ledger.fresh
  table := []
  nextHandle := 0x100
  opened := []
  openedEver := 0
  refusal := none
  scripts := []
  arrivals := []
  memory := Memory.empty
  side := Side.fresh

/-- Puts an object into the handle table. -/
def insert (k : Kernel) (object : Nat) : Handle × Kernel :=
  let handle : Handle := ⟨k.nextHandle⟩
  (handle, { k with table := k.table ++ [(handle, object)], nextHandle := k.nextHandle + 1 })

/-- Adds replies for a target. -/
def respond (k : Kernel) (script : Script) : Kernel :=
  { k with scripts := k.scripts ++ [script] }

def object? (k : Kernel) (handle : Handle) : Option Object := do
  let entry ← k.table.find? (·.1 == handle)
  let ledger ← k.objects[entry.2]?
  return ⟨entry.2, ledger.kind⟩

/-- Looks a handle up; the object found gains a reference. -/
def lookUp (k : Kernel) (handle : Handle) : Option Object × Kernel :=
  match k.object? handle with
  | some object => (some object, { k with objects := k.objects.modify object.id Ledger.acquire })
  | none => (none, k)

def release (k : Kernel) (object : Nat) : Kernel :=
  { k with objects := k.objects.modify object Ledger.release }

def openSession (k : Kernel) (session : SessionId) : Except ResultCode Handle × Kernel :=
  match k.refusal with
  | some result => (.error result, k)
  | none =>
    let handle : Handle := ⟨k.nextHandle⟩
    (.ok handle,
      { k with
        opened := k.opened ++ [(handle, session)]
        openedEver := k.openedEver + 1
        nextHandle := k.nextHandle + 1 })

/-- Closes a handle that is open. -/
def close (k : Kernel) (handle : Handle) : Except UnknownHandle Kernel :=
  if k.opened.any (·.1 == handle) then
    .ok { k with opened := k.opened.eraseP (·.1 == handle) }
  else .error ⟨handle⟩

/-- Closes a handle; one that is not open stays so. -/
def closeHandle (k : Kernel) (handle : Handle) : Kernel :=
  match k.close handle with
  | .ok k => k
  | .error _ => k

/-- Makes the real synchronous call and keeps the request. -/
def send (k : Kernel) (handle : Handle) (w : Window) : Reply × Kernel :=
  let target := targetOf k.opened handle
  let (reply, scripts) := nextReply target k.scripts
  (⟨reply.result, reply.window w, reply.changes⟩,
    { k with
      scripts
      arrivals := k.arrivals ++ [⟨target, w⟩]
      memory := reply.memory k.memory })

def writeMemory (k : Kernel) (address : UInt32) (bytes : List UInt8) :
    Except Fault Unit × Kernel :=
  match k.memory.write address bytes with
  | .ok memory => (.ok (), { k with memory })
  | .error fault => (.error fault, k)

/-- Lets language emulation answer; an answer is also written into the reply. -/
def askLanguage (k : Kernel) (w : Window) : (Option ResultCode × Window) × Kernel :=
  let k := { k with side := { k.side with languageAsked := k.side.languageAsked + 1 } }
  match k.side.language with
  | some result => ((some result, (w.setHeader w.header.resultOnly).set 1 result.word), k)
  | none => ((none, w), k)

def showThrow (k : Kernel) (w : Window) : (Bool × Window) × Kernel :=
  ((k.side.consumesThrows, w),
    { k with side := { k.side with throwsShown := k.side.throwsShown + 1 } })

/-- Counts a signal of the event of the home menu. -/
def signalHome (k : Kernel) : Kernel :=
  { k with side := { k.side with homeSignals := k.side.homeSignals + 1 } }

/-- Counts a resumption of the application. -/
def wakeApplication (k : Kernel) : Kernel :=
  { k with side := { k.side with wakeUps := k.side.wakeUps + 1 } }

end Kernel

/-- The environment that the kernel makes up. -/
def environment : Environment Kernel where
  lookUp handle k := k.lookUp handle
  release object k := k.release object.id
  openSession session k := k.openSession session
  closeHandle handle k := k.closeHandle handle
  send handle w k := k.send handle w
  readMemory address n k := k.memory.read address n
  writeMemory address bytes k := k.writeMemory address bytes
  pid k := k.pid
  askLanguage w k := k.askLanguage w
  showThrow w k := k.showThrow w
  pluginPhase k := k.side.plugin
  signalHome := Kernel.signalHome
  wakeApplication := Kernel.wakeApplication

end Interception.Simulation.Recording
