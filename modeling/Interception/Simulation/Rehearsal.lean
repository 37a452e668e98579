/-
Rehearsals: the engine over a kernel that keeps records.

A rehearsal is a list of steps.  Each step asks for one thing, of the engine or of the kernel
itself, and its report shows the books afterwards.
-/
import Interception.Engine.Call
import Interception.Engine.Upkeep
import Interception.Simulation.Recording

namespace Interception.Simulation.Recording

/-- What a step asks for. -/
inductive Command where
  /-- To put an object into the handle table. -/
  | insert (object : Nat)
  /-- To register replies for a target. -/
  | respond (script : Script)
  /-- The synchronous call, as its callers see it. -/
  | call (handle : Handle)
  /-- The real synchronous call. -/
  | send (handle : Handle)
  | consult (operation : Watched)
  | resolveClient (handle : Handle)
  /-- To take a reference and keep it. -/
  | acquire (handle : Handle)
  | release (object : Nat)
  | openSession (session : SessionId)
  | close (handle : Handle)
  | refuseOpening (result : ResultCode)
  | map (mapping : Mapping)
  /-- To show bytes, those that are not mapped as zero. -/
  | display (extent : Extent)
  | read (extent : Extent)
  | write (address : UInt32) (bytes : List UInt8)
  /-- To register a session if its name is valid, and to count the sessions. -/
  | register (session : SessionId) (name : Option ServiceName)
  | nameOf (session : SessionId)
  | startNetwork
  /-- To change what the side features answer. -/
  | side (language : Option ResultCode) (consumesThrows : Bool) (plugin : PluginPhase)

inductive Answer where
  | inserted (handle : Handle)
  | called (result : ResultCode) (window : Window)
  | consulted (verdict : Consultation) (window : Window)
  | resolvedClient (answer : Except Unresolved (Object.Kind × SessionId))
  | acquired (kind : Option Object.Kind)
  | opened (answer : Except ResultCode Handle)
  | closed (answer : Except UnknownHandle Unit)
  | bytes (answer : Except Fault (List UInt8))
  | written (answer : Except Fault Unit)
  | registered (size : Nat)
  | named (name : Option ServiceName)
  | done

/-- A step: the words that replace the window, and what is asked for then. -/
structure Step where
  words : Option Window
  command : Command

/-- What is reported of a step: the answer, the books after it, and the requests that arrived. -/
structure Report where
  answer : Answer
  objects : List Ledger
  openHandles : Nat
  openedEver : Nat
  side : Side
  arrivals : List Arrival

/-- The world of a rehearsal. -/
abbrev Stage : Type := World Kernel

/-- Asks something of the kernel itself. -/
def askKernel {α : Type} (f : Kernel → α × Kernel) : Engine Kernel α := fun w =>
  let (answer, outside) := f w.outside
  (answer, { w with outside })

def modifyKernel (f : Kernel → Kernel) : Engine Kernel Unit :=
  askKernel fun k => ((), f k)

def perform : Command → Engine Kernel Answer
  | .insert object => return .inserted (← askKernel fun k => k.insert object)
  | .respond script => do
    modifyKernel fun k => k.respond script
    return .done
  | .call handle => do
    let result ← Engine.call environment handle
    return .called result (← Engine.window)
  | .send handle => do
    let result ← Engine.send environment (.caller handle)
    return .called result (← Engine.window)
  | .consult operation => do
    let verdict ← Engine.consult environment operation
    return .consulted verdict (← Engine.window)
  | .resolveClient handle =>
    Engine.withClient environment handle fun resolved =>
      return .resolvedClient (resolved.map fun found => (found.1.kind, found.2))
  | .acquire handle => do
    let found ← Engine.lookUp environment handle
    return .acquired (found.map (·.kind))
  | .release object => do
    modifyKernel fun k => k.release object
    return .done
  | .openSession session => return .opened (← Engine.openSession environment session)
  | .close handle =>
    askKernel fun k =>
      match k.close handle with
      | .ok k => (.closed (.ok ()), k)
      | .error error => (.closed (.error error), k)
  | .refuseOpening result => do
    modifyKernel fun k => { k with refusal := some result }
    return .done
  | .map mapping => do
    modifyKernel fun k =>
      { k with memory := k.memory.map mapping.address mapping.bytes mapping.writable }
    return .done
  | .display extent =>
    askKernel fun k =>
      let shown := (k.memory.peek extent.address extent.length).map (·.getD 0)
      (.bytes (.ok shown), k)
  | .read extent =>
    askKernel fun k =>
      (.bytes ((k.memory.read extent.address extent.length).map (·.toList)), k)
  | .write address bytes => return .written (← askKernel fun k => k.writeMemory address bytes)
  | .register session name => do
    if let some name := name then
      Engine.register session name
    return .registered (← Engine.registry).size
  | .nameOf session => return .named ((← Engine.registry).nameOf? session)
  | .startNetwork => do
    Engine.startNetwork
    return .done
  | .side language consumesThrows plugin => do
    modifyKernel fun k => { k with side := { k.side with language, consumesThrows, plugin } }
    return .done

def step (stage : Stage) (s : Step) : Report × Stage :=
  let before := stage.outside.arrivals.length
  let prepared := { stage with window := s.words.getD stage.window, trace := [] }
  let (answer, after) := (perform s.command).run prepared
  let k := after.outside
  (⟨answer, k.objects, k.opened.length, k.openedEver, k.side, k.arrivals.drop before⟩, after)

def runSteps (stage : Stage) : List Step → List Report × Stage
  | [] => ([], stage)
  | s :: rest =>
    let (report, stage) := step stage s
    let (reports, stage) := runSteps stage rest
    (report :: reports, stage)

/-- The stage before the first step: an empty window and an empty registry. -/
def stage (kernel : Kernel) (host : Host) : Stage where
  registry := Registry.empty
  host := host
  window := Window.empty
  outside := kernel
  trace := []

end Interception.Simulation.Recording
