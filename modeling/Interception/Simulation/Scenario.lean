/-
Scenarios: a host with a simulated kernel, and what is asked of it step by step.

A scenario has a starting point and a list of steps.  Each step may first write the window of the
thread and change the calling process, and then asks for one thing.  The report of a step holds
the answer, what could be seen of it from outside, and the log.
-/
import Interception.Engine.Call
import Interception.Engine.Upkeep
import Interception.Simulation.Scripted

namespace Interception.Simulation

/-- What a step asks for. -/
inductive Command where
  /-- The synchronous call on a handle. -/
  | call (handle : Handle)
  /-- To look at a request, without the real call. -/
  | examine (handle : Handle)
  | consult (operation : Watched)
  | resolve (handle : Handle)
  | resolveClient (handle : Handle)
  /-- To open a session and close it at once. -/
  | openSession (session : SessionId)
  | destroy (session : SessionId)
  /-- To register successive sessions under one name. -/
  | register (session : SessionId) (name : Option ServiceName) (count : Nat)
  | erase (session : SessionId)
  | nameOf (session : SessionId)
  | firstNamed (name : String)
  | size
  | configure (bootModules : UInt32) (version : Version)
  | startNetwork
  | showHost
  | toggle (features : FeatureSet) (on : Bool)
  | withFeatures (features : FeatureSet)
  | allows (features : FeatureSet)
  | isApplication
  | map (mapping : Mapping)
  | unmap (extent : Extent)
  | protect (extent : Extent)
  | peek (extent : Extent)
  /-- To change what the installed side features answer. -/
  | instruct (script : SideScript) (plugin : PluginPhase)
  /-- To let opening fail, or work again. -/
  | refuseOpening (result : Option ResultCode)

inductive Answer where
  | called (result : ResultCode) (window : Window)
  | examined (outcome : Outcome) (window : Window)
  | consulted (verdict : Consultation) (window : Window)
  | resolved (answer : Except Unresolved Object.Kind)
  | resolvedClient (answer : Except Unresolved (Object.Kind × SessionId))
  | opened (answer : Except ResultCode Handle)
  | registered (size : Nat)
  /-- There was no valid name to register. -/
  | nameless
  | erased (record : Option NamedSession) (size : Nat)
  | named (name : Option ServiceName)
  | found (record : Option NamedSession)
  | counted (size : Nat)
  | host (host : Host)
  | enabled (answer : Bool)
  | application (answer : Bool)
  | peeked (bytes : List (Option UInt8))
  | done

/-- A step: what is written first, and what is asked for then. -/
structure Step where
  /-- The words that replace the window. -/
  words : Option Window
  /-- Single words that are written after that. -/
  edits : List (Nat × UInt32)
  /-- The calling process from now on. -/
  pid : Option UInt32
  command : Command

structure Report where
  answer : Answer
  /-- What could be seen of the step from outside. -/
  events : Trace
  /-- The notices of the step, in the words of the log. -/
  records : List Log.Record

namespace Scripted

/-- The world of a scenario. -/
abbrev Stage : Type := World Kernel

/-- Whether an event can be seen from outside the engine.  Looking up an unknown handle, reading
memory and asking the plugin leave no mark, and what is asked of side features that are not
installed goes nowhere. -/
def isVisible (sideInstalled : Bool) : Event → Bool
  | .lookedUp _ found => found.isSome
  | .released _ | .opened _ _ | .closed _ | .sent _ _ _ _ | .wrote _ _ _ => true
  | .languageAsked _ _ | .throwShown _ _ | .homeSignalled | .applicationWoken => sideInstalled
  | .read _ _ _ | .pluginAsked _ | .noted _ => false

/-- Registers `count` successive sessions under one name. -/
def registerMany (session : SessionId) (name : ServiceName) : Nat → Engine Kernel Unit
  | 0 => return
  | count + 1 => do
    Engine.register session name
    registerMany ⟨session.raw + 1⟩ name count

def modifyKernel (f : Kernel → Kernel) : Engine Kernel Unit := fun w =>
  ((), { w with outside := f w.outside })

def modifyMemory (f : Memory → Memory) : Engine Kernel Unit :=
  modifyKernel fun k => { k with memory := f k.memory }

def perform : Command → Engine Kernel Answer
  | .call handle => do
    let result ← Engine.call environment handle
    return .called result (← Engine.window)
  | .examine handle => do
    let outcome ← Engine.examine environment handle
    return .examined outcome (← Engine.window)
  | .consult operation => do
    let verdict ← Engine.consult environment operation
    return .consulted verdict (← Engine.window)
  | .resolve handle =>
    Engine.withObject environment handle fun resolved =>
      return .resolved (resolved.map (·.kind))
  | .resolveClient handle =>
    Engine.withClient environment handle fun resolved =>
      return .resolvedClient (resolved.map fun found => (found.1.kind, found.2))
  | .openSession session =>
    Engine.withOpened environment session fun opened => return .opened opened
  | .destroy session => do
    Engine.sessionDestroyed session
    return .done
  | .register _ none _ => return .nameless
  | .register session (some name) count => do
    registerMany session name count
    return .registered (← Engine.registry).size
  | .erase session => do
    let record ← Engine.forget session
    return .erased record (← Engine.registry).size
  | .nameOf session => return .named ((← Engine.registry).nameOf? session)
  | .firstNamed name => return .found ((← Engine.registry).firstNamed name)
  | .size => return .counted (← Engine.registry).size
  | .configure bootModules version => do
    Engine.configure bootModules version
    return .host (← Engine.host)
  | .startNetwork => do
    Engine.startNetwork
    return .host (← Engine.host)
  | .showHost => return .host (← Engine.host)
  | .toggle features on => do
    Engine.modifyHost fun h => h.toggle features on
    return .host (← Engine.host)
  | .withFeatures features => do
    Engine.modifyHost fun h => h.withFeatures features
    return .host (← Engine.host)
  | .allows features => return .enabled ((← Engine.host).allows features)
  | .isApplication =>
    return .application ((← Engine.host).isApplication (← Engine.pid environment))
  | .map mapping => do
    modifyMemory fun m => m.map mapping.address mapping.bytes mapping.writable
    return .done
  | .unmap extent => do
    modifyMemory fun m => m.unmap extent.address extent.length
    return .done
  | .protect extent => do
    modifyMemory fun m => m.protect extent.address extent.length
    return .done
  | .peek extent => fun w =>
    (.peeked (w.outside.memory.peek extent.address extent.length), w)
  | .instruct script plugin => do
    modifyKernel fun k => { k with side := k.side.instruct script plugin }
    return .done
  | .refuseOpening result => do
    modifyKernel fun k => { k with refusal := result }
    return .done

/-- What a step writes before it asks for anything. -/
def prepare (s : Step) : Engine Kernel Unit := do
  Engine.modifyWindow fun w => (s.words.getD w).setAll s.edits
  modifyKernel fun k => { k with pid := s.pid.getD k.pid }

/-- Carries out a step.  The trace of a stage is that of its last step. -/
def step (stage : Stage) (s : Step) : Report × Stage :=
  let (answer, after) := (do prepare s; perform s.command).run { stage with trace := [] }
  let sideInstalled := stage.outside.side.script.isSome
  (⟨answer, after.trace.filter (isVisible sideInstalled), after.trace.notices.map (·.record)⟩,
    after)

def runSteps (stage : Stage) : List Step → List Report × Stage
  | [] => ([], stage)
  | s :: rest =>
    let (report, stage) := step stage s
    let (reports, stage) := runSteps stage rest
    (report :: reports, stage)

/-- The stage before the first step: an empty window, and the sessions that are registered from
the start. -/
def stage (kernel : Kernel) (host : Host) (sessions : List NamedSession) : Stage where
  registry := sessions.foldl (fun r x => (r.insert x.session x.name).2) Registry.empty
  host := host
  window := Window.empty
  outside := kernel
  trace := []

/-- The sessions of all client ends, without repetition and in increasing order. -/
def clientSessions (k : Kernel) : List SessionId :=
  ((k.objects.filterMap (·.session?)).mergeSort fun s t => s.raw ≤ t.raw).eraseDups

/-- The sessions of all client ends, with the names they have in the end. -/
def names (stage : Stage) : List (SessionId × Option ServiceName) :=
  (clientSessions stage.outside).map fun s => (s, stage.registry.nameOf? s)

end Scripted

end Interception.Simulation
