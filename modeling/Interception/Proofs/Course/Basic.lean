/-
Courses of computations.

A computation of the engine leaves a registry, a window and a state of the environment behind and
adds events to the trace; it never changes the host.  A `Course` collects what it leaves and what
it adds, and `World.after` is the world that results.

The other modules of this folder describe every computation by the courses that it can take, one
constructor for each way through it.  What is proved of a computation is then proved for its ways
one by one:

* `World.change_changes` — what others do to the registry while a call waits;
* `Engine.send_course` — the course of the real synchronous call.
-/
import Interception.Engine.Call

namespace Interception

variable {σ : Type}

/-- What a computation leaves behind and the events that it adds to the trace. -/
structure Course (σ : Type) where
  registry : Registry
  window : Window
  /-- The state of the environment. -/
  outside : σ
  events : Trace

namespace World

/-- The world after a course. -/
def after (w : World σ) (c : Course σ) : World σ where
  registry := c.registry
  host := w.host
  window := c.window
  outside := c.outside
  trace := w.trace ++ c.events

@[simp]
theorem registry_after (w : World σ) (c : Course σ) :
    (w.after c).registry = c.registry := rfl

@[simp]
theorem host_after (w : World σ) (c : Course σ) : (w.after c).host = w.host := rfl

@[simp]
theorem window_after (w : World σ) (c : Course σ) : (w.after c).window = c.window := rfl

@[simp]
theorem outside_after (w : World σ) (c : Course σ) :
    (w.after c).outside = c.outside := rfl

@[simp]
theorem trace_after (w : World σ) (c : Course σ) :
    (w.after c).trace = w.trace ++ c.events := rfl

/-- The world after a course that leaves everything as it was. -/
@[simp]
theorem after_nothing (w : World σ) : w.after ⟨w.registry, w.window, w.outside, []⟩ = w := by
  simp [after]

/-- One course after another is a course. -/
@[simp]
theorem after_after (w : World σ) (c d : Course σ) :
    (w.after c).after d =
      w.after ⟨d.registry, d.window, d.outside, c.events ++ d.events⟩ := by
  simp [after]

/-- A world after a course tells the course. -/
theorem after_injective (w : World σ) : Function.Injective w.after := by
  intro c d same
  have events : w.trace ++ c.events = w.trace ++ d.events := congrArg trace same
  obtain ⟨registry, window, outside, _⟩ := c
  obtain ⟨_, _, _, _⟩ := d
  obtain rfl := List.append_cancel_left events
  cases same
  rfl

end World

/-! ### The steps of the engine

Each step, run in a world, takes the course that is written on the right. -/

namespace Engine

variable {α β : Type} (env : Environment σ) (w : World σ)

@[simp]
theorem pure_apply (a : α) : (pure a : Engine σ α) w = (a, w) := rfl

@[simp]
theorem bind_apply (m : Engine σ α) (f : α → Engine σ β) :
    (m >>= f) w = f (m w).1 (m w).2 := rfl

@[simp]
theorem map_apply (f : α → β) (m : Engine σ α) : (f <$> m) w = (f (m w).1, (m w).2) := rfl

@[simp]
theorem window_apply : window w = (w.window, w) := rfl

@[simp]
theorem registry_apply : registry w = (w.registry, w) := rfl

@[simp]
theorem host_apply : host w = (w.host, w) := rfl

@[simp]
theorem pid_apply : pid env w = (env.pid w.outside, w) := rfl

@[simp]
theorem modifyWindow_apply (f : Window → Window) :
    modifyWindow f w = ((), w.after ⟨w.registry, f w.window, w.outside, []⟩) := by
  simp [modifyWindow, World.after]

@[simp]
theorem note_apply (notice : Notice) :
    note notice w = ((), w.after ⟨w.registry, w.window, w.outside, [.noted notice]⟩) := rfl

@[simp]
theorem register_apply (session : SessionId) (name : ServiceName) :
    register session name w = ((), w.after ⟨(w.registry.insert session name).2, w.window,
      w.outside, (Notice.ofRegistration session name (w.registry.insert session name).1).map
        .noted⟩) := rfl

@[simp]
theorem lookUp_apply (handle : Handle) :
    lookUp env handle w = ((env.lookUp handle w.outside).1,
      w.after ⟨w.registry, w.window, (env.lookUp handle w.outside).2,
        [.lookedUp handle (env.lookUp handle w.outside).1]⟩) := rfl

@[simp]
theorem release_apply (object : Object) :
    release env object w = ((), w.after ⟨w.registry, w.window, env.release object w.outside,
      [.released object]⟩) := rfl

@[simp]
theorem openSession_apply (session : SessionId) :
    openSession env session w = ((env.openSession session w.outside).1,
      w.after ⟨w.registry, w.window, (env.openSession session w.outside).2,
        [.opened session (env.openSession session w.outside).1]⟩) := rfl

@[simp]
theorem closeHandle_apply (handle : Handle) :
    closeHandle env handle w = ((), w.after ⟨w.registry, w.window,
      env.closeHandle handle w.outside, [.closed handle]⟩) := rfl

@[simp]
theorem readMemory_apply (address : UInt32) (n : Nat) :
    readMemory env address n w = (env.readMemory address n w.outside, w.after ⟨w.registry,
      w.window, w.outside, [.read address n (env.readMemory address n w.outside).toBool]⟩) := rfl

@[simp]
theorem writeMemory_apply (address : UInt32) (bytes : List UInt8) :
    writeMemory env address bytes w = ((env.writeMemory address bytes w.outside).1,
      w.after ⟨w.registry, w.window, (env.writeMemory address bytes w.outside).2,
        [.wrote address bytes (env.writeMemory address bytes w.outside).1.toBool]⟩) := rfl

@[simp]
theorem askLanguage_apply :
    askLanguage env w = ((env.askLanguage w.window w.outside).1.1,
      w.after ⟨w.registry, (env.askLanguage w.window w.outside).1.2,
        (env.askLanguage w.window w.outside).2,
        [.languageAsked w.window (env.askLanguage w.window w.outside).1.1]⟩) := rfl

@[simp]
theorem showThrow_apply :
    showThrow env w = ((env.showThrow w.window w.outside).1.1,
      w.after ⟨w.registry, (env.showThrow w.window w.outside).1.2,
        (env.showThrow w.window w.outside).2,
        [.throwShown w.window (env.showThrow w.window w.outside).1.1]⟩) := rfl

@[simp]
theorem pluginPhase_apply :
    pluginPhase env w = (env.pluginPhase w.outside, w.after ⟨w.registry, w.window, w.outside,
      [.pluginAsked (env.pluginPhase w.outside)]⟩) := rfl

@[simp]
theorem signalHome_apply :
    signalHome env w = ((), w.after ⟨w.registry, w.window, env.signalHome w.outside,
      [.homeSignalled]⟩) := rfl

@[simp]
theorem wakeApplication_apply :
    wakeApplication env w = ((), w.after ⟨w.registry, w.window, env.wakeApplication w.outside,
      [.applicationWoken]⟩) := rfl

end Engine

/-! ### What others do to the registry -/

namespace Registry

/-- The registry after a change that others make to it. -/
def change (r : Registry) : RegistryChange → Registry
  | .insert session name => (r.insert session name).2
  | .erase session => (r.erase session).2

/-- The registry after several changes. -/
def changed (r : Registry) (changes : List RegistryChange) : Registry :=
  changes.foldl change r

/-- What there is to tell about a change. -/
def changeNotices (r : Registry) : RegistryChange → List Notice
  | .insert session name => Notice.ofRegistration session name (r.insert session name).1
  | .erase _ => []

/-- What there is to tell about several changes. -/
def notices (r : Registry) : List RegistryChange → List Notice
  | [] => []
  | change :: rest => r.changeNotices change ++ (r.change change).notices rest

end Registry

theorem World.change_eq (w : World σ) (change : RegistryChange) :
    w.change change = w.after
      ⟨w.registry.change change, w.window, w.outside,
        (w.registry.changeNotices change).map .noted⟩ := by
  cases change with
  | insert session name => rfl
  | erase session =>
    simp [World.change, World.after, Registry.change, Registry.changeNotices]

/-- What others do to the registry while a call waits leaves everything else alone. -/
theorem World.change_changes (w : World σ) (changes : List RegistryChange) :
    changes.foldl World.change w = w.after
      ⟨w.registry.changed changes, w.window, w.outside,
        (w.registry.notices changes).map .noted⟩ := by
  induction changes generalizing w with
  | nil => simp [World.after, Registry.changed, Registry.notices]
  | cons change rest ih =>
    rw [List.foldl_cons, ih, World.change_eq, World.after_after]
    simp [Registry.changed, Registry.notices]

/-! ### The real synchronous call -/

/-- The events of a call with some reply: first the call itself, then what there is to tell about
the changes that others made meanwhile. -/
def Reply.events (reply : Reply) (route : Route) (request : Window) (registry : Registry) : Trace :=
  .sent route request reply.window reply.result :: (registry.notices reply.changes).map .noted

/-- The course of the real synchronous call. -/
theorem Engine.send_course {env : Environment σ} (route : Route) (w : World σ) {reply : Reply}
    {outside : σ} (h : env.send route.handle w.window w.outside = (reply, outside)) :
    Engine.send env route w =
      (reply.result, w.after ⟨w.registry.changed reply.changes, reply.window, outside,
        reply.events route w.window w.registry⟩) := by
  simp only [Engine.send, h]
  rw [World.change_changes]
  simp [World.after, World.log, Reply.events]

end Interception
