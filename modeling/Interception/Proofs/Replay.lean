/-
Replaying the trace of a call.

Every step that reaches the environment leaves an event in the trace.  So the trace tells all that a
call does to its environment: if its events are performed once more, one after the other and from
the state in which the call has found the environment, they lead to the state in which the call has
left it.  What is known of the events is then known of the states between them.

* `Environment.replay_append` — performing events one after the other;
* `Engine.Acted.replay_eq` — the events of an action lead to the state that it leaves;
* `Engine.Called.replay_eq` — the events of a call lead to the state that it leaves.
-/
import Interception.Proofs.Course.Call

namespace Interception

variable {σ : Type}

namespace Environment

/-- What an event does to the state of an environment. -/
def perform (env : Environment σ) (s : σ) : Event → σ
  | .lookedUp handle _ => (env.lookUp handle s).2
  | .released object => env.release object s
  | .opened session _ => (env.openSession session s).2
  | .closed handle => env.closeHandle handle s
  | .sent route request _ _ => (env.send route.handle request s).2
  | .wrote address bytes _ => (env.writeMemory address bytes s).2
  | .languageAsked request _ => (env.askLanguage request s).2
  | .throwShown request _ => (env.showThrow request s).2
  | .homeSignalled => env.signalHome s
  | .applicationWoken => env.wakeApplication s
  | .read _ _ _ | .pluginAsked _ | .noted _ => s

/-- The state of an environment after the events of a trace. -/
def replay (env : Environment σ) (s : σ) (t : Trace) : σ :=
  t.foldl env.perform s

variable (env : Environment σ) (s : σ)

@[simp]
theorem replay_nil : env.replay s [] = s := rfl

@[simp]
theorem replay_cons (e : Event) (t : Trace) :
    env.replay s (e :: t) = env.replay (env.perform s e) t := rfl

@[simp]
theorem replay_append (t u : Trace) : env.replay s (t ++ u) = env.replay (env.replay s t) u :=
  List.foldl_append

@[simp]
theorem replay_noted (notices : List Notice) : env.replay s (notices.map .noted) = s := by
  induction notices with
  | nil => rfl
  | cons notice rest ih => exact ih

@[simp]
theorem replay_events (reply : Reply) (route : Route) (request : Window) (registry : Registry) :
    env.replay s (reply.events route request registry) = (env.send route.handle request s).2 := by
  rw [Reply.events, replay_cons, replay_noted]
  rfl

@[simp]
theorem replay_givenUp (resolution : Resolution) :
    env.replay s resolution.givenUp = resolution.giveUp env s := by
  rcases resolution with error | ⟨object, session⟩ <;> rfl

@[simp]
theorem replay_restoring (pointer : UInt32) (answer : Except Fault Unit) :
    env.replay s (Logo.restoring pointer answer) = s := by
  cases answer <;> rfl

end Environment

theorem Supervisor.Encoded.replay_reads {env : Environment σ} {w : World σ} {operation : Watched}
    {answer : Except Refusal Request} {reads : Trace}
    (encoded : Encoded env w operation answer reads) (s : σ) : env.replay s reads = s := by
  cases encoded <;> rfl

namespace Engine

variable {env : Environment σ} {handle : Handle} {w : World σ} {outcome : Outcome} {c : Course σ}

theorem Resolved.replay_looked {s outside : σ} {resolution : Resolution} {looked : Trace}
    (resolved : Resolved env handle s resolution outside looked) :
    env.replay s looked = outside := by
  cases resolved with
  | null isNull => rfl
  | unknown notNull lookedUp => simp [Environment.perform, lookedUp]
  | otherKind notNull lookedUp kind => simp [Environment.perform, lookedUp]
  | client notNull lookedUp kind => simp [Environment.perform, lookedUp]

theorem PathRead.replay_reads {answer : Except Fault (Vector UInt8 Logo.pathLength)}
    {reads : Trace} (read : PathRead env w answer reads) (s : σ) : env.replay s reads = s := by
  cases read <;> rfl

theorem Learnt.replay_eq (learnt : Learnt env handle w outcome c) :
    env.replay w.outside c.events = c.outside := by
  cases learnt with
  | failed sent failed => simp [Route.handle, sent]
  | connected sent connected resolved learnt =>
    simp [Route.handle, sent, resolved.replay_looked, -Resolution.givenUp]

theorem Relayed.replay_eq (relayed : Relayed env handle w outcome c) :
    env.replay w.outside c.events = c.outside := by
  cases relayed with
  | failed sent failed => simp [Route.handle, sent]
  | ignored sent succeeded ignored => simp [Environment.perform, Route.handle, sent]
  | woken sent succeeded woken => simp [Environment.perform, Route.handle, sent]

theorem LogoOpened.replay_eq (opened : LogoOpened env handle w outcome c) :
    env.replay w.outside c.events = c.outside := by
  cases opened with
  | unreadable read => simp [Environment.perform, read.replay_reads]
  | otherFile read other => exact read.replay_reads _
  | readOnly read logo wrote => simp [Environment.perform, read.replay_reads, wrote]
  | served read logo wrote sent served =>
    simp [Environment.perform, Route.handle, read.replay_reads, wrote, sent]
  | fellBack read logo wrote sent unserved restored =>
    simp [Environment.perform, Route.handle, read.replay_reads, wrote, sent, restored]

theorem Consulted.replay_eq {operation : Watched} {verdict : Consultation}
    (consulted : Consulted env operation w verdict c) :
    env.replay w.outside c.events = c.outside := by
  cases consulted with
  | absent unknown => rfl
  | refused known encoded => simp [Environment.perform, encoded.replay_reads]
  | unreachable known encoded opened =>
    simp [Environment.perform, encoded.replay_reads, opened]
  | declined known encoded opened sent unhandled =>
    simp [Environment.perform, Route.handle, encoded.replay_reads, opened, sent]
  | handled known encoded opened sent handled =>
    simp [Environment.perform, Route.handle, encoded.replay_reads, opened, sent]

/-- The events of an action lead to the state that it leaves. -/
theorem Acted.replay_eq {action : Action} (acted : Acted env handle w action outcome c) :
    env.replay w.outside c.events = c.outside := by
  cases acted with
  | succeeded => rfl
  | applicationWoken => rfl
  | languageAnswered asked => simp [Environment.perform, asked]
  | languageDeclined asked => simp [Environment.perform, asked]
  | throwConsumed shown => simp [Environment.perform, shown]
  | throwIgnored shown => simp [Environment.perform, shown]
  | learnt learnt => exact learnt.replay_eq
  | relayed relayed => exact relayed.replay_eq
  | logoOpened opened took => exact opened.replay_eq
  | consulted consulted took => exact consulted.replay_eq

theorem Examined.replay_eq (examined : Examined env handle w outcome c) :
    env.replay w.outside c.events = c.outside := by
  cases examined with
  | unresolved resolved => simp [Environment.perform, resolved.replay_looked]
  | unruled resolved unruled => simp [Environment.perform, resolved.replay_looked]
  | ruled resolved known chosen acted =>
    have inner := acted.replay_eq
    rw [World.outside_after] at inner
    simp [Environment.perform, resolved.replay_looked, inner]

/-- The events of a call lead to the state that it leaves. -/
theorem Called.replay_eq {result : ResultCode} (called : Called env handle w result c) :
    env.replay w.outside c.events = c.outside := by
  cases called with
  | answered examined => exact examined.replay_eq
  | forwarded examined sent => simp [Route.handle, examined.replay_eq, sent]

end Engine

end Interception
