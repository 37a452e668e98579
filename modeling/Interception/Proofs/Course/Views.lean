/-
Views of the events of a call.

What is proved of the events of a call is often about some of them only.  A view of events is a
function `f : Event → Option β` that keeps what matters, and `t.filterMap f` is what it keeps of a
trace.  A lemma whose name starts with `filterMap` says for every view what it keeps of the events
of one computation if it passes over those of a kind.  A view that has a name is an abbreviation:
so the lemmas apply to it as they stand, and which kinds it passes over is a matter of computation.

Most computations neither take references nor open handles.  A view of nothing but references and
opened handles (`Event.IsResourceView`) keeps nothing of them:

* `Engine.Learnt.filterMap_events`, `Engine.Relayed.filterMap_events` and
  `Engine.LogoOpened.filterMap_events` — nothing is kept of these computations;
* `Engine.Consulted.exists_life` — of a consultation nothing but the life of one handle is kept.
-/
import Interception.Proofs.Course.Call

namespace Interception

variable {σ : Type}

/-! ### Views that pass over one kind of events -/

section Kinds

variable {β : Type} {f : Event → Option β}

@[simp]
theorem Trace.filterMap_cons (e : Event) (t : Trace) :
    List.filterMap f (e :: t) = (f e).toList ++ List.filterMap f t := by
  rw [List.filterMap_cons]
  cases f e <;> rfl

@[simp]
theorem Trace.filterMap_noted (noted : ∀ notice, f (.noted notice) = none)
    (notices : List Notice) : (notices.map Event.noted).filterMap f = [] := by
  rw [List.filterMap_map]
  exact List.filterMap_eq_nil_iff.mpr fun notice _ => noted notice

/-- Of the events of a reply only the call itself is kept, if nothing is kept of the notices. -/
@[simp]
theorem Reply.filterMap_events {reply : Reply} {registry : Registry}
    (noted : ((registry.notices reply.changes).map Event.noted).filterMap f = []) (route : Route)
    (request : Window) :
    (reply.events route request registry).filterMap f =
      (f (.sent route request reply.window reply.result)).toList := by
  rw [Reply.events, Trace.filterMap_cons, noted, List.append_nil]

@[simp]
theorem Logo.filterMap_restoring {pointer : UInt32}
    (noted : ∀ fault, f (.noted (.pathNotRestored pointer fault)) = none)
    (answer : Except Fault Unit) : (restoring pointer answer).filterMap f = [] := by
  cases answer <;> simp [restoring, noted]

@[simp]
theorem Resolution.filterMap_givenUp (released : ∀ object, f (.released object) = none)
    (resolution : Resolution) : resolution.givenUp.filterMap f = [] := by
  rcases resolution with error | ⟨object, session⟩ <;> simp [released]

theorem Supervisor.Encoded.filterMap_reads {env : Environment σ} {w : World σ}
    {operation : Watched} {answer : Except Refusal Request} {reads : Trace}
    (encoded : Encoded env w operation answer reads)
    (read : ∀ address n succeeded, f (.read address n succeeded) = none) :
    reads.filterMap f = [] := by
  cases encoded <;> simp [read]

namespace Engine

theorem PathRead.filterMap_reads {env : Environment σ} {w : World σ}
    {answer : Except Fault (Vector UInt8 Logo.pathLength)} {reads : Trace}
    (pathRead : PathRead env w answer reads)
    (read : ∀ address n succeeded, f (.read address n succeeded) = none) :
    reads.filterMap f = [] := by
  cases pathRead <;> simp [read]

theorem Resolved.filterMap_looked {env : Environment σ} {handle : Handle} {s outside : σ}
    {resolution : Resolution} {looked : Trace}
    (resolved : Resolved env handle s resolution outside looked)
    (released : ∀ object, f (.released object) = none)
    (lookedUp : ∀ handle found, f (.lookedUp handle found) = none) : looked.filterMap f = [] := by
  cases resolved <;> simp [lookedUp, released]

end Engine

end Kinds

/-! ### Views of references and opened handles -/

/-- What may happen to handles that are opened for a request: nothing is opened, or opening fails,
or one handle is opened, one call is made on it, and it is closed. -/
inductive HandleLife : Trace → Prop where
  | unopened : HandleLife []
  | refused (session : SessionId) (result : ResultCode) :
      HandleLife [.opened session (.error result)]
  | used (session : SessionId) (handle : Handle) (request reply : Window) (result : ResultCode) :
      HandleLife [.opened session (.ok handle),
        .sent (.opened session handle) request reply result, .closed handle]

/-- Views that keep nothing but events of references and of opened handles. -/
structure Event.IsResourceView {β : Type} (f : Event → Option β) : Prop where
  sent : ∀ handle request reply result, f (.sent (.caller handle) request reply result) = none
  read : ∀ address n succeeded, f (.read address n succeeded) = none
  wrote : ∀ address bytes succeeded, f (.wrote address bytes succeeded) = none
  pluginAsked : ∀ state, f (.pluginAsked state) = none
  homeSignalled : f .homeSignalled = none
  noted : ∀ notice, f (.noted notice) = none

namespace Engine

section Views

variable {β : Type} {f : Event → Option β} (hf : Event.IsResourceView f)

include hf

theorem filterMap_own_events (reply : Reply) (handle : Handle) (request : Window)
    (registry : Registry) :
    (reply.events (.caller handle) request registry).filterMap f = [] := by
  simp [hf.noted, hf.sent]

theorem Learnt.filterMap_events {env : Environment σ} {handle : Handle} {w : World σ}
    {outcome : Outcome} {c : Course σ} (learnt : Learnt env handle w outcome c)
    (released : ∀ object, f (.released object) = none)
    (lookedUp : ∀ handle found, f (.lookedUp handle found) = none) :
    c.events.filterMap f = [] := by
  cases learnt with
  | failed sent failed => exact filterMap_own_events hf ..
  | connected sent connected resolved learnt =>
    simp [filterMap_own_events hf, resolved.filterMap_looked released lookedUp, hf.noted, released,
      -Resolution.givenUp]

theorem Relayed.filterMap_events {env : Environment σ} {handle : Handle} {w : World σ}
    {outcome : Outcome} {c : Course σ} (relayed : Relayed env handle w outcome c) :
    c.events.filterMap f = [] := by
  cases relayed with
  | failed sent failed => exact filterMap_own_events hf ..
  | ignored sent succeeded ignored =>
    rw [List.filterMap_append, filterMap_own_events hf]
    simp [hf.pluginAsked]
  | woken sent succeeded woken =>
    rw [List.filterMap_append, filterMap_own_events hf]
    simp [hf.pluginAsked, hf.noted, hf.homeSignalled]

theorem LogoOpened.filterMap_events {env : Environment σ} {handle : Handle} {w : World σ}
    {outcome : Outcome} {c : Course σ} (opened : LogoOpened env handle w outcome c) :
    c.events.filterMap f = [] := by
  cases opened with
  | unreadable read => simp [read.filterMap_reads hf.read, hf.noted]
  | otherFile read other => exact read.filterMap_reads hf.read
  | readOnly read logo wrote => simp [read.filterMap_reads hf.read, hf.wrote, hf.noted]
  | served read logo wrote sent served =>
    simp [read.filterMap_reads hf.read, hf.wrote, filterMap_own_events hf, hf.noted]
  | fellBack read logo wrote sent unserved restored =>
    simp [read.filterMap_reads hf.read, hf.wrote, filterMap_own_events hf, hf.noted]

/-- The events of asking the supervisor on an opened handle, and what is kept of them. -/
theorem filterMap_used {reads : Trace} (kept : reads.filterMap f = []) (session : SessionId)
    (handle : Handle) (request : Window) (reply : Reply) (registry : Registry) (notice : Notice) :
    (reads ++ Event.opened session (.ok handle) ::
      reply.events (.opened session handle) request registry ++
        [Event.noted notice, Event.closed handle]).filterMap f =
      List.filterMap f [.opened session (.ok handle),
        .sent (.opened session handle) request reply.window reply.result, .closed handle] := by
  simp [kept, hf.noted]

/-- Of a consultation nothing is kept but the life of the handle that was opened for it. -/
theorem Consulted.exists_life {env : Environment σ} {operation : Watched} {w : World σ}
    {verdict : Consultation} {c : Course σ} (consulted : Consulted env operation w verdict c) :
    ∃ life, HandleLife life ∧ c.events.filterMap f = life.filterMap f := by
  cases consulted with
  | absent unknown => exact ⟨[], .unopened, by simp [hf.noted]⟩
  | refused known encoded =>
    exact ⟨[], .unopened, by simp [encoded.filterMap_reads hf.read, hf.noted]⟩
  | @unreachable record _ _ result _ known encoded opened =>
    refine ⟨_, .refused record.session result, ?_⟩
    simp [encoded.filterMap_reads hf.read, hf.noted]
  | declined known encoded opened sent unhandled =>
    exact ⟨_, .used .., filterMap_used hf (encoded.filterMap_reads hf.read) ..⟩
  | handled known encoded opened sent handled =>
    exact ⟨_, .used .., filterMap_used hf (encoded.filterMap_reads hf.read) ..⟩

end Views

end Engine

end Interception
