/-
Requests that pass through.

Most requests have no rule: their handle leads to no client session, the service behind it is not
known, or no row of the table applies.  For such a request the handle is followed and given up, and
then the real call is made with the window as it is.  What is asked of the environment until then
depends neither on the registry nor on the host (`Engine.passing`).

* `Engine.reached_eq_none_iff` — why a request has no rule;
* `Engine.examine_passing` — such a request is looked at and left alone;
* `Engine.call_passing` — the course of the call;
* `Engine.call_passes_through` — what the call does, and all that it does not do.
-/
import Interception.Proofs.Forwarding
import Interception.Proofs.Registry.Records
import Interception.Proofs.Sendings

namespace Interception

variable {σ : Type}

/-- Whether an event is one that a request without a rule may leave: a handle is followed and given
up, a call is made, or the operator is told something. -/
def Event.isPlain : Event → Bool
  | .lookedUp _ _ | .released _ | .sent _ _ _ _ | .noted _ => true
  | .opened _ _ | .closed _ | .read _ _ _ | .wrote _ _ _ | .languageAsked _ _ | .throwShown _ _
  | .pluginAsked _ | .homeSignalled | .applicationWoken => false

/-- Whether a handle was looked up. -/
def Event.isLookUp : Event → Bool
  | .lookedUp _ _ => true
  | _ => false

namespace Engine

variable {env : Environment σ} {handle : Handle} {w : World σ}

/-! ### Requests without a rule -/

/-- Why a request has no rule. -/
inductive Unruled (env : Environment σ) (handle : Handle) (w : World σ) : Prop where
  | null (isNull : handle.isNull = true)
  | unknown (lookedUp : (env.lookUp handle w.outside).1 = none)
  | otherKind {object : Object} (lookedUp : (env.lookUp handle w.outside).1 = some object)
      (kind : object.kind.session? = none)
  | unregistered {object : Object} {session : SessionId}
      (lookedUp : (env.lookUp handle w.outside).1 = some object)
      (kind : object.kind.session? = some session) (unregistered : session ∉ w.registry.sessions)
  /-- No row of the table applies to the request. -/
  | unmatched {object : Object} {session : SessionId} {name : ServiceName}
      (lookedUp : (env.lookUp handle w.outside).1 = some object)
      (kind : object.kind.session? = some session)
      (known : w.registry.nameOf? session = some name)
      (unmatched : ∀ rule ∈ Rule.table,
        rule.applies name w.window (env.pid (env.lookUp handle w.outside).2) w.host = false)

theorem Unruled.reached_eq (unruled : Unruled env handle w) : reached env handle w = none := by
  cases isNull : handle.isNull with
  | true => simp [reached, sessionBehind, isNull]
  | false =>
    cases unruled with
    | null null =>
      rw [isNull] at null
      cases null
    | unknown lookedUp => simp [reached, sessionBehind, isNull, lookedUp]
    | otherKind lookedUp kind => simp [reached, sessionBehind, isNull, lookedUp, kind]
    | unregistered lookedUp kind unregistered =>
      have unknown := (Registry.nameOf?_eq_none_iff ..).mpr unregistered
      simp [reached, sessionBehind, isNull, lookedUp, kind, unknown]
    | unmatched lookedUp kind known unmatched =>
      have unchosen := (Rule.select_eq_none_iff ..).mpr unmatched
      simp [reached, sessionBehind, isNull, lookedUp, kind, known, unchosen]

theorem unruled_of_reached (unreached : reached env handle w = none) : Unruled env handle w := by
  cases isNull : handle.isNull with
  | true => exact .null isNull
  | false =>
    cases lookedUp : (env.lookUp handle w.outside).1 with
    | none => exact .unknown lookedUp
    | some object =>
      cases kind : object.kind.session? with
      | none => exact .otherKind lookedUp kind
      | some session =>
        cases known : w.registry.nameOf? session with
        | none => exact .unregistered lookedUp kind ((Registry.nameOf?_eq_none_iff ..).mp known)
        | some name =>
          refine .unmatched lookedUp kind known ((Rule.select_eq_none_iff ..).mp ?_)
          rw [Option.eq_none_iff_forall_ne_some]
          simpa [reached, sessionBehind, isNull, lookedUp, kind, known] using unreached

/-- No rule is reached exactly for one of these reasons. -/
theorem reached_eq_none_iff : reached env handle w = none ↔ Unruled env handle w :=
  ⟨unruled_of_reached, Unruled.reached_eq⟩

/-! ### The course of such a request -/

/-- What is asked of the environment for a request without a rule until it is sent: the state of the
environment then, and the events. -/
def passing (env : Environment σ) (handle : Handle) (s : σ) : σ × Trace :=
  if handle.isNull then (s, [.noted (.passedThrough handle .noObject)])
  else
    match env.lookUp handle s with
    | (none, outside) =>
      (outside, [.lookedUp handle none, .noted (.passedThrough handle .noObject)])
    | (some object, outside) =>
      (env.release object outside, .lookedUp handle (some object) :: .released object ::
        match object.kind.session? with
        | some _ => []
        | none => [.noted (.passedThrough handle .notClient)])

theorem Resolved.passing_error {s outside : σ} {error : Unresolved} {looked : Trace}
    (resolved : Resolved env handle s (.error error) outside looked) :
    passing env handle s = (outside, looked ++ [.noted (.passedThrough handle error)]) := by
  cases resolved with
  | null isNull => simp [passing, isNull]
  | unknown notNull lookedUp => simp [passing, notNull, lookedUp]
  | otherKind notNull lookedUp kind => simp [passing, notNull, lookedUp, kind]

theorem Resolved.passing_ok {s outside : σ} {object : Object} {session : SessionId}
    {looked : Trace} (resolved : Resolved env handle s (.ok (object, session)) outside looked) :
    passing env handle s = (env.release object outside, looked ++ [.released object]) := by
  cases resolved with
  | client notNull lookedUp kind => simp [passing, notNull, lookedUp, kind]

/-- A request without a rule is looked at and left alone. -/
theorem examine_passing (unreached : reached env handle w = none) :
    examine env handle w = (.forward, w.after
      ⟨w.registry, w.window, (passing env handle w.outside).1,
        (passing env handle w.outside).2⟩) := by
  obtain ⟨outcome, c, examined, hexamine⟩ := exists_examined env handle w
  rw [hexamine]
  cases examined with
  | unresolved resolved => rw [resolved.passing_error]
  | unruled resolved unruled => rw [resolved.passing_ok]
  | ruled resolved known chosen acted =>
    rw [resolved.reached_ruled known chosen] at unreached
    cases unreached

/-- The call of a request without a rule. -/
theorem call_passing (unreached : reached env handle w = none) {reply : Reply} {outside : σ}
    (sent : env.send handle w.window (passing env handle w.outside).1 = (reply, outside)) :
    call env handle w = (reply.result, w.after
      ⟨w.registry.changed reply.changes, reply.window, outside,
        (passing env handle w.outside).2 ++
          reply.events (.caller handle) w.window w.registry⟩) :=
  call_forward (examine_passing unreached) sent

/-! ### What such a call does, and what it does not do -/

@[simp]
theorem sendings_passing (env : Environment σ) (handle : Handle) (s : σ) :
    (passing env handle s).2.sendings = [] := by
  obtain ⟨resolution, outside, looked, resolved⟩ := exists_resolved env handle s
  rcases resolution with error | ⟨object, session⟩
  · simp [resolved.passing_error, resolved.filterMap_looked]
  · simp [resolved.passing_ok, resolved.filterMap_looked]

theorem isPlain_passing (env : Environment σ) (handle : Handle) (s : σ) :
    ∀ e ∈ (passing env handle s).2, e.isPlain = true := by
  obtain ⟨resolution, outside, looked, resolved⟩ := exists_resolved env handle s
  cases resolved with
  | null isNull => simp [passing, isNull, Event.isPlain]
  | unknown notNull lookedUp => simp [passing, notNull, lookedUp, Event.isPlain]
  | otherKind notNull lookedUp kind => simp [passing, notNull, lookedUp, kind, Event.isPlain]
  | client notNull lookedUp kind => simp [passing, notNull, lookedUp, kind, Event.isPlain]

theorem passing_null (env : Environment σ) (isNull : handle.isNull = true) (s : σ) :
    passing env handle s = (s, [.noted (.passedThrough handle .noObject)]) := by
  simp [passing, isNull]

/-- A call and what there is to tell of it are plain, and no handle is looked up. -/
theorem isPlain_events (reply : Reply) (route : Route) (request : Window) (registry : Registry) :
    ∀ e ∈ reply.events route request registry, e.isPlain = true ∧ e.isLookUp = false := by
  simp [Reply.events, Event.isPlain, Event.isLookUp]

/-- What a call that passes through does, given its result and the world after it, the reply to the
one call that it makes, and its events. -/
structure PassesThrough (env : Environment σ) (handle : Handle) (w : World σ)
    (result : ResultCode) (after : World σ) (reply : Reply) (t : Trace) : Prop where
  sent : env.send handle w.window (passing env handle w.outside).1 = (reply, after.outside)
  result_eq : result = reply.result
  window_eq : after.window = reply.window
  /-- Only others change the registry, while the call waits. -/
  registry_eq : after.registry = w.registry.changed reply.changes
  host_eq : after.host = w.host
  trace_eq : after.trace = w.trace ++ t
  sendings : t.sendings = [⟨.caller handle, w.window, reply.result⟩]
  plain : ∀ e ∈ t, e.isPlain = true
  /-- The null handle is not looked up. -/
  null : handle.isNull = true →
    (passing env handle w.outside).1 = w.outside ∧ ∀ e ∈ t, e.isLookUp = false

/-- A request without a rule is sent once, on the handle of its caller and with its whole window,
and its caller gets what that call returns.  Nothing else is done. -/
theorem call_passes_through (env : Environment σ) (handle : Handle) (w : World σ)
    (unruled : Unruled env handle w) :
    ∃ reply t, PassesThrough env handle w (call env handle w).1 (call env handle w).2 reply t := by
  rcases sent : env.send handle w.window (passing env handle w.outside).1 with ⟨reply, outside⟩
  rw [call_passing unruled.reached_eq sent]
  refine ⟨reply, _, sent, rfl, rfl, rfl, rfl, rfl, by simp, ?_, ?_⟩
  · intro e mem
    rcases List.mem_append.mp mem with looked | called
    · exact isPlain_passing env handle w.outside e looked
    · exact (isPlain_events _ _ _ _ e called).1
  · intro isNull
    rw [passing_null env isNull]
    refine ⟨rfl, fun e mem => ?_⟩
    rcases List.mem_cons.mp mem with rfl | called
    · rfl
    · exact (isPlain_events _ _ _ _ e called).2

open Simulation.Scripted in
/-- A directory is to be deleted over a session that nobody has named, and over the null handle. -/
theorem call_passes_through_unnamed :
    let unnamed := { supervised .quiet directoryDeletion with registry := Registry.empty }
    (∃ reply t, PassesThrough environment ⟨256⟩ unnamed (call environment ⟨256⟩ unnamed).1
      (call environment ⟨256⟩ unnamed).2 reply t) ∧
    ∃ reply t, PassesThrough environment .null unnamed (call environment .null unnamed).1
      (call environment .null unnamed).2 reply t :=
  ⟨call_passes_through environment ⟨256⟩ _ (.unregistered rfl rfl (by simp [Registry.sessions])),
    call_passes_through environment .null _ (.null rfl)⟩

end Engine

end Interception
