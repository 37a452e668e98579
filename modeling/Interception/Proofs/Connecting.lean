/-
A connection from its request to its registration.

A request to connect is sent once and as it is, and the caller gets the result of that call.  If the
call fails, the handle word is cleared and nothing else is done.  Otherwise the window stays as the
reply left it, and only the handle in it is followed: it is looked up once, unless it is null, and
whatever reference that took is given back.  If it leads to a session that has no name, the session
gets the name that was asked for as long as a slot is free.

* `Engine.Resolved.lookUps_looked` — a handle is looked up once, and the null handle not at all;
* `Engine.Learnt.connects` — what a connection does with its reply;
* `Engine.call_connects` — the account of a connection.
-/
import Interception.Proofs.Balance
import Interception.Proofs.Run.Names
import Interception.Proofs.Sendings

namespace Interception

variable {σ : Type}

/-! ### Handles that are looked up -/

/-- The handle that an event looks up. -/
abbrev Event.handle? : Event → Option Handle
  | .lookedUp handle _ => some handle
  | _ => none

/-- The handles that a trace looks up, in their order. -/
abbrev Trace.lookUps (t : Trace) : List Handle :=
  t.filterMap Event.handle?

namespace Engine

/-- A handle is looked up once, and the null handle not at all. -/
theorem Resolved.lookUps_looked {env : Environment σ} {handle : Handle} {s outside : σ}
    {resolution : Resolution} {looked : Trace}
    (resolved : Resolved env handle s resolution outside looked) :
    looked.lookUps = if handle.isNull then [] else [handle] := by
  cases resolved with
  | null isNull => simp [isNull]
  | unknown notNull lookedUp => simp [notNull]
  | otherKind notNull lookedUp kind => simp [notNull]
  | client notNull lookedUp kind => simp [notNull]

/-- A handle that leads to a session is looked up once. -/
theorem Resolved.lookUps_ok {env : Environment σ} {handle : Handle} {s outside : σ}
    {found : Object × SessionId} {looked : Trace}
    (resolved : Resolved env handle s (.ok found) outside looked) : looked.lookUps = [handle] := by
  cases resolved with
  | client notNull lookedUp kind => rfl

/-! ### What is done with a reply -/

/-- What a connection does with its reply, given the name that was asked for, the reply, the state
of the environment and the registry with it: the window and the registry then, and the handles that
are looked up. -/
structure Connects (env : Environment σ) (requested : Option ServiceName) (reply : Reply)
    (outside : σ) (registry : Registry) (left : Window) (after : Registry)
    (lookUps : List Handle) : Prop where
  /-- After a failure the handle word is null and no handle is followed. -/
  failed : reply.result.isFailure = true →
    left.word 3 = 0 ∧ (∀ i, i ≠ 3 → left.word i = reply.window.word i) ∧ lookUps = [] ∧
      after = registry
  /-- Otherwise the window stays as it is, and the handle in it is looked up unless it is null. -/
  connected : reply.result.isFailure = false →
    left = reply.window ∧
      lookUps = if reply.window.word 3 = 0 then [] else [⟨reply.window.word 3⟩]
  /-- A session that has no name gets the one that was asked for, if there is room. -/
  named : reply.result.isFailure = false → ∀ name session, requested = some name →
    sessionBehind env ⟨reply.window.word 3⟩ outside = some session →
      registry.nameOf? session = none → registry.size < Registry.capacity →
        after.nameOf? session = some name

theorem Learnt.connects {env : Environment σ} {handle : Handle} {w : World σ} {outcome : Outcome}
    {c : Course σ} (learnt : Learnt env handle w outcome c) :
    ∃ reply outside, env.send handle w.window w.outside = (reply, outside) ∧
      outcome = .answered reply.result ∧
      c.events.sendings = [⟨.caller handle, w.window, reply.result⟩] ∧
      Connects env (requestedName w.window) reply outside (w.registry.changed reply.changes)
        c.window c.registry c.events.lookUps := by
  have registry_eq {reply : Reply} {outside : σ}
      (sent : env.send handle w.window w.outside = (reply, outside))
      (succeeded : reply.result.isFailure = false) := learnt.registry_eq sent succeeded
  cases learnt with
  | @failed reply outside sent failed =>
    have unfailed : ¬ reply.result.isFailure = false := by simp [failed]
    refine ⟨reply, outside, sent, rfl, by simp, fun _ => ?_,
      fun succeeded => absurd succeeded unfailed, fun succeeded => absurd succeeded unfailed⟩
    refine ⟨by simp [Window.word_set, handleWord, Window.size], fun i other => ?_, by simp, rfl⟩
    rw [Window.word_set, if_neg]
    rintro ⟨rfl, -⟩
    exact other rfl
  | @connected reply before _ resolution _ _ _ sent succeeded resolved learnt =>
    refine ⟨reply, before, sent, rfl, ?_, fun failed => ?_, fun _ => ⟨rfl, ?_⟩, ?_⟩
    · simp [resolved.filterMap_looked, -Resolution.givenUp]
    · rw [succeeded] at failed
      cases failed
    · simp [resolved.lookUps_looked, connectedHandle, Handle.isNull, handleWord,
        -Resolution.givenUp]
    · intro _ name session requested behind unknown room
      exact nameOf?_of_connected (registry_eq sent succeeded) requested behind unknown room

/-- The account of a connection: the request is sent once and as it is, the call has the result of
that, and of the handles in it only the one in the reply is followed, besides that of the caller. -/
theorem call_connects (env : Environment σ) (handle : Handle) (w v : World σ) (rule : Rule)
    (hreached : reached env handle w = some (rule, v)) (action : rule.action = .learnConnection) :
    ∃ reply outside t, env.send handle w.window v.outside = (reply, outside) ∧
      (examine env handle w).1 = .answered reply.result ∧
      (call env handle w).1 = reply.result ∧
      (call env handle w).2.trace = w.trace ++ t ∧
      t.sendings = [⟨.caller handle, w.window, reply.result⟩] ∧
      t.Balanced ∧
      ∃ lookUps, t.lookUps = handle :: lookUps ∧
        Connects env (requestedName w.window) reply outside (w.registry.changed reply.changes)
          (call env handle w).2.window (call env handle w).2.registry lookUps := by
  obtain ⟨outcome, d, examined, hexamine⟩ := exists_examined env handle w
  have balanced := examined.balanced
  cases examined with
  | unresolved resolved =>
    rw [resolved.reached_error] at hreached
    cases hreached
  | unruled resolved unruled =>
    rw [resolved.reached_unruled unruled] at hreached
    cases hreached
  | ruled resolved known chosen acted =>
    cases hreached.symm.trans (resolved.reached_ruled known chosen)
    rw [action] at acted
    cases acted with
    | learnt learnt =>
      obtain ⟨reply, outside, sent, rfl, sendings, connects⟩ := learnt.connects
      have hcall : call env handle w = (reply.result, (examine env handle w).2) := by
        simp [call, hexamine]
      rw [hcall, hexamine]
      refine ⟨reply, outside, _, sent, rfl, rfl, rfl, ?_, balanced, _, ?_, connects⟩
      · simp [resolved.filterMap_looked, sendings]
      · simp [resolved.lookUps_ok]

open Simulation Scripted

/-- The caller of the service manager gets a session: two handles are looked up, every reference is
given back, and the session has the name that was asked for. -/
theorem connecting_connected :
    ∃ t name, (call environment ⟨256⟩ connecting).2.trace = connecting.trace ++ t ∧ t.Balanced ∧
      t.lookUps = [⟨256⟩, ⟨257⟩] ∧ requestedName connecting.window = some name ∧
      (call environment ⟨256⟩ connecting).2.registry.nameOf? ⟨8192⟩ = some name := by
  obtain ⟨⟨rule, v⟩, hreached⟩ := Option.isSome_iff_exists.mp
    (show (reached environment ⟨256⟩ connecting).isSome = true by decide +kernel)
  have taken : (reached environment ⟨256⟩ connecting).map (·.1.action) = some .learnConnection := by
    decide +kernel
  obtain ⟨name, requested⟩ := Option.isSome_iff_exists.mp
    (show (requestedName connecting.window).isSome = true by decide +kernel)
  have answered : (reached environment ⟨256⟩ connecting).map (fun r =>
      let sent := environment.send ⟨256⟩ connecting.window r.2.outside
      let registry := connecting.registry.changed sent.1.changes
      (sent.1.result.isFailure, sent.1.window.word 3,
        sessionBehind environment ⟨sent.1.window.word 3⟩ sent.2, registry.nameOf? ⟨8192⟩,
        decide (registry.size < Registry.capacity))) =
      some (false, 257, some ⟨8192⟩, none, true) := by decide +kernel
  obtain ⟨reply, outside, t, sent, -, -, trace, -, balanced, lookUps, followed, connects⟩ :=
    call_connects environment ⟨256⟩ connecting v rule hreached (by simpa [hreached] using taken)
  simp only [hreached, sent, Option.map_some, Option.some.injEq, Prod.mk.injEq,
    decide_eq_true_eq] at answered
  obtain ⟨succeeded, word, behind, unknown, room⟩ := answered
  refine ⟨t, name, trace, balanced, ?_, requested,
    connects.named succeeded name ⟨8192⟩ requested behind unknown room⟩
  rw [followed, (connects.connected succeeded).2, word, if_neg (by decide)]

end Engine

end Interception
