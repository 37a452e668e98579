/-
Ways of following a handle.

A handle is null, unknown, names an object of another kind, or leads to a client session.  In each
case the reference that was taken is given back in one place: at once if the object is of no use,
and otherwise after the computation that uses it.

* `Engine.exists_resolved` — one of the four ways is always taken;
* `Engine.withClient_course` — the course of a computation on the session behind a handle.
-/
import Interception.Proofs.Course.Basic

namespace Interception

variable {σ α : Type}

/-- What a handle leads to: the client end of a session, or nothing of use. -/
abbrev Resolution : Type := Except Unresolved (Object × SessionId)

namespace Resolution

/-- The state of the environment after a resolution was given up. -/
@[simp]
def giveUp (env : Environment σ) : Resolution → σ → σ
  | .ok (object, _), s => env.release object s
  | .error _, s => s

/-- The events of giving a resolution up. -/
@[simp]
def givenUp : Resolution → Trace
  | .ok (object, _) => [.released object]
  | .error _ => []

end Resolution

namespace Engine

/-- The ways of following a handle: what it leads to, the state of the environment then, and the
events on the way. -/
inductive Resolved (env : Environment σ) (handle : Handle) (s : σ) :
    Resolution → σ → Trace → Prop where
  /-- The null handle is not looked up. -/
  | null (isNull : handle.isNull = true) :
      Resolved env handle s (.error .noObject) s []
  | unknown {outside : σ} (notNull : handle.isNull = false)
      (lookedUp : env.lookUp handle s = (none, outside)) :
      Resolved env handle s (.error .noObject) outside [.lookedUp handle none]
  /-- An object of another kind is released at once. -/
  | otherKind {object : Object} {outside : σ} (notNull : handle.isNull = false)
      (lookedUp : env.lookUp handle s = (some object, outside))
      (kind : object.kind.session? = none) :
      Resolved env handle s (.error .notClient) (env.release object outside)
        [.lookedUp handle (some object), .released object]
  | client {object : Object} {session : SessionId} {outside : σ}
      (notNull : handle.isNull = false)
      (lookedUp : env.lookUp handle s = (some object, outside))
      (kind : object.kind.session? = some session) :
      Resolved env handle s (.ok (object, session)) outside [.lookedUp handle (some object)]

/-- One of the ways of following a handle is always taken. -/
theorem exists_resolved (env : Environment σ) (handle : Handle) (s : σ) :
    ∃ resolution outside looked, Resolved env handle s resolution outside looked := by
  cases isNull : handle.isNull with
  | true => exact ⟨_, _, _, .null isNull⟩
  | false =>
    rcases lookedUp : env.lookUp handle s with ⟨_ | object, outside⟩
    · exact ⟨_, _, _, .unknown isNull lookedUp⟩
    · cases kind : object.kind.session? with
      | none => exact ⟨_, _, _, .otherKind isNull lookedUp kind⟩
      | some session => exact ⟨_, _, _, .client isNull lookedUp kind⟩

/-- A computation on the session behind a handle: the handle is followed, the computation takes its
course, and what the handle led to is given up. -/
theorem withClient_course {env : Environment σ} {handle : Handle} {w : World σ}
    {body : Resolution → Engine σ α} {resolution : Resolution} {outside : σ} {looked : Trace}
    (answer : α) (c : Course σ) (resolved : Resolved env handle w.outside resolution outside looked)
    (ran : body resolution (w.after ⟨w.registry, w.window, outside, looked⟩) =
      (answer, (w.after ⟨w.registry, w.window, outside, looked⟩).after c)) :
    withClient env handle body w =
      (answer, w.after ⟨c.registry, c.window, resolution.giveUp env c.outside,
        looked ++ c.events ++ resolution.givenUp⟩) := by
  cases resolved with
  | null isNull =>
    rw [World.after_nothing] at ran
    simp [withClient, borrow, isNull, ran]
  | unknown notNull lookedUp => simp [withClient, borrow, notNull, lookedUp, ran]
  | otherKind notNull lookedUp kind => simp [withClient, borrow, notNull, lookedUp, kind, ran]
  | client notNull lookedUp kind => simp [withClient, borrow, notNull, lookedUp, kind, ran]

end Engine

end Interception
