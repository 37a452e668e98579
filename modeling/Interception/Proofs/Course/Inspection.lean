/-
Ways of making a call and looking at its reply.

A connection is made first and its reply is searched for the new session afterwards; a parameter
from the home menu is received first and the plugin is woken afterwards.  In both cases the caller
gets the result of the call.

* `Engine.exists_learnt` — the ways of making a connection;
* `Engine.exists_relayed` — the ways of receiving a parameter.
-/
import Interception.Proofs.Course.Scope

namespace Interception.Engine

variable {σ : Type}

/-- The handle in the reply to a connection. -/
abbrev connectedHandle (reply : Window) : Handle := ⟨reply.word handleWord⟩

/-- The ways of learning the name of a session from the handle in a reply: the registry then, and
what there is to tell. -/
inductive NameLearnt (handle : Handle) (registry : Registry) :
    Option ServiceName → Resolution → Registry → List Notice → Prop where
  | nameless {resolution : Resolution} :
      NameLearnt handle registry none resolution registry [.unnamedService handle]
  | unusable {name : ServiceName} {error : Unresolved} :
      NameLearnt handle registry (some name) (.error error) registry
        [.unusableService name handle error]
  | registered {name : ServiceName} {object : Object} {session : SessionId} :
      NameLearnt handle registry (some name) (.ok (object, session))
        (registry.insert session name).2
        (Notice.ofRegistration session name (registry.insert session name).1)

/-- The ways of making a connection. -/
inductive Learnt (env : Environment σ) (handle : Handle) (w : World σ) :
    Outcome → Course σ → Prop where
  /-- The call failed: no handle is left behind. -/
  | failed {reply : Reply} {outside : σ}
      (sent : env.send handle w.window w.outside = (reply, outside))
      (failed : reply.result.isFailure = true) :
      Learnt env handle w (.answered reply.result)
        ⟨w.registry.changed reply.changes, reply.window.set handleWord 0, outside,
          reply.events (.caller handle) w.window w.registry⟩
  | connected {reply : Reply} {before after : σ} {resolution : Resolution} {looked : Trace}
      {registry : Registry} {notices : List Notice}
      (sent : env.send handle w.window w.outside = (reply, before))
      (connected : reply.result.isFailure = false)
      (resolved : Resolved env (connectedHandle reply.window) before resolution after looked)
      (learnt : NameLearnt (connectedHandle reply.window) (w.registry.changed reply.changes)
        (requestedName w.window) resolution registry notices) :
      Learnt env handle w (.answered reply.result)
        ⟨registry, reply.window, resolution.giveUp env after,
          reply.events (.caller handle) w.window w.registry ++
            (looked ++ notices.map .noted ++ resolution.givenUp)⟩

/-- The name of a session is learnt in one of these ways. -/
theorem exists_nameLearnt (env : Environment σ) (name : Option ServiceName) (handle : Handle)
    (w : World σ) :
    ∃ resolution outside looked registry notices,
      Resolved env handle w.outside resolution outside looked ∧
        NameLearnt handle w.registry name resolution registry notices ∧
        learnName env name handle w =
          ((), w.after ⟨registry, w.window, resolution.giveUp env outside,
            looked ++ notices.map .noted ++ resolution.givenUp⟩) := by
  obtain ⟨resolution, outside, looked, resolved⟩ := exists_resolved env handle w.outside
  rcases name with _ | name
  · refine ⟨resolution, outside, looked, _, _, resolved, .nameless, ?_⟩
    exact withClient_course () ⟨_, _, _, _⟩ resolved (by simp)
  · rcases resolution with error | ⟨object, session⟩
    · refine ⟨.error error, outside, looked, _, _, resolved, .unusable, ?_⟩
      exact withClient_course () ⟨_, _, _, _⟩ resolved (by simp)
    · refine ⟨.ok (object, session), outside, looked, _, _, resolved, .registered, ?_⟩
      exact withClient_course () ⟨_, _, _, _⟩ resolved (by simp)

/-- A connection is made in one of these ways. -/
theorem exists_learnt (env : Environment σ) (handle : Handle) (w : World σ) :
    ∃ outcome c, Learnt env handle w outcome c ∧
      learnConnection env handle w = (outcome, w.after c) := by
  rcases sent : env.send handle w.window w.outside with ⟨reply, before⟩
  have called := send_course (.caller handle) w sent
  cases failed : reply.result.isFailure with
  | true => exact ⟨_, _, .failed sent failed, by simp [learnConnection, called, failed]⟩
  | false =>
    obtain ⟨resolution, after, looked, registry, notices, resolved, learnt, hlearn⟩ :=
      exists_nameLearnt env (requestedName w.window) (connectedHandle reply.window)
        (w.after ⟨w.registry.changed reply.changes, reply.window, before,
          reply.events (.caller handle) w.window w.registry⟩)
    refine ⟨_, _, .connected sent failed resolved learnt, ?_⟩
    simp [learnConnection, called, failed, hlearn]

/-! ### Parameters from the home menu -/

/-- The ways of receiving a parameter from the home menu. -/
inductive Relayed (env : Environment σ) (handle : Handle) (w : World σ) :
    Outcome → Course σ → Prop where
  | failed {reply : Reply} {outside : σ}
      (sent : env.send handle w.window w.outside = (reply, outside))
      (failed : reply.result.isSuccess = false) :
      Relayed env handle w (.answered reply.result)
        ⟨w.registry.changed reply.changes, reply.window, outside,
          reply.events (.caller handle) w.window w.registry⟩
  | ignored {reply : Reply} {outside : σ}
      (sent : env.send handle w.window w.outside = (reply, outside))
      (succeeded : reply.result.isSuccess = true)
      (ignored : wakesPlugin (env.pluginPhase outside) (reply.window.word parameterWord) = false) :
      Relayed env handle w (.answered reply.result)
        ⟨w.registry.changed reply.changes, reply.window, outside,
          reply.events (.caller handle) w.window w.registry ++
            [.pluginAsked (env.pluginPhase outside)]⟩
  | woken {reply : Reply} {outside : σ}
      (sent : env.send handle w.window w.outside = (reply, outside))
      (succeeded : reply.result.isSuccess = true)
      (woken : wakesPlugin (env.pluginPhase outside) (reply.window.word parameterWord) = true) :
      Relayed env handle w (.answered reply.result)
        ⟨w.registry.changed reply.changes, reply.window, env.signalHome outside,
          reply.events (.caller handle) w.window w.registry ++
            [.pluginAsked (env.pluginPhase outside),
              .noted (.pluginWoken (reply.window.word parameterWord)), .homeSignalled]⟩

/-- A parameter is received in one of these ways. -/
theorem exists_relayed (env : Environment σ) (handle : Handle) (w : World σ) :
    ∃ outcome c, Relayed env handle w outcome c ∧
      relayParameter env handle w = (outcome, w.after c) := by
  rcases sent : env.send handle w.window w.outside with ⟨reply, outside⟩
  have called := send_course (.caller handle) w sent
  cases succeeded : reply.result.isSuccess with
  | false =>
    exact ⟨_, _, .failed sent succeeded, by simp [relayParameter, called, succeeded]⟩
  | true =>
    cases wakes : wakesPlugin (env.pluginPhase outside) (reply.window.word parameterWord) with
    | false =>
      refine ⟨_, _, .ignored sent succeeded wakes, ?_⟩
      simp [relayParameter, called, succeeded, wakes]
    | true =>
      refine ⟨_, _, .woken sent succeeded wakes, ?_⟩
      simp [relayParameter, called, succeeded, wakes]

end Interception.Engine
