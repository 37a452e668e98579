/-
Runs.

Requests are not all that happens: sessions are registered and destroyed, the host is configured,
and families of rules are switched on and off.  A run is a list of such steps in any order.  A
request is a step too, with an environment of its own, so that it may come from any process and be
answered in any way.

* `World.host_step` — what a step does to the host; a request does nothing to it.
-/
import Interception.Proofs.Course.Call
import Interception.Proofs.Registry.Map

namespace Interception

variable {σ : Type}

namespace Run

/-- A step of a run. -/
inductive Step (σ : Type) where
  /-- A request in some window, with the state that its environment is in then. -/
  | call (env : Environment σ) (handle : Handle) (window : Window) (outside : σ)
  | register (session : SessionId) (name : ServiceName)
  | forget (session : SessionId)
  | destroy (session : SessionId)
  | configure (bootModules : UInt32) (version : Version)
  | startNetwork
  | withFeatures (features : FeatureSet)
  | toggle (features : FeatureSet) (on : Bool)

/-- What a step does to the host. -/
def Step.onHost : Step σ → Host → Host
  | configure bootModules version, h => h.configure bootModules version
  | startNetwork, h => h.startNetwork
  | withFeatures features, h => h.withFeatures features
  | toggle features on, h => h.toggle features on
  | call _ _ _ _, h | register _ _, h | forget _, h | destroy _, h => h

end Run

namespace World

/-- The world in which a request is made. -/
def facing (w : World σ) (window : Window) (outside : σ) : World σ :=
  { w with window, outside }

/-- The world after a step. -/
def step (w : World σ) : Run.Step σ → World σ
  | .call env handle window outside => (Engine.call env handle (w.facing window outside)).2
  | .register session name => (Engine.register session name w).2
  | .forget session => (Engine.forget session w).2
  | .destroy session => (Engine.sessionDestroyed session w).2
  | .configure bootModules version => (Engine.configure bootModules version w).2
  | .startNetwork => (Engine.startNetwork w).2
  | .withFeatures features => (Engine.modifyHost (·.withFeatures features) w).2
  | .toggle features on => (Engine.modifyHost (·.toggle features on) w).2

/-- The world after a run. -/
def run (w : World σ) (steps : List (Run.Step σ)) : World σ :=
  steps.foldl step w

theorem run_concat (w : World σ) (steps : List (Run.Step σ)) (s : Run.Step σ) :
    w.run (steps ++ [s]) = (w.run steps).step s :=
  List.foldl_concat ..

theorem host_step (w : World σ) (s : Run.Step σ) : (w.step s).host = s.onHost w.host := by
  cases s with
  | call env handle window outside =>
    obtain ⟨result, c, -, hcall⟩ := Engine.exists_called env handle (w.facing window outside)
    rw [step, hcall]
    rfl
  | destroy session => simp [step, Engine.sessionDestroyed_apply, Run.Step.onHost]
  | startNetwork =>
    cases started : w.host.networkStarted <;>
      simp [step, Engine.startNetwork, Engine.modifyHost, started, Run.Step.onHost]
  | _ => rfl

end World

end Interception
