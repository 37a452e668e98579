/-
Names that were learnt.

A connection that succeeds gives the session behind the handle in its reply the name that was asked
for, if the session has none and a slot is free.  From then on and until the session is erased that
name decides about all requests on the session: it stays in the registry whoever else registers the
session or fills the slots, and a request finds no other.

* `World.keeps_run` — names are kept through a run, unless their sessions are erased in it;
* `Engine.learnt_name_governs` — a name that was learnt governs its session.
-/
import Interception.Proofs.Changes
import Interception.Proofs.Refusal
import Interception.Proofs.Rulings
import Interception.Proofs.Run.Basic

namespace Interception

variable {σ : Type}

namespace World

/-- What others do to the registry in a step. -/
def stepChanges (w : World σ) : Run.Step σ → Journal
  | .call env handle window outside => Engine.changes env handle (w.facing window outside)
  | .register session name => [.insert session name]
  | .forget session | .destroy session => [.erase session]
  | .configure _ _ | .startNetwork | .withFeatures _ | .toggle _ _ => []

/-- What others do to the registry in a run. -/
def changes (w : World σ) : List (Run.Step σ) → Journal
  | [] => []
  | s :: rest => w.stepChanges s ++ (w.step s).changes rest

theorem keeps_step (w : World σ) (s : Run.Step σ) :
    w.registry.Keeps (w.stepChanges s) (w.step s).registry := by
  cases s with
  | call env handle window outside => exact Engine.keeps_call env handle (w.facing window outside)
  | register session name => exact w.registry.keeps_change (.insert session name)
  | forget session => exact w.registry.keeps_change (.erase session)
  | destroy session =>
    rw [step, Engine.sessionDestroyed_apply]
    exact w.registry.keeps_change (.erase session)
  | startNetwork =>
    cases started : w.host.networkStarted <;>
      simpa [step, Engine.startNetwork, Engine.modifyHost, started] using .refl w.registry
  | _ => exact .refl w.registry

theorem keeps_run (w : World σ) (steps : List (Run.Step σ)) :
    w.registry.Keeps (w.changes steps) (w.run steps).registry := by
  induction steps generalizing w with
  | nil => exact .refl w.registry
  | cons s rest ih => exact (w.keeps_step s).trans (ih (w.step s))

end World

namespace Engine

/-- A session that a connection leads to gets the name that was asked for. -/
theorem nameOf?_of_connected {env : Environment σ} {request : Window} {reply : Reply} {outside : σ}
    {registry after : Registry} {name : ServiceName} {session : SessionId}
    (registry_eq : after = (connected? env request reply outside).elim registry
      fun x => (registry.insert x.session x.name).2)
    (requested : requestedName request = some name)
    (behind : sessionBehind env (connectedHandle reply.window) outside = some session)
    (unknown : registry.nameOf? session = none) (room : registry.size < Registry.capacity) :
    after.nameOf? session = some name := by
  have connected : connected? env request reply outside = some ⟨session, name⟩ := by
    simp [connected?, requested, behind]
  have added := (Registry.insert_eq_added_iff registry session name).mpr ⟨unknown, room⟩
  rw [registry_eq, connected, Option.elim_some, Registry.nameOf?_insert, if_pos ⟨rfl, added⟩]

/-- What it means that a name governs a session: it is what the registry knows, and the rule of a
request on the session is the one for that name, with the window, the process and the host of the
request. -/
structure Governs (n : ServiceName) (session : SessionId) (w : World σ) : Prop where
  known : w.registry.nameOf? session = some n
  decides : ∀ (env : Environment σ) (handle : Handle) (window : Window) (outside : σ),
    sessionBehind env handle outside = some session →
      (reached env handle (w.facing window outside)).map Prod.fst =
        Rule.select (some n) window (env.pid (env.lookUp handle outside).2) w.host
  /-- The call tells of that rule and of no other. -/
  tells : ∀ (env : Environment σ) (handle : Handle) (window : Window) (outside : σ),
    sessionBehind env handle outside = some session →
      ∃ t, (call env handle (w.facing window outside)).2.trace = w.trace ++ t ∧
        let pid := env.pid (env.lookUp handle outside).2
        t.rulings = ((Rule.select (some n) window pid w.host).map fun rule =>
          .ruleApplied pid window.header n rule.action).toList

theorem governs_of_known {n : ServiceName} {session : SessionId} {w : World σ}
    (known : w.registry.nameOf? session = some n) : Governs n session w where
  known := known
  decides env handle window outside behind := by
    simp [reached, World.facing, behind, known]
  tells env handle window outside behind := by
    obtain ⟨t, trace_eq, rulings⟩ := exists_rulings env handle (w.facing window outside)
    refine ⟨t, trace_eq, ?_⟩
    rw [rulings]
    simp [ruling?, World.facing, behind, known, Option.map_eq_bind]

/-- A name that was learnt from a connection governs its session until that is erased, whatever the
reply says in its result word and whatever else happens. -/
theorem learnt_name_governs (env : Environment σ) (handle : Handle) (w v : World σ) (rule : Rule)
    (n : ServiceName) (reply : Reply) (outside : σ) (session : SessionId)
    (later : List (Run.Step σ)) (hreached : reached env handle w = some (rule, v))
    (action : rule.action = .learnConnection) (requested : requestedName w.window = some n)
    (sent : env.send handle w.window v.outside = (reply, outside))
    (succeeded : reply.result.isFailure = false)
    (behind : sessionBehind env (connectedHandle reply.window) outside = some session)
    (unknown : (w.registry.changed reply.changes).nameOf? session = none)
    (room : (w.registry.changed reply.changes).size < Registry.capacity)
    (unerased : .erase session ∉ (call env handle w).2.changes later) :
    Governs n session ((call env handle w).2.run later) := by
  -- The session gets its name in the call, and keeps it as long as nobody erases it.
  have named : (call env handle w).2.registry.nameOf? session = some n :=
    nameOf?_of_connected (registry_call_of_learnt hreached action sent succeeded) requested behind
      unknown room
  exact governs_of_known ((call env handle w).2.keeps_run later session n unerased named)

open Simulation Scripted

/-- A caller asks the service manager for a service and gets a session. -/
def connecting : Stage :=
  let reply : ScriptedReply := { ScriptedReply.quiet with
    edits := [(0, 0x00050042), (1, 0), (2, 0), (3, 257)] }
  { borrowing with
    outside := { borrowing.outside with scripts := [⟨.handle ⟨256⟩, [reply]⟩] } }

/-- The caller gets the same session once more when it asks for another service, and the session of
the service manager is destroyed. -/
def afterwards : List (Run.Step Kernel) :=
  [.call environment ⟨256⟩ (Window.ofList [0x00050100, 0x3A676663, 0x00000075, 5, 0])
      connecting.outside, .destroy ⟨4096⟩]

theorem connecting_governed :
    ∃ n, requestedName connecting.window = some n ∧
      Governs n ⟨8192⟩ ((call environment ⟨256⟩ connecting).2.run afterwards) := by
  obtain ⟨⟨rule, v⟩, hreached⟩ := Option.isSome_iff_exists.mp
    (show (reached environment ⟨256⟩ connecting).isSome = true by decide +kernel)
  have taken : (reached environment ⟨256⟩ connecting).map (·.1.action) = some .learnConnection := by
    decide +kernel
  obtain ⟨n, requested⟩ := Option.isSome_iff_exists.mp
    (show (requestedName connecting.window).isSome = true by decide +kernel)
  have answered : (reached environment ⟨256⟩ connecting).map (fun r =>
      let sent := environment.send ⟨256⟩ connecting.window r.2.outside
      let registry := connecting.registry.changed sent.1.changes
      (sent.1.result.isFailure, sessionBehind environment (connectedHandle sent.1.window) sent.2,
        registry.nameOf? ⟨8192⟩, decide (registry.size < Registry.capacity))) =
      some (false, some ⟨8192⟩, none, true) := by decide +kernel
  rcases sent : environment.send ⟨256⟩ connecting.window v.outside with ⟨reply, outside⟩
  simp only [hreached, sent, Option.map_some, Option.some.injEq, Prod.mk.injEq,
    decide_eq_true_eq] at answered
  obtain ⟨succeeded, behind, unknown, room⟩ := answered
  have governs := learnt_name_governs environment ⟨256⟩ connecting v rule n reply outside ⟨8192⟩
    afterwards hreached (by simpa [hreached] using taken) requested sent succeeded behind unknown
    room (by decide +kernel)
  exact ⟨n, requested, governs⟩

end Engine

end Interception
