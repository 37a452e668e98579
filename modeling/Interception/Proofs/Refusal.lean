/-
Connections that a service refuses.

A connection can fail in two ways: the call fails, or the call succeeds and its reply carries a
failure in the result word.  Only the first is looked for.  After a refusal of the second kind the
handle word may be one that the service never wrote, and then it holds what the caller left there.
The session behind that handle is registered under the name that was asked for, unless it has a
name already or no slot is free.

* `Engine.registry_call_of_learnt` — what a connection does to the registry;
* `Engine.refused_connection` — what a refused connection does to it;
* `Engine.borrowedHandle_named` — a session named by a caller that was refused.
-/
import Interception.Proofs.Course.Call
import Interception.Proofs.Registry.Records
import Interception.Simulation.Scenario

namespace Interception

variable {σ : Type}

/-- The result that a service puts into the first payload word of its reply. -/
def Reply.status (reply : Reply) : ResultCode :=
  ⟨(reply.window.word 1).toInt32⟩

/-- Whether the call succeeded and the service refused what was asked of it. -/
def Reply.isRefusal (reply : Reply) : Bool :=
  reply.result.isSuccess && reply.status.isFailure

theorem Reply.succeeded_of_isRefusal {reply : Reply} (refused : reply.isRefusal = true) :
    reply.result.isFailure = false := by
  rw [isRefusal, Bool.and_eq_true] at refused
  rw [ResultCode.isFailure_eq_not_isSuccess, refused.1, Bool.not_true]

namespace Engine

/-- The session behind the handle in the reply to a connection, and the name that was asked for. -/
def connected? (env : Environment σ) (request : Window) (reply : Reply) (s : σ) :
    Option NamedSession := do
  let name ← requestedName request
  let session ← sessionBehind env (connectedHandle reply.window) s
  return ⟨session, name⟩

/-- Whatever the reply says in its result word, the session behind its handle is registered. -/
theorem Learnt.registry_eq {env : Environment σ} {handle : Handle} {w : World σ}
    {outcome : Outcome} {c : Course σ} (learnt : Learnt env handle w outcome c) {reply : Reply}
    {outside : σ} (sent : env.send handle w.window w.outside = (reply, outside))
    (succeeded : reply.result.isFailure = false) :
    c.registry = (connected? env w.window reply outside).elim (w.registry.changed reply.changes)
      fun x => ((w.registry.changed reply.changes).insert x.session x.name).2 := by
  cases learnt with
  | failed sent' failed =>
    cases sent.symm.trans sent'
    rw [succeeded] at failed
    cases failed
  | connected sent' connected resolved learnt =>
    cases sent.symm.trans sent'
    rw [connected?, resolved.sessionBehind_eq]
    generalize requestedName w.window = requested at learnt
    cases learnt with
    | nameless => rfl
    | unusable => rfl
    | registered => rfl

/-- The registry after a connection that did not fail. -/
theorem registry_call_of_learnt {env : Environment σ} {handle : Handle} {w v : World σ}
    {rule : Rule} {reply : Reply} {outside : σ} (hreached : reached env handle w = some (rule, v))
    (action : rule.action = .learnConnection)
    (sent : env.send handle w.window v.outside = (reply, outside))
    (succeeded : reply.result.isFailure = false) :
    (call env handle w).2.registry =
      (connected? env w.window reply outside).elim (w.registry.changed reply.changes)
        fun x => ((w.registry.changed reply.changes).insert x.session x.name).2 := by
  obtain ⟨_, _, rfl, outcome, c, object, acted, -, hexamine⟩ := exists_acted_of_reached hreached
  rw [action] at acted
  cases acted with
  | learnt learnt =>
    have answered : (call env handle w).2.registry = c.registry := by
      cases learnt with
      | failed sent failed => simp [call, hexamine]
      | connected sent connected resolved learnt => simp [call, hexamine]
    rw [answered]
    exact learnt.registry_eq sent succeeded

/-- What a refused connection does to the registry. -/
structure Refuses (env : Environment σ) (request : Window) (reply : Reply) (outside : σ)
    (before after : Registry) : Prop where
  registry_eq : after = (connected? env request reply outside).elim before
    fun x => (before.insert x.session x.name).2
  /-- Nothing is registered only if the handle in the reply leads to no session, no name was asked
  for, the session has a name already, or no slot is free. -/
  unchanged_iff : after = before ↔ ∀ x, connected? env request reply outside = some x →
    before.nameOf? x.session ≠ none ∨ before.size = Registry.capacity

theorem refuses_of_registry_eq {env : Environment σ} {request : Window} {reply : Reply}
    {outside : σ} {before after : Registry}
    (h : after = (connected? env request reply outside).elim before
      fun x => (before.insert x.session x.name).2) :
    Refuses env request reply outside before after := by
  refine ⟨h, ?_⟩
  rw [h]
  cases connected? env request reply outside with
  | none => simp
  | some x =>
    rw [Option.elim_some, Registry.insert_eq_self_iff, Registry.insert_ne_added_iff]
    constructor
    · intro kept y hy
      cases hy
      exact kept
    · exact fun kept => kept x rfl

/-- A connection that the service refuses in its reply leaves the registry alone, but for what
others did to it meanwhile, exactly if there is nothing to register; otherwise the session behind
the handle in the reply gets the name that was asked for. -/
theorem refused_connection (env : Environment σ) (handle : Handle) (w v : World σ) (rule : Rule)
    (reply : Reply) (outside : σ) (hreached : reached env handle w = some (rule, v))
    (action : rule.action = .learnConnection)
    (sent : env.send handle w.window v.outside = (reply, outside))
    (refused : reply.isRefusal = true) :
    Refuses env w.window reply outside (w.registry.changed reply.changes)
      (call env handle w).2.registry :=
  refuses_of_registry_eq
    (registry_call_of_learnt hreached action sent (Reply.succeeded_of_isRefusal refused))

open Simulation Scripted

/-- A caller with two handles, the first of them on the service manager.  It asks for a service and
leaves its own second handle in the request, and the service manager refuses with a result word and
nothing else. -/
def borrowing : Stage :=
  let manager : ServiceName := ⟨[0x73, 0x72, 0x76, 0x3A], by simp, by simp, by simp⟩
  let kernel : Kernel := {
    pid := 48
    objects := [.clientSession ⟨4096⟩, .clientSession ⟨8192⟩]
    counts := [1, 1]
    handles := [(⟨256⟩, 0), (⟨257⟩, 1)]
    opened := []
    nextOpened := 32768
    refusal := none
    scripts := [⟨.handle ⟨256⟩,
      [{ ScriptedReply.quiet with edits := [(0, 0x00050040), (1, 0xD8806404)] }]⟩]
    memory := .empty
    side := ⟨none, .none⟩ }
  { stage kernel Host.boot [⟨⟨4096⟩, manager⟩] with
    window := Window.ofList [0x00050100, 0x553A7366, 0x00524553, 257, 0] }

/-- The service manager refuses it, and the handle word leads to the session behind the handle that
the caller left there. -/
theorem exists_borrowed :
    ∃ (rule : Rule) (v : Stage) (reply : Reply) (outside : Kernel),
      reached environment ⟨256⟩ borrowing = some (rule, v) ∧ rule.action = .learnConnection ∧
      environment.send ⟨256⟩ borrowing.window v.outside = (reply, outside) ∧
      reply.isRefusal = true ∧ reply.changes = [] ∧
      connected? environment borrowing.window reply outside =
        (requestedName borrowing.window).map (⟨⟨8192⟩, ·⟩) := by
  obtain ⟨⟨rule, v⟩, hreached⟩ := Option.isSome_iff_exists.mp
    (show (reached environment ⟨256⟩ borrowing).isSome = true by decide +kernel)
  have taken : (reached environment ⟨256⟩ borrowing).map (·.1.action) = some .learnConnection := by
    decide +kernel
  have answered : (reached environment ⟨256⟩ borrowing).map (fun r =>
      let sent := environment.send ⟨256⟩ borrowing.window r.2.outside
      (sent.1.isRefusal, sent.1.changes.isEmpty,
        connected? environment borrowing.window sent.1 sent.2)) =
      some (true, true, (requestedName borrowing.window).map (⟨⟨8192⟩, ·⟩)) := by decide +kernel
  rcases sent : environment.send ⟨256⟩ borrowing.window v.outside with ⟨reply, outside⟩
  exact ⟨rule, v, reply, outside, hreached, by simpa [hreached] using taken, sent,
    by simpa [hreached, sent] using answered⟩

/-- The refused caller gets a session of its own named. -/
theorem borrowedHandle_named :
    (requestedName borrowing.window).isSome = true ∧
      (call environment ⟨256⟩ borrowing).2.registry.nameOf? ⟨8192⟩ =
        requestedName borrowing.window := by
  obtain ⟨rule, v, reply, outside, reached, action, sent, refused, unchanging, connected⟩ :=
    exists_borrowed
  have refuses := refused_connection environment ⟨256⟩ borrowing v rule reply outside reached
    action sent refused
  refine ⟨by decide +kernel, ?_⟩
  rw [refuses.registry_eq, connected, unchanging]
  decide +kernel

/-- So a service that refuses a connection may still get a session named. -/
theorem not_registry_eq_of_isRefusal :
    ¬ ∀ (env : Environment Kernel) (handle : Handle) (w v : Stage) (rule : Rule) (reply : Reply)
      (outside : Kernel), reached env handle w = some (rule, v) →
        rule.action = .learnConnection → env.send handle w.window v.outside = (reply, outside) →
          reply.isRefusal = true →
            (call env handle w).2.registry = w.registry.changed reply.changes := by
  intro unchanged
  obtain ⟨rule, v, reply, outside, reached, action, sent, refused, unchanging, -⟩ :=
    exists_borrowed
  have kept := unchanged environment ⟨256⟩ borrowing v rule reply outside reached action sent
    refused
  rw [unchanging] at kept
  have named : (call environment ⟨256⟩ borrowing).2.registry.size = 2 := by decide +kernel
  rw [kept] at named
  revert named
  decide +kernel

end Engine

end Interception
