/-
The network milestone.

Once network functions have started, applications may not pause the network any more: four commands
of the network manager are answered with success and never sent.  Whether that is so for a request
can be read off the history of the host: that network functions have started at all, how many boot
modules were counted last, and whether the family was last switched on or off.

* `Run.reflects_run` — the host is what its history tells;
* `Rule.select_succeed_iff` — when the rule of a request is to answer with success;
* `World.networkStarted_run` — the milestone is never taken back;
* `Engine.network_steadied` — which requests are answered, after every history.
-/
import Interception.Proofs.Features
import Interception.Proofs.Rulings
import Interception.Proofs.Run.Basic

namespace Interception

variable {σ : Type}

/-! ### What a history says about the host -/

namespace Run

/-- The number of boot modules that a step counts. -/
def Step.modules? : Step σ → Option UInt32
  | configure bootModules _ => some bootModules
  | _ => none

/-- Whether a step switches a family on or off; none if it leaves the family alone. -/
def Step.switch? (f : Feature) : Step σ → Option Bool
  | withFeatures features => some (features.contains (.single f))
  | toggle features on => if features.contains (.single f) then some on else none
  | _ => none

/-! #### What one step does -/

theorem Step.networkStarted_onHost (s : Step σ) (h : Host) :
    (s.onHost h).networkStarted = true ↔ h.networkStarted = true ∨ s = .startNetwork := by
  cases s <;> simp [onHost, Host.configure, Host.startNetwork, Host.withFeatures, Host.toggle]

theorem Step.bootModules_onHost (s : Step σ) (h : Host) :
    (s.onHost h).bootModules = s.modules?.getD h.bootModules := by
  cases s <;> rfl

theorem Step.allows_onHost (s : Step σ) (h : Host) (f : Feature) :
    (s.onHost h).allows (.single f) = (s.switch? f).getD (h.allows (.single f)) := by
  cases s with
  | withFeatures features => exact h.allows_withFeatures features f
  | toggle features on =>
    rw [onHost, Host.allows_toggle, switch?]
    cases features.contains (.single f) <;> rfl
  | _ => rfl

/-! #### What a history does -/

/-- The last that the steps of a history tell, if any of them tells something. -/
def last {β : Type} (tells : Step σ → Option β) (history : List (Step σ)) : Option β :=
  (history.filterMap tells).getLast?

theorem last_concat {β : Type} (tells : Step σ → Option β) (history : List (Step σ))
    (s : Step σ) : last tells (history ++ [s]) = (tells s).or (last tells history) := by
  cases h : tells s <;> simp [last, h]

/-- The host is what its history tells. -/
structure Reflects (history : List (Step σ)) (host : Host) : Prop where
  started : host.networkStarted = true ↔ .startNetwork ∈ history
  modules : host.bootModules = (last Step.modules? history).getD 0
  families : ∀ f, host.allows (.single f) = (last (Step.switch? f) history).getD true

theorem reflects_boot : Reflects ([] : List (Step σ)) Host.boot where
  started := by simp [Host.boot]
  modules := rfl
  families f := by cases f <;> rfl

theorem Reflects.step {history : List (Step σ)} {host : Host} (reflects : Reflects history host)
    (s : Step σ) : Reflects (history ++ [s]) (s.onHost host) where
  started := by
    rw [s.networkStarted_onHost, reflects.started, List.mem_append, List.mem_singleton, eq_comm]
  modules := by rw [s.bootModules_onHost, reflects.modules, last_concat, Option.getD_or]
  families f := by rw [s.allows_onHost, reflects.families, last_concat, Option.getD_or]

theorem reflects_run (w : World σ) (history : List (Step σ)) :
    Reflects history ({ w with host := .boot }.run history).host := by
  induction history using List.reverseRecOn with
  | nil => exact reflects_boot
  | append_singleton history s ih =>
    rw [World.run_concat, World.host_step]
    exact ih.step s

end Run

/-! ### The milestone stays -/

theorem World.networkStarted_run (w : World σ) (steps : List (Run.Step σ))
    (started : w.host.networkStarted = true) : (w.run steps).host.networkStarted = true := by
  induction steps using List.reverseRecOn with
  | nil => exact started
  | append_singleton steps s ih =>
    rw [run_concat, host_step, s.networkStarted_onHost]
    exact .inl ih

/-! ### The rules that answer with success -/

/-- The commands that pause the network and let it go on. -/
def Command.pausing : List Header :=
  [⟨0x00010042⟩, ⟨0x00020002⟩, ⟨0x00080040⟩, ⟨0x00090000⟩]

namespace Rule

/-- What the rows have in common that answer with success. -/
theorem of_action_eq_succeed {r : Rule} (row : r ∈ table) (action : r.action = .succeed) :
    r.header ∈ Command.pausing ∧ r.services = [.exactly "ndm:u"] ∧
      r.guard = .networkedApplication := by
  have rows : ∀ r ∈ table, r.action = .succeed → r.header ∈ Command.pausing ∧
      r.services = [.exactly "ndm:u"] ∧ r.guard = .networkedApplication := by decide
  exact rows r row action

theorem exists_of_mem_pausing {h : Header} (pausing : h ∈ Command.pausing) :
    ∃ r ∈ table, r.header = h ∧ r.action = .succeed := by
  have rows : ∀ h ∈ Command.pausing, ∃ r ∈ table, r.header = h ∧ r.action = .succeed := by decide
  exact rows h pausing

/-- When a row that answers with success applies. -/
theorem applies_succeed_iff {r : Rule} (row : r ∈ table) (action : r.action = .succeed)
    (n : ServiceName) (w : Window) (pid : UInt32) (host : Host) :
    r.applies n w pid host = true ↔
      r.header = w.header ∧ n.bytes = Text.utf8 "ndm:u" ∧ host.networkStarted = true ∧
        host.bootModules ≤ pid ∧ host.allows (.single .steadyNetwork) = true := by
  obtain ⟨-, services, guard⟩ := of_action_eq_succeed row action
  simp [applies, covers, services, Pattern.fits, ServiceName.equals, guard, Guard.holds,
    Host.isApplication, isOn, action, Action.feature, and_assoc]

theorem select_succeed_iff (n : ServiceName) (w : Window) (pid : UInt32) (host : Host) :
    (∃ r, select (some n) w pid host = some r ∧ r.action = .succeed) ↔
      n.bytes = Text.utf8 "ndm:u" ∧ w.header ∈ Command.pausing ∧ host.networkStarted = true ∧
        host.bootModules ≤ pid ∧ host.allows (.single .steadyNetwork) = true := by
  rw [select_action_iff]
  constructor
  · rintro ⟨r, row, applies, action⟩
    obtain ⟨header, named, started, application, on⟩ :=
      (applies_succeed_iff row action n w pid host).mp applies
    obtain ⟨pausing, -, -⟩ := of_action_eq_succeed row action
    exact ⟨named, header ▸ pausing, started, application, on⟩
  · rintro ⟨named, pausing, started, application, on⟩
    obtain ⟨r, row, header, action⟩ := exists_of_mem_pausing pausing
    exact ⟨r, row, (applies_succeed_iff row action n w pid host).mpr
      ⟨header, named, started, application, on⟩, action⟩

end Rule

/-! ### Requests that are answered with success -/

namespace Window

theorem header_succeed (w : Window) : w.succeed.header = .make w.header.commandId 1 0 := by
  rw [succeed, header, word_set, if_neg (by decide)]
  exact w.header_setHeader _

theorem word_succeed_one (w : Window) : w.succeed.word 1 = 0 := by
  rw [succeed, word_set, if_pos (by decide)]

theorem word_succeed (w : Window) {i : Nat} (h : 2 ≤ i) : w.succeed.word i = w.word i := by
  rw [succeed, word_set, if_neg (by omega), setHeader, word_set, if_neg (by omega)]

end Window

namespace Engine

theorem reached_action_iff {env : Environment σ} {handle : Handle} {w : World σ}
    {action : Action} :
    (∃ rule v, reached env handle w = some (rule, v) ∧ rule.action = action) ↔
      ∃ session name, sessionBehind env handle w.outside = some session ∧
        w.registry.nameOf? session = some name ∧
        ∃ rule, Rule.select (some name) w.window (env.pid (env.lookUp handle w.outside).2) w.host =
          some rule ∧ rule.action = action := by
  constructor
  · rintro ⟨rule, v, reached, action⟩
    obtain ⟨session, behind, reached⟩ := Option.bind_eq_some_iff.mp reached
    obtain ⟨name, known, reached⟩ := Option.bind_eq_some_iff.mp reached
    obtain ⟨rule', chosen, reached⟩ := Option.bind_eq_some_iff.mp reached
    cases reached
    exact ⟨session, name, behind, known, rule, chosen, action⟩
  · rintro ⟨session, name, behind, known, rule, chosen, action⟩
    refine ⟨rule, entered env w (env.lookUp handle w.outside).2
      [.lookedUp handle (env.lookUp handle w.outside).1] name rule, ?_, action⟩
    simp [reached, behind, known, chosen]

/-- What the caller gets of a request that is answered with success, without a call. -/
structure Succeeds (w : World σ) (a : ResultCode × World σ) : Prop where
  result : a.1 = .success
  header : a.2.window.header = .make w.window.header.commandId 1 0
  status : a.2.window.word 1 = 0
  word_eq : ∀ i, 2 ≤ i → a.2.window.word i = w.window.word i
  unsent : ∃ t, a.2.trace = w.trace ++ t ∧ t.sendings = []

theorem succeeds_of_reached {env : Environment σ} {handle : Handle} {w v : World σ} {rule : Rule}
    (hreached : reached env handle w = some (rule, v)) (action : rule.action = .succeed) :
    Succeeds w (call env handle w) := by
  obtain ⟨outcome, c, examined, hexamine⟩ := exists_examined env handle w
  cases examined with
  | unresolved resolved =>
    rw [resolved.reached_error] at hreached
    cases hreached
  | unruled resolved unruled =>
    rw [resolved.reached_unruled unruled] at hreached
    cases hreached
  | ruled resolved known chosen acted =>
    rw [resolved.reached_ruled known chosen] at hreached
    cases hreached
    rw [action] at acted
    cases acted with
    | succeeded =>
      have called : call env handle w = (.success, (examine env handle w).2) := by
        simp [call, hexamine]
      rw [called, hexamine]
      refine ⟨rfl, w.window.header_succeed, w.window.word_succeed_one, ?_, _, rfl, ?_⟩
      · exact fun i => w.window.word_succeed
      · simp [resolved.filterMap_looked]

/-- What a history tells about a request that is made after it, given the events of its call. -/
structure SteadiesNetwork (history : List (Run.Step σ)) (env : Environment σ) (handle : Handle)
    (w : World σ) (t : Trace) : Prop where
  trace_eq : (call env handle w).2.trace = w.trace ++ t
  /-- Which requests have a rule that answers with success. -/
  applies_iff : t.Applies .succeed ↔
    ∃ session name, sessionBehind env handle w.outside = some session ∧
      w.registry.nameOf? session = some name ∧ name.bytes = Text.utf8 "ndm:u" ∧
      w.window.header ∈ Command.pausing ∧ .startNetwork ∈ history ∧
      (Run.last Run.Step.modules? history).getD 0 ≤ env.pid (env.lookUp handle w.outside).2 ∧
      (Run.last (Run.Step.switch? .steadyNetwork) history).getD true = true
  succeeds : t.Applies .succeed → Succeeds w (call env handle w)
  /-- The milestone is never taken back. -/
  stays : .startNetwork ∈ history → ∀ later, (w.run later).host.networkStarted = true

/-- After every history that starts at boot, exactly the requests of applications to pause a network
that has started are answered with success, as long as the family is on. -/
theorem network_steadied (w : World σ) (history : List (Run.Step σ)) (env : Environment σ)
    (handle : Handle) (window : Window) (outside : σ) :
    ∃ t, SteadiesNetwork history env handle
      (({ w with host := .boot }.run history).facing window outside) t := by
  have reflects := Run.reflects_run w history
  obtain ⟨t, trace_eq, applies⟩ := exists_applies_iff env handle
    (({ w with host := .boot }.run history).facing window outside)
  refine ⟨t, trace_eq, ?_, fun applied => ?_, fun started later => ?_⟩
  · rw [applies, reached_action_iff]
    simp only [Rule.select_succeed_iff]
    -- What is left are the three conditions on the host, which its history tells.
    rw [← reflects.started, ← reflects.modules, ← reflects.families]
    rfl
  · obtain ⟨rule, v, hreached, action⟩ := (applies .succeed).mp applied
    exact succeeds_of_reached hreached action
  · exact World.networkStarted_run _ later (reflects.started.mpr started)

open Simulation Scripted

/-- A process with a session of the network manager is about to leave the exclusive state. -/
def leaving : Stage :=
  let manager : ServiceName := ⟨[0x6E, 0x64, 0x6D, 0x3A, 0x75], by simp, by simp, by simp⟩
  { supervised .quiet [0x00020002, 7, 8, 9] with
    registry := (Registry.empty.insert ⟨4096⟩ manager).2 }

/-- The network has started and the family was off for a while; the process is an application. -/
def networked : List (Run.Step Kernel) :=
  [.startNetwork, .toggle (.single .steadyNetwork) false, .configure 48 ⟨0⟩, .withFeatures .all]

theorem leaving_succeeds :
    let w := ({ leaving with host := .boot }.run networked).facing leaving.window leaving.outside
    Succeeds w (call environment ⟨256⟩ w) := by
  intro w
  obtain ⟨t, steadies⟩ := network_steadied leaving networked environment ⟨256⟩ leaving.window
    leaving.outside
  have applied := steadies.applies_iff.mpr
    ⟨⟨4096⟩, _, rfl, rfl, by decide +kernel, by decide, by simp [networked], by decide, by decide⟩
  exact steadies.succeeds applied

end Engine

end Interception
