/-
The calls that reach the side features.

Three actions are for the side features alone: the application is woken, language emulation is
asked, or a fatal error is shown to its handler.  A fourth one, which receives a parameter from the
home menu, makes the real call first.  Only when that succeeds is the plugin asked what it is doing,
and only if it waits for what was received is the event of the home menu signalled.  What the plugin
is doing and what was received are both taken after the call, which may have changed either.

No other computation reaches a side feature, so that the calls that reach them can be told from the
rule for the request (`Engine.drivenBy`).

* `Engine.Acted.sideCalls_events` — the calls of an action;
* `Engine.Examined.sideCalls_events` — the calls of looking at a request are those of its rule;
* `Engine.Relayed.relays` — what is done when a parameter is received;
* `Engine.call_drives` — the account of a call.
-/
import Interception.Proofs.Sendings
import Interception.Simulation.Scenario

namespace Interception

variable {σ : Type}

/-- A call that reaches a side feature, with what is told to it or what it answers. -/
inductive SideCall where
  | askLanguage (request : Window)
  | showThrow (request : Window)
  /-- The plugin is asked what it is doing. -/
  | askPlugin (phase : PluginPhase)
  | signalHome
  | wakeApplication
deriving DecidableEq

/-- The action that a call is made for. -/
def SideCall.action : SideCall → Action
  | askLanguage _ => .askLanguage
  | showThrow _ => .showThrow
  | askPlugin _ | signalHome => .relayParameter
  | wakeApplication => .wakeApplication

/-- The call of a side feature that an event tells about. -/
abbrev Event.sideCall : Event → Option SideCall
  | .languageAsked request _ => some (.askLanguage request)
  | .throwShown request _ => some (.showThrow request)
  | .pluginAsked phase => some (.askPlugin phase)
  | .homeSignalled => some .signalHome
  | .applicationWoken => some .wakeApplication
  | _ => none

/-- The calls of side features in a trace, in their order. -/
abbrev Trace.sideCalls (t : Trace) : List SideCall :=
  t.filterMap Event.sideCall

/-- A code succeeds exactly when it is not negative. -/
theorem ResultCode.isSuccess_iff (r : ResultCode) : r.isSuccess = true ↔ 0 ≤ r.raw :=
  decide_eq_true_iff

namespace Engine

variable {env : Environment σ} {handle : Handle} {w : World σ}

/-! ### What an action asks of the side features -/

/-- Whether the plugin waits for what a reply delivers: a running plugin waits for the answer to its
own request, and in the home menu it waits for anything. -/
theorem wakesPlugin_iff (phase : PluginPhase) (parameter : UInt32) :
    wakesPlugin phase parameter = true ↔
      phase = .inHome ∨ phase = .running ∧ parameter = 3 := by
  cases phase <;> simp [wakesPlugin, responseParameter]

/-- The calls of side features after the reply to a request for a parameter, given what the plugin
is doing then. -/
def relayCalls (reply : Reply) (phase : PluginPhase) : List SideCall :=
  if 0 ≤ reply.result.raw then
    .askPlugin phase ::
      if phase = .inHome ∨ phase = .running ∧ reply.window.word 3 = 3 then [.signalHome] else []
  else []

/-- The calls of side features that an action makes. -/
def drivenBy (env : Environment σ) (handle : Handle) (w : World σ) : Action → List SideCall
  | .wakeApplication => [.wakeApplication]
  | .askLanguage => [.askLanguage w.window]
  | .showThrow => [.showThrow w.window]
  | .relayParameter =>
    let (reply, outside) := env.send handle w.window w.outside
    relayCalls reply (env.pluginPhase outside)
  | .succeed | .learnConnection | .openLogo | .consult _ => []

theorem action_of_mem_relayCalls {reply : Reply} {phase : PluginPhase} {call : SideCall}
    (made : call ∈ relayCalls reply phase) : call.action = .relayParameter := by
  rw [relayCalls] at made
  split at made
  · rcases List.mem_cons.mp made with rfl | signalled
    · rfl
    · split at signalled
      · rw [List.mem_singleton.mp signalled]
        rfl
      · cases signalled
  · cases made

/-- Every call of a side feature is made for the action that it belongs to. -/
theorem action_of_mem_drivenBy {action : Action} {call : SideCall}
    (made : call ∈ drivenBy env handle w action) : call.action = action := by
  cases action with
  | relayParameter => exact action_of_mem_relayCalls made
  | wakeApplication | askLanguage | showThrow =>
    rw [List.mem_singleton.mp made]
    rfl
  | _ => cases made

theorem count_signalHome_relayCalls (reply : Reply) (phase : PluginPhase) :
    (relayCalls reply phase).count .signalHome =
      if 0 ≤ reply.result.raw ∧
        (phase = .inHome ∨ phase = .running ∧ reply.window.word 3 = 3) then 1 else 0 := by
  by_cases succeeded : 0 ≤ reply.result.raw
  · by_cases waits : phase = .inHome ∨ phase = .running ∧ reply.window.word 3 = 3
    · rw [relayCalls, if_pos succeeded, if_pos waits, if_pos ⟨succeeded, waits⟩]
      rfl
    · rw [relayCalls, if_pos succeeded, if_neg waits, if_neg fun h => waits h.2]
      rfl
  · rw [relayCalls, if_neg succeeded, if_neg fun h => succeeded h.1]
    rfl

/-! ### The side features that each action reaches -/

theorem Learnt.sideCalls_events {outcome : Outcome} {c : Course σ}
    (learnt : Learnt env handle w outcome c) : c.events.sideCalls = [] := by
  cases learnt with
  | failed sent failed => simp
  | connected sent connected resolved learnt =>
    simp [resolved.filterMap_looked, -Resolution.givenUp]

theorem LogoOpened.sideCalls_events {outcome : Outcome} {c : Course σ}
    (opened : LogoOpened env handle w outcome c) : c.events.sideCalls = [] := by
  cases opened with
  | unreadable read => simp [read.filterMap_reads]
  | otherFile read other => exact read.filterMap_reads fun _ _ _ => rfl
  | readOnly read logo wrote => simp [read.filterMap_reads]
  | served read logo wrote sent served => simp [read.filterMap_reads]
  | fellBack read logo wrote sent unserved restored => simp [read.filterMap_reads]

theorem Consulted.sideCalls_events {operation : Watched} {verdict : Consultation} {c : Course σ}
    (consulted : Consulted env operation w verdict c) : c.events.sideCalls = [] := by
  cases consulted with
  | absent unknown => rfl
  | refused known encoded => simp [encoded.filterMap_reads]
  | unreachable known encoded opened => simp [encoded.filterMap_reads]
  | declined known encoded opened sent unhandled => simp [encoded.filterMap_reads]
  | handled known encoded opened sent handled => simp [encoded.filterMap_reads]

/-- What is done when a parameter is received, given the reply to the real call, what the plugin is
doing after it, and what becomes of the request: the result, the window and the events. -/
structure Relays (handle : Handle) (request : Window) (reply : Reply) (phase : PluginPhase)
    (outcome : Outcome) (left : Window) (t : Trace) : Prop where
  /-- The caller always gets the result of the real call, and its reply. -/
  outcome_eq : outcome = .answered reply.result
  window_eq : left = reply.window
  /-- The request is sent once and as it is. -/
  sendings : t.sendings = [⟨.caller handle, request, reply.result⟩]
  /-- No side feature is reached before that call, and after it what the reply asks for. -/
  order : ∃ before after : Trace,
    t = before ++ .sent (.caller handle) request reply.window reply.result :: after ∧
      before.sideCalls = [] ∧ after.sideCalls = relayCalls reply phase

theorem Relayed.relays {outcome : Outcome} {c : Course σ}
    (relayed : Relayed env handle w outcome c) :
    ∃ reply outside, env.send handle w.window w.outside = (reply, outside) ∧
      Relays handle w.window reply (env.pluginPhase outside) outcome c.window c.events := by
  cases relayed with
  | @failed reply outside sent failed =>
    have unsuccessful : ¬ 0 ≤ reply.result.raw := by
      rw [← ResultCode.isSuccess_iff, failed]
      exact Bool.false_ne_true
    refine ⟨reply, outside, sent, rfl, rfl, by simp, [], _, rfl, rfl, ?_⟩
    rw [relayCalls, if_neg unsuccessful]
    exact Trace.filterMap_noted (fun _ => rfl) _
  | @ignored reply outside sent succeeded ignored =>
    have unwanted : ¬ (env.pluginPhase outside = .inHome ∨
        env.pluginPhase outside = .running ∧ reply.window.word 3 = 3) := by
      rw [← wakesPlugin_iff]
      exact fun woken => absurd (woken.symm.trans ignored) (by decide)
    refine ⟨reply, outside, sent, rfl, rfl, by simp, [], _, rfl, rfl, ?_⟩
    rw [relayCalls, if_pos ((ResultCode.isSuccess_iff _).mp succeeded), if_neg unwanted]
    simp
  | @woken reply outside sent succeeded woken =>
    have wanted : env.pluginPhase outside = .inHome ∨
        env.pluginPhase outside = .running ∧ reply.window.word 3 = 3 :=
      (wakesPlugin_iff ..).mp woken
    refine ⟨reply, outside, sent, rfl, rfl, by simp, [], _, rfl, rfl, ?_⟩
    rw [relayCalls, if_pos ((ResultCode.isSuccess_iff _).mp succeeded), if_pos wanted]
    simp

theorem Relays.sideCalls_eq {request left : Window} {reply : Reply} {phase : PluginPhase}
    {outcome : Outcome} {t : Trace} (relays : Relays handle request reply phase outcome left t) :
    t.sideCalls = relayCalls reply phase := by
  obtain ⟨before, after, rfl, unreached, reached⟩ := relays.order
  simp [unreached, reached]

/-- The calls of side features that an action makes are those that are told of it. -/
theorem Acted.sideCalls_events {action : Action} {outcome : Outcome} {c : Course σ}
    (acted : Acted env handle w action outcome c) :
    c.events.sideCalls = drivenBy env handle w action := by
  cases acted with
  | succeeded => rfl
  | applicationWoken => rfl
  | languageAnswered asked => rfl
  | languageDeclined asked => rfl
  | throwConsumed shown => rfl
  | throwIgnored shown => rfl
  | learnt learnt => exact learnt.sideCalls_events
  | relayed relayed =>
    obtain ⟨reply, outside, sent, relays⟩ := relayed.relays
    rw [relays.sideCalls_eq, drivenBy, sent]
  | logoOpened opened took => exact opened.sideCalls_events
  | consulted consulted took => exact consulted.sideCalls_events

/-! ### The side features that a call reaches -/

/-- The calls of side features for a request: those of the action of its rule. -/
def driven (env : Environment σ) (handle : Handle) (w : World σ) : List SideCall :=
  (reached env handle w).elim [] fun found => drivenBy env handle found.2 found.1.action

theorem Examined.sideCalls_events {outcome : Outcome} {c : Course σ}
    (examined : Examined env handle w outcome c) :
    c.events.sideCalls = driven env handle w := by
  cases examined with
  | unresolved resolved =>
    simp [driven, resolved.reached_error, resolved.filterMap_looked]
  | unruled resolved unruled =>
    simp [driven, resolved.reached_unruled unruled, resolved.filterMap_looked]
  | ruled resolved known chosen acted =>
    simp [driven, resolved.reached_ruled known chosen, resolved.filterMap_looked,
      acted.sideCalls_events]

theorem Called.sideCalls_events {result : ResultCode} {c : Course σ}
    (called : Called env handle w result c) : c.events.sideCalls = driven env handle w := by
  cases called with
  | answered examined => exact examined.sideCalls_events
  | forwarded examined sent => simp [examined.sideCalls_events]

/-! ### The account of a call -/

/-- Whether the rule for a request is one with some action, which is then taken in the world `v`. -/
def Takes (env : Environment σ) (handle : Handle) (w : World σ) (action : Action)
    (v : World σ) : Prop :=
  ∃ rule, reached env handle w = some (rule, v) ∧ rule.action = action

/-- The window is that of the caller when an action is taken. -/
theorem Takes.window_eq {action : Action} {v : World σ} (takes : Takes env handle w action v) :
    v.window = w.window := by
  obtain ⟨rule, hreached, -⟩ := takes
  obtain ⟨_, _, -, -, -, rfl⟩ := exists_of_reached hreached
  rfl

theorem Takes.driven_eq {action : Action} {v : World σ} (takes : Takes env handle w action v) :
    driven env handle w = drivenBy env handle v action := by
  obtain ⟨rule, hreached, rfl⟩ := takes
  simp [driven, hreached]

/-- Around an action that is taken nothing is sent and no side feature is reached. -/
theorem Takes.exists_acted {action : Action} {v : World σ} (takes : Takes env handle w action v) :
    ∃ opening outcome d object, Acted env handle v action outcome d ∧
      Trace.sendings opening = [] ∧ Trace.sideCalls opening = [] ∧
      examine env handle w = (outcome, w.after ⟨d.registry, d.window,
        env.release object d.outside, opening ++ d.events ++ [.released object]⟩) := by
  obtain ⟨rule, hreached, rfl⟩ := takes
  obtain ⟨_, _, -, outcome, d, object, acted, -, hexamine⟩ := exists_acted_of_reached hreached
  obtain ⟨session, name, -, -, -, rfl⟩ := exists_of_reached hreached
  -- Before the action, the handle is looked up and the rule is noted.
  refine ⟨[.lookedUp handle (env.lookUp handle w.outside).1, .noted (.ruleApplied
    (env.pid (env.lookUp handle w.outside).2) w.window.header name rule.action)],
    outcome, d, object, acted, rfl, rfl, ?_⟩
  simpa using hexamine

/-- Nothing is changed by what comes before and after if nothing is sent and no side feature is
reached there. -/
theorem Relays.around {request left : Window} {reply : Reply} {phase : PluginPhase}
    {outcome : Outcome} {t opening closing : Trace}
    (relays : Relays handle request reply phase outcome left t)
    (unsent : opening.sendings = [] ∧ closing.sendings = [])
    (unreached : opening.sideCalls = [] ∧ closing.sideCalls = []) :
    Relays handle request reply phase outcome left (opening ++ t ++ closing) := by
  have sendings : (opening ++ t ++ closing).sendings =
      [⟨.caller handle, request, reply.result⟩] := by
    simp [unsent.1, unsent.2, relays.sendings]
  obtain ⟨before, after, rfl, quiet, driven⟩ := relays.order
  exact ⟨relays.outcome_eq, relays.window_eq, sendings, opening ++ before, after ++ closing,
    by simp, by simp [unreached.1, quiet], by simp [unreached.2, driven]⟩

/-- What a call does with the side features, given its events. -/
structure Drives (env : Environment σ) (handle : Handle) (w : World σ) (t : Trace) : Prop where
  /-- A side feature is reached only if the action that it is for is taken. -/
  only : ∀ called ∈ t.sideCalls, ∃ v, Takes env handle w called.action v
  /-- The application is woken once, and after that the request is answered without a call. -/
  woken : ∀ v, Takes env handle w .wakeApplication v →
    t.sideCalls = [.wakeApplication] ∧ t.sendings = [] ∧ (call env handle w).1 = .success ∧
      (call env handle w).2.window = w.window.succeed
  /-- Language emulation and the handler of fatal errors get the window of the caller, once. -/
  asked : ∀ v, Takes env handle w .askLanguage v → t.sideCalls = [.askLanguage w.window]
  shown : ∀ v, Takes env handle w .showThrow v → t.sideCalls = [.showThrow w.window]
  /-- What the plugin is doing is asked after the real call, and the event is signalled only if it
  waits for the reply. -/
  relayed : ∀ v, Takes env handle w .relayParameter v →
    ∃ reply outside, env.send handle w.window v.outside = (reply, outside) ∧
      Relays handle w.window reply (env.pluginPhase outside) (examine env handle w).1
        (call env handle w).2.window t ∧
      (call env handle w).1 = reply.result ∧
      t.sideCalls.count .signalHome =
        if 0 ≤ reply.result.raw ∧ (env.pluginPhase outside = .inHome ∨
          env.pluginPhase outside = .running ∧ reply.window.word 3 = 3) then 1 else 0
  signalled : t.sideCalls.count .signalHome ≤ 1

theorem count_signalHome_drivenBy (action : Action) :
    (drivenBy env handle w action).count .signalHome ≤ 1 := by
  cases action with
  | relayParameter =>
    rw [drivenBy, count_signalHome_relayCalls]
    split
    · exact Nat.le_refl 1
    · exact Nat.zero_le 1
  | _ => exact Nat.zero_le 1

theorem Takes.woken {v : World σ} (takes : Takes env handle w .wakeApplication v) {t : Trace}
    (trace : (call env handle w).2.trace = w.trace ++ t) :
    t.sendings = [] ∧ (call env handle w).1 = .success ∧
      (call env handle w).2.window = w.window.succeed := by
  obtain ⟨opening, outcome, d, object, acted, unsent, -, hexamine⟩ := takes.exists_acted
  cases acted with
  | applicationWoken =>
    have hcall : call env handle w = (.success, (examine env handle w).2) := by
      simp [call, hexamine]
    rw [hcall, hexamine] at trace
    obtain rfl := List.append_cancel_left trace
    rw [hcall, hexamine]
    refine ⟨by simp [unsent], rfl, ?_⟩
    rw [← takes.window_eq]
    rfl

theorem Takes.relays {v : World σ} (takes : Takes env handle w .relayParameter v) {t : Trace}
    (trace : (call env handle w).2.trace = w.trace ++ t) :
    ∃ reply outside, env.send handle w.window v.outside = (reply, outside) ∧
      Relays handle w.window reply (env.pluginPhase outside) (examine env handle w).1
        (call env handle w).2.window t ∧
      (call env handle w).1 = reply.result := by
  obtain ⟨opening, outcome, d, object, acted, unsent, unreached, hexamine⟩ := takes.exists_acted
  cases acted with
  | relayed relayed =>
    obtain ⟨reply, outside, sent, relays⟩ := relayed.relays
    obtain rfl := relays.outcome_eq
    rw [takes.window_eq] at sent relays
    have hcall : call env handle w = (reply.result, (examine env handle w).2) := by
      simp [call, hexamine]
    rw [hcall, hexamine] at trace
    obtain rfl := List.append_cancel_left trace
    rw [hcall, hexamine]
    exact ⟨reply, outside, sent, relays.around ⟨unsent, rfl⟩ ⟨unreached, rfl⟩, rfl⟩

/-- A call reaches a side feature exactly when its rule is for it: the application is woken,
language emulation asked and a fatal error shown once, and the event of the home menu is signalled
at most once, after the real call and by what that left. -/
theorem call_drives (env : Environment σ) (handle : Handle) (w : World σ) :
    ∃ t, (call env handle w).2.trace = w.trace ++ t ∧ Drives env handle w t := by
  obtain ⟨result, c, called, hcall⟩ := exists_called env handle w
  have trace : (call env handle w).2.trace = w.trace ++ c.events := by rw [hcall]; rfl
  have sideCalls := called.sideCalls_events
  have taken {action : Action} {v : World σ} (takes : Takes env handle w action v) :
      c.events.sideCalls = drivenBy env handle v action := sideCalls.trans takes.driven_eq
  refine ⟨c.events, trace, ?_, fun v takes => ?_, fun v takes => ?_, fun v takes => ?_,
    fun v takes => ?_, ?_⟩
  · intro call mem
    rw [sideCalls, driven] at mem
    rcases hreached : reached env handle w with _ | ⟨rule, v⟩
    · rw [hreached] at mem
      cases mem
    · rw [hreached] at mem
      exact ⟨v, rule, hreached, (action_of_mem_drivenBy mem).symm⟩
  · exact ⟨taken takes, takes.woken trace⟩
  · rw [taken takes, drivenBy, takes.window_eq]
  · rw [taken takes, drivenBy, takes.window_eq]
  · obtain ⟨reply, outside, sent, relays, result_eq⟩ := takes.relays trace
    refine ⟨reply, outside, sent, relays, result_eq, ?_⟩
    rw [relays.sideCalls_eq, count_signalHome_relayCalls]
  · rw [sideCalls, driven]
    cases reached env handle w with
    | none => exact Nat.zero_le 1
    | some found => exact count_signalHome_drivenBy found.1.action

end Engine

namespace Simulation.Scripted

/-- A running plugin is suspended in the home menu while its process waits for a parameter, and the
parameter that it then gets answers none of its requests. -/
def suspended : Stage :=
  let home : ServiceName := ⟨[0x41, 0x50, 0x54, 0x3A, 0x55], by simp, by simp, by simp⟩
  let reply : ScriptedReply := { ScriptedReply.quiet with
    edits := [(1, 0), (3, 10)], plugin := some .inHome }
  let kernel : Kernel := {
    pid := 48
    objects := [.clientSession ⟨4096⟩]
    counts := [1]
    handles := [(⟨256⟩, 0)]
    opened := []
    nextOpened := 32768
    refusal := none
    scripts := [⟨.handle ⟨256⟩, [reply]⟩]
    memory := .empty
    side := ⟨some ⟨none, [], false, []⟩, .running⟩ }
  { stage kernel Host.boot [⟨⟨4096⟩, home⟩] with
    window := Window.ofList [0x000D0080, 0x300, 0x1000] }

end Simulation.Scripted

open Simulation.Scripted in
/-- The event is signalled, since the plugin is asked after the call and not before it. -/
theorem Engine.call_drives_suspended :
    environment.pluginPhase suspended.outside = .running ∧
      ∃ t, (call environment ⟨256⟩ suspended).2.trace = suspended.trace ++ t ∧
        t.sideCalls = [.askPlugin .inHome, .signalHome] := by
  refine ⟨rfl, ?_⟩
  obtain ⟨t, trace, drives⟩ := call_drives environment ⟨256⟩ suspended
  obtain ⟨⟨rule, v⟩, hreached⟩ := Option.isSome_iff_exists.mp
    (show (reached environment ⟨256⟩ suspended).isSome = true by decide +kernel)
  have taken : (reached environment ⟨256⟩ suspended).map (·.1.action) = some .relayParameter := by
    decide +kernel
  have answered : (reached environment ⟨256⟩ suspended).map (fun r =>
      let sent := environment.send ⟨256⟩ suspended.window r.2.outside
      relayCalls sent.1 (environment.pluginPhase sent.2)) =
      some [.askPlugin .inHome, .signalHome] := by decide +kernel
  obtain ⟨reply, outside, sent, relays, -, -⟩ :=
    drives.relayed v ⟨rule, hreached, by simpa [hreached] using taken⟩
  refine ⟨t, trace, ?_⟩
  rw [relays.sideCalls_eq]
  simpa [hreached, sent] using answered

end Interception
