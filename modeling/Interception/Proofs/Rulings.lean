/-
The rule that a call tells of.

When a rule is chosen for a request, the operator is told of it before its action is taken: the
process, the header, the name of the service and the action.  No other computation tells of a rule,
so that the rule of a call can be read off its trace.

* `Engine.Acted.rulings` — an action tells of no rule;
* `Engine.exists_rulings` — a call tells of the rule for its request, and of no other;
* `Engine.exists_applies_iff` — that rule is the one that is reached.
-/
import Interception.Proofs.Course.Views

namespace Interception

variable {σ : Type}

/-- The notice of a rule that was chosen. -/
abbrev Event.ruling : Event → Option Notice
  | .noted (.ruleApplied pid header name action) => some (.ruleApplied pid header name action)
  | _ => none

/-- The notices of rules in a trace. -/
abbrev Trace.rulings (t : Trace) : List Notice :=
  t.filterMap Event.ruling

/-- Whether a trace tells of a rule with some action. -/
def Trace.Applies (t : Trace) (action : Action) : Prop :=
  ∃ pid header name, Event.noted (.ruleApplied pid header name action) ∈ t

namespace Trace

theorem mem_rulings {t : Trace} {pid : UInt32} {header : Header} {name : ServiceName}
    {action : Action} : .ruleApplied pid header name action ∈ t.rulings ↔
      .noted (.ruleApplied pid header name action) ∈ t := by
  rw [rulings, List.mem_filterMap]
  constructor
  · rintro ⟨e, mem, told⟩
    unfold Event.ruling at told
    split at told
    · cases told
      exact mem
    · cases told
  · exact fun mem => ⟨_, mem, rfl⟩

theorem rulings_ofRegistration (session : SessionId) (name : ServiceName)
    (outcome : Registration) :
    rulings ((Notice.ofRegistration session name outcome).map .noted) = [] := by
  cases outcome with
  | added => rfl
  | full => rfl
  | known existing =>
    by_cases same : existing = name <;> simp [Notice.ofRegistration, same]

theorem rulings_notices (r : Registry) (changes : List RegistryChange) :
    rulings ((r.notices changes).map .noted) = [] := by
  induction changes generalizing r with
  | nil => rfl
  | cons change rest ih =>
    cases change with
    | insert session name =>
      simp only [Registry.notices, List.map_append, List.filterMap_append, ih, List.append_nil]
      exact rulings_ofRegistration ..
    | erase session => exact ih _

end Trace

/-- A reply tells of no rule: what others do to the registry meanwhile is no choice of a rule. -/
@[simp]
theorem Reply.rulings_events (reply : Reply) (route : Route) (request : Window)
    (registry : Registry) : (reply.events route request registry).rulings = [] :=
  Reply.filterMap_events (Trace.rulings_notices registry reply.changes) route request

namespace Engine

variable {env : Environment σ} {handle : Handle} {w : World σ}

/-! ### Actions tell of no rule -/

theorem NameLearnt.rulings {registry after : Registry} {name : Option ServiceName}
    {resolution : Resolution} {notices : List Notice}
    (learnt : NameLearnt handle registry name resolution after notices) :
    Trace.rulings (notices.map .noted) = [] := by
  cases learnt with
  | nameless => rfl
  | unusable => rfl
  | registered => exact Trace.rulings_ofRegistration ..

theorem Learnt.rulings {outcome : Outcome} {c : Course σ} (learnt : Learnt env handle w outcome c) :
    c.events.rulings = [] := by
  cases learnt with
  | failed sent failed => exact Reply.rulings_events ..
  | connected sent connected resolved learnt =>
    simp [resolved.filterMap_looked, learnt.rulings, -Resolution.givenUp]

theorem Relayed.rulings {outcome : Outcome} {c : Course σ}
    (relayed : Relayed env handle w outcome c) : c.events.rulings = [] := by
  cases relayed <;> simp

theorem LogoOpened.rulings {outcome : Outcome} {c : Course σ}
    (opened : LogoOpened env handle w outcome c) : c.events.rulings = [] := by
  cases opened with
  | unreadable read => simp [read.filterMap_reads]
  | otherFile read other => exact read.filterMap_reads fun _ _ _ => rfl
  | readOnly read logo wrote => simp [read.filterMap_reads]
  | served read logo wrote sent served => simp [read.filterMap_reads]
  | fellBack read logo wrote sent unserved restored => simp [read.filterMap_reads]

theorem Consulted.rulings {operation : Watched} {verdict : Consultation} {c : Course σ}
    (consulted : Consulted env operation w verdict c) : c.events.rulings = [] := by
  cases consulted with
  | absent unknown => simp
  | refused known encoded => simp [encoded.filterMap_reads]
  | unreachable known encoded opened => simp [encoded.filterMap_reads]
  | declined known encoded opened sent unhandled => simp [encoded.filterMap_reads]
  | handled known encoded opened sent handled => simp [encoded.filterMap_reads]

/-- An action tells of no rule. -/
theorem Acted.rulings {action : Action} {outcome : Outcome} {c : Course σ}
    (acted : Acted env handle w action outcome c) : c.events.rulings = [] := by
  cases acted with
  | learnt learnt => exact learnt.rulings
  | relayed relayed => exact relayed.rulings
  | logoOpened opened took => exact opened.rulings
  | consulted consulted took => exact consulted.rulings
  | _ => simp

/-! ### The rule of a call -/

/-- What there is to tell of the rule for a request, if there is one. -/
def ruling? (env : Environment σ) (handle : Handle) (w : World σ) : Option Notice := do
  let session ← sessionBehind env handle w.outside
  let name ← w.registry.nameOf? session
  let pid := env.pid (env.lookUp handle w.outside).2
  let rule ← Rule.select (some name) w.window pid w.host
  return .ruleApplied pid w.window.header name rule.action

/-- Where the handle leads to a session, its name and the rule chosen there are told. -/
theorem Resolved.ruling?_ok {object : Object} {session : SessionId} {outside : σ} {looked : Trace}
    (resolved : Resolved env handle w.outside (.ok (object, session)) outside looked) :
    ruling? env handle w = do
      let name ← w.registry.nameOf? session
      let rule ← Rule.select (some name) w.window (env.pid outside) w.host
      return .ruleApplied (env.pid outside) w.window.header name rule.action := by
  cases resolved with
  | client notNull lookedUp kind => simp [ruling?, sessionBehind, notNull, lookedUp, kind]

theorem Examined.rulings {outcome : Outcome} {c : Course σ}
    (examined : Examined env handle w outcome c) :
    c.events.rulings = (ruling? env handle w).toList := by
  cases examined with
  | unresolved resolved =>
    have none : ruling? env handle w = none := by
      simp [ruling?, resolved.sessionBehind_eq, Except.toOption]
    simp [resolved.filterMap_looked, none]
  | unruled resolved unruled =>
    have none : ruling? env handle w = none := by
      rw [resolved.ruling?_ok]
      cases known : w.registry.nameOf? _ with
      | none => rfl
      | some name =>
        rw [known] at unruled
        simp [unruled]
    simp [resolved.filterMap_looked, none]
  | ruled resolved known chosen acted =>
    simp [resolved.filterMap_looked, resolved.ruling?_ok, known, chosen, acted.rulings]

/-- A call tells of the rule for its request, and of no other. -/
theorem exists_rulings (env : Environment σ) (handle : Handle) (w : World σ) :
    ∃ t, (call env handle w).2.trace = w.trace ++ t ∧
      t.rulings = (ruling? env handle w).toList := by
  obtain ⟨result, c, called, hcall⟩ := exists_called env handle w
  refine ⟨c.events, by rw [hcall]; rfl, ?_⟩
  cases called with
  | answered examined => exact examined.rulings
  | forwarded examined sent => simp [examined.rulings]

theorem ruling?_action_iff {action : Action} :
    (∃ pid header name, ruling? env handle w = some (.ruleApplied pid header name action)) ↔
      ∃ rule v, reached env handle w = some (rule, v) ∧ rule.action = action := by
  cases behind : sessionBehind env handle w.outside with
  | none => simp [ruling?, reached, behind]
  | some session =>
    cases known : w.registry.nameOf? session with
    | none => simp [ruling?, reached, behind, known]
    | some name =>
      cases chosen : Rule.select (some name) w.window (env.pid (env.lookUp handle w.outside).2)
        w.host <;> simp [ruling?, reached, behind, known, chosen]

/-- The rule that is reached is the one that the call tells of. -/
theorem exists_applies_iff (env : Environment σ) (handle : Handle) (w : World σ) :
    ∃ t, (call env handle w).2.trace = w.trace ++ t ∧ ∀ action, t.Applies action ↔
      ∃ rule v, reached env handle w = some (rule, v) ∧ rule.action = action := by
  obtain ⟨t, trace_eq, rulings⟩ := exists_rulings env handle w
  refine ⟨t, trace_eq, fun action => ?_⟩
  rw [← ruling?_action_iff]
  simp only [Trace.Applies, ← Trace.mem_rulings, rulings, Option.mem_toList]

end Engine

end Interception
