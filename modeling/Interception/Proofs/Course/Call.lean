/-
Ways through a call.

The handle is followed first.  If it leads to a session whose service is known and a rule is chosen,
the action of that rule is taken, and the reference is given back; whatever was not answered then
is sent.

* `Engine.exists_acted` — the ways of taking an action;
* `Engine.Resolved.reached_ruled` — the rule that is chosen is the one that is reached;
* `Engine.exists_examined` — the ways of looking at a request;
* `Engine.exists_called` — the ways through a call.
-/
import Interception.Proofs.Course.Consult
import Interception.Proofs.Course.Inspection
import Interception.Proofs.Course.Logo

namespace Interception

variable {σ : Type}

/-- What becomes of a request about which the supervisor was asked. -/
def Consultation.outcome : Consultation → Outcome
  | .handled => .answered .success
  | .declined | .unavailable => .forward

namespace Engine

/-- The ways of taking an action. -/
inductive Acted (env : Environment σ) (handle : Handle) (w : World σ) :
    Action → Outcome → Course σ → Prop where
  | succeeded :
      Acted env handle w .succeed (.answered .success)
        ⟨w.registry, w.window.succeed, w.outside, []⟩
  | applicationWoken :
      Acted env handle w .wakeApplication (.answered .success)
        ⟨w.registry, w.window.succeed, env.wakeApplication w.outside, [.applicationWoken]⟩
  | languageAnswered {result : ResultCode} {window : Window} {outside : σ}
      (asked : env.askLanguage w.window w.outside = ((some result, window), outside)) :
      Acted env handle w .askLanguage (.answered result)
        ⟨w.registry, window, outside, [.languageAsked w.window (some result)]⟩
  | languageDeclined {window : Window} {outside : σ}
      (asked : env.askLanguage w.window w.outside = ((none, window), outside)) :
      Acted env handle w .askLanguage .forward
        ⟨w.registry, window, outside, [.languageAsked w.window none]⟩
  | throwConsumed {window : Window} {outside : σ}
      (shown : env.showThrow w.window w.outside = ((true, window), outside)) :
      Acted env handle w .showThrow (.answered .success)
        ⟨w.registry, window, outside, [.throwShown w.window true]⟩
  | throwIgnored {window : Window} {outside : σ}
      (shown : env.showThrow w.window w.outside = ((false, window), outside)) :
      Acted env handle w .showThrow .forward
        ⟨w.registry, window, outside, [.throwShown w.window false]⟩
  | learnt {outcome : Outcome} {c : Course σ} (learnt : Learnt env handle w outcome c) :
      Acted env handle w .learnConnection outcome c
  | relayed {outcome : Outcome} {c : Course σ} (relayed : Relayed env handle w outcome c) :
      Acted env handle w .relayParameter outcome c
  | logoOpened {outcome : Outcome} {c : Course σ} (opened : LogoOpened env handle w outcome c)
      (took : openLogo env handle w = (outcome, w.after c)) :
      Acted env handle w .openLogo outcome c
  | consulted {operation : Watched} {verdict : Consultation} {c : Course σ}
      (consulted : Consulted env operation w verdict c)
      (took : consult env operation w = (verdict, w.after c)) :
      Acted env handle w (.consult operation) verdict.outcome c

/-- An action is taken in one of these ways. -/
theorem exists_acted (env : Environment σ) (handle : Handle) (action : Action) (w : World σ) :
    ∃ outcome c, Acted env handle w action outcome c ∧
      act env handle action w = (outcome, w.after c) := by
  cases action with
  | succeed => exact ⟨_, _, .succeeded, by simp [act, succeed]⟩
  | wakeApplication => exact ⟨_, _, .applicationWoken, by simp [act, succeed]⟩
  | askLanguage =>
    rcases asked : env.askLanguage w.window w.outside with ⟨⟨_ | result, window⟩, outside⟩
    · exact ⟨_, _, .languageDeclined asked, by simp [act, asked]⟩
    · exact ⟨_, _, .languageAnswered asked, by simp [act, asked]⟩
  | showThrow =>
    rcases shown : env.showThrow w.window w.outside with ⟨⟨_ | _, window⟩, outside⟩
    · exact ⟨_, _, .throwIgnored shown, by simp [act, shown]⟩
    · exact ⟨_, _, .throwConsumed shown, by simp [act, shown]⟩
  | learnConnection =>
    obtain ⟨outcome, c, learnt, hlearn⟩ := exists_learnt env handle w
    exact ⟨outcome, c, .learnt learnt, hlearn⟩
  | relayParameter =>
    obtain ⟨outcome, c, relayed, hrelay⟩ := exists_relayed env handle w
    exact ⟨outcome, c, .relayed relayed, hrelay⟩
  | openLogo =>
    obtain ⟨outcome, c, opened, took⟩ := exists_logoOpened env handle w
    exact ⟨outcome, c, .logoOpened opened took, took⟩
  | consult operation =>
    obtain ⟨verdict, c, consulted, took⟩ := exists_consulted env operation w
    refine ⟨_, c, .consulted consulted took, ?_⟩
    cases verdict with
    | unavailable => simp [act, took, Consultation.outcome]
    | declined => simp [act, took, Consultation.outcome]
    | handled => simp [act, took, Consultation.outcome]

/-! ### The rule for a request -/

/-- The session behind a handle, if the handle leads to the client end of one. -/
def sessionBehind (env : Environment σ) (handle : Handle) (s : σ) : Option SessionId :=
  if handle.isNull then none else (env.lookUp handle s).1.bind (·.kind.session?)

theorem Resolved.sessionBehind_eq {env : Environment σ} {handle : Handle} {s outside : σ}
    {resolution : Resolution} {looked : Trace}
    (resolved : Resolved env handle s resolution outside looked) :
    sessionBehind env handle s = resolution.toOption.map (·.2) := by
  cases resolved with
  | null isNull => simp [sessionBehind, isNull, Except.toOption]
  | unknown notNull lookedUp => simp [sessionBehind, notNull, lookedUp, Except.toOption]
  | otherKind notNull lookedUp kind =>
    simp [sessionBehind, notNull, lookedUp, kind, Except.toOption]
  | client notNull lookedUp kind => simp [sessionBehind, notNull, lookedUp, kind, Except.toOption]

/-- The world in which the action of a rule is taken: the handle was looked up and the rule was
noted, but nothing else has happened. -/
abbrev entered (env : Environment σ) (w : World σ) (outside : σ) (looked : Trace)
    (name : ServiceName) (rule : Rule) : World σ :=
  w.after ⟨w.registry, w.window, outside,
    looked ++ [.noted (.ruleApplied (env.pid outside) w.window.header name rule.action)]⟩

/-- The rule for the request in the window, if there is one, and the world in which its action is
taken. -/
def reached (env : Environment σ) (handle : Handle) (w : World σ) : Option (Rule × World σ) := do
  let session ← sessionBehind env handle w.outside
  let name ← w.registry.nameOf? session
  let (found, outside) := env.lookUp handle w.outside
  let rule ← Rule.select (some name) w.window (env.pid outside) w.host
  return (rule, entered env w outside [.lookedUp handle found] name rule)

/-- A handle that leads to no session reaches no rule. -/
theorem Resolved.reached_error {env : Environment σ} {handle : Handle} {w : World σ}
    {error : Unresolved} {outside : σ} {looked : Trace}
    (resolved : Resolved env handle w.outside (.error error) outside looked) :
    reached env handle w = none := by
  rw [reached, resolved.sessionBehind_eq]
  rfl

/-- A handle that leads to a session reaches the rule that is chosen there. -/
theorem Resolved.reached_ok {env : Environment σ} {handle : Handle} {w : World σ}
    {object : Object} {session : SessionId} {outside : σ} {looked : Trace}
    (resolved : Resolved env handle w.outside (.ok (object, session)) outside looked) :
    reached env handle w = do
      let name ← w.registry.nameOf? session
      let rule ← Rule.select (some name) w.window (env.pid outside) w.host
      return (rule, entered env w outside looked name rule) := by
  cases resolved with
  | client notNull lookedUp kind => simp [reached, sessionBehind, notNull, lookedUp, kind]

/-- No rule is reached where none is chosen. -/
theorem Resolved.reached_unruled {env : Environment σ} {handle : Handle} {w : World σ}
    {object : Object} {session : SessionId} {outside : σ} {looked : Trace}
    (resolved : Resolved env handle w.outside (.ok (object, session)) outside looked)
    (unruled : Rule.select (w.registry.nameOf? session) w.window (env.pid outside) w.host = none) :
    reached env handle w = none := by
  rw [resolved.reached_ok]
  cases known : w.registry.nameOf? session with
  | none => rfl
  | some name =>
    rw [known] at unruled
    simp [unruled]

/-- The rule that is chosen is reached. -/
theorem Resolved.reached_ruled {env : Environment σ} {handle : Handle} {w : World σ}
    {object : Object} {session : SessionId} {outside : σ} {looked : Trace} {name : ServiceName}
    {rule : Rule}
    (resolved : Resolved env handle w.outside (.ok (object, session)) outside looked)
    (known : w.registry.nameOf? session = some name)
    (chosen : Rule.select (some name) w.window (env.pid outside) w.host = some rule) :
    reached env handle w = some (rule, entered env w outside looked name rule) := by
  simp [resolved.reached_ok, known, chosen]

/-- What is known of a rule that is reached, and of the world in which its action is taken. -/
theorem exists_of_reached {env : Environment σ} {handle : Handle} {w v : World σ} {rule : Rule}
    (hreached : reached env handle w = some (rule, v)) :
    ∃ session name, sessionBehind env handle w.outside = some session ∧
      w.registry.nameOf? session = some name ∧
      Rule.select (some name) w.window (env.pid (env.lookUp handle w.outside).2) w.host =
        some rule ∧
      v = entered env w (env.lookUp handle w.outside).2
        [.lookedUp handle (env.lookUp handle w.outside).1] name rule := by
  obtain ⟨session, behind, hreached⟩ := Option.bind_eq_some_iff.mp hreached
  obtain ⟨name, known, hreached⟩ := Option.bind_eq_some_iff.mp hreached
  obtain ⟨chosenRule, chosen, hreached⟩ := Option.bind_eq_some_iff.mp hreached
  cases hreached
  exact ⟨session, name, behind, known, chosen, rfl⟩

/-- The ways of looking at a request. -/
inductive Examined (env : Environment σ) (handle : Handle) (w : World σ) :
    Outcome → Course σ → Prop where
  | unresolved {error : Unresolved} {outside : σ} {looked : Trace}
      (resolved : Resolved env handle w.outside (.error error) outside looked) :
      Examined env handle w .forward
        ⟨w.registry, w.window, outside, looked ++ [.noted (.passedThrough handle error)]⟩
  | unruled {object : Object} {session : SessionId} {outside : σ} {looked : Trace}
      (resolved : Resolved env handle w.outside (.ok (object, session)) outside looked)
      (unruled : Rule.select (w.registry.nameOf? session) w.window (env.pid outside) w.host =
        none) :
      Examined env handle w .forward
        ⟨w.registry, w.window, env.release object outside, looked ++ [.released object]⟩
  | ruled {object : Object} {session : SessionId} {outside : σ} {looked : Trace}
      {name : ServiceName} {rule : Rule} {outcome : Outcome} {c : Course σ}
      (resolved : Resolved env handle w.outside (.ok (object, session)) outside looked)
      (known : w.registry.nameOf? session = some name)
      (chosen : Rule.select (some name) w.window (env.pid outside) w.host = some rule)
      (acted : Acted env handle (entered env w outside looked name rule) rule.action outcome c) :
      Examined env handle w outcome
        ⟨c.registry, c.window, env.release object c.outside,
          looked ++ .noted (.ruleApplied (env.pid outside) w.window.header name rule.action) ::
            c.events ++ [.released object]⟩

/-- Where a rule is chosen, its action decides what becomes of the request, and after it the
reference on the object of the caller is given back. -/
theorem Resolved.examine_ruled {env : Environment σ} {handle : Handle} {w : World σ}
    {object : Object} {session : SessionId} {outside : σ} {looked : Trace} {name : ServiceName}
    {rule : Rule} {outcome : Outcome} {c : Course σ}
    (resolved : Resolved env handle w.outside (.ok (object, session)) outside looked)
    (known : w.registry.nameOf? session = some name)
    (chosen : Rule.select (some name) w.window (env.pid outside) w.host = some rule)
    (hact : act env handle rule.action (entered env w outside looked name rule) =
      (outcome, (entered env w outside looked name rule).after c)) :
    examine env handle w = (outcome, (entered env w outside looked name rule).after
      ⟨c.registry, c.window, env.release object c.outside, c.events ++ [.released object]⟩) :=
  (withClient_course outcome ⟨c.registry, c.window, c.outside,
    .noted (.ruleApplied (env.pid outside) w.window.header name rule.action) :: c.events⟩
    resolved (by simp [dispatch, known, chosen, hact])).trans (by simp)

/-- Where a rule is reached, its action decides what becomes of the request. -/
theorem exists_acted_of_reached {env : Environment σ} {handle : Handle} {w v : World σ}
    {rule : Rule} (hreached : reached env handle w = some (rule, v)) :
    ∃ outside looked, v = w.after ⟨w.registry, w.window, outside, looked⟩ ∧
      ∃ outcome c object, Acted env handle v rule.action outcome c ∧
        act env handle rule.action v = (outcome, v.after c) ∧
        examine env handle w = (outcome, v.after ⟨c.registry, c.window,
          env.release object c.outside, c.events ++ [.released object]⟩) := by
  obtain ⟨resolution, outside, looked, resolved⟩ := exists_resolved env handle w.outside
  rcases resolution with error | ⟨object, session⟩
  · rw [resolved.reached_error] at hreached
    cases hreached
  · rw [resolved.reached_ok] at hreached
    obtain ⟨name, known, hreached⟩ := Option.bind_eq_some_iff.mp hreached
    obtain ⟨chosenRule, chosen, hreached⟩ := Option.bind_eq_some_iff.mp hreached
    cases hreached
    obtain ⟨outcome, c, acted, hact⟩ := exists_acted env handle rule.action
      (entered env w outside looked name rule)
    exact ⟨_, _, rfl, outcome, c, object, acted, hact, resolved.examine_ruled known chosen hact⟩

/-- A request is looked at in one of these ways. -/
theorem exists_examined (env : Environment σ) (handle : Handle) (w : World σ) :
    ∃ outcome c, Examined env handle w outcome c ∧
      examine env handle w = (outcome, w.after c) := by
  obtain ⟨resolution, outside, looked, resolved⟩ := exists_resolved env handle w.outside
  rcases resolution with error | ⟨object, session⟩
  · refine ⟨_, _, .unresolved resolved, ?_⟩
    exact (withClient_course .forward ⟨w.registry, w.window, outside,
      [.noted (.passedThrough handle error)]⟩ resolved (by simp)).trans (by simp)
  cases chosen : Rule.select (w.registry.nameOf? session) w.window (env.pid outside) w.host with
  | none =>
    refine ⟨_, _, .unruled resolved chosen, ?_⟩
    exact (withClient_course .forward ⟨w.registry, w.window, outside, []⟩ resolved
      (by simp [dispatch, chosen])).trans (by simp)
  | some rule =>
    -- A rule is only chosen for a service that is known.
    obtain ⟨name, known⟩ : ∃ name, w.registry.nameOf? session = some name := by
      obtain ⟨-, name, known, -⟩ := Rule.applies_of_select chosen
      exact ⟨name, known⟩
    obtain ⟨outcome, c, acted, hact⟩ := exists_acted env handle rule.action
      (entered env w outside looked name rule)
    rw [known] at chosen
    refine ⟨_, _, .ruled resolved known chosen acted, ?_⟩
    exact (resolved.examine_ruled known chosen hact).trans (by simp)

/-- The ways through a call. -/
inductive Called (env : Environment σ) (handle : Handle) (w : World σ) :
    ResultCode → Course σ → Prop where
  | answered {result : ResultCode} {c : Course σ}
      (examined : Examined env handle w (.answered result) c) :
      Called env handle w result c
  | forwarded {c : Course σ} {reply : Reply} {outside : σ}
      (examined : Examined env handle w .forward c)
      (sent : env.send handle c.window c.outside = (reply, outside)) :
      Called env handle w reply.result
        ⟨c.registry.changed reply.changes, reply.window, outside,
          c.events ++ reply.events (.caller handle) c.window c.registry⟩

/-- A request that is not answered is sent as it was left. -/
theorem call_forward {env : Environment σ} {handle : Handle} {w : World σ} {c : Course σ}
    {reply : Reply} {outside : σ} (forwarded : examine env handle w = (.forward, w.after c))
    (sent : env.send handle c.window c.outside = (reply, outside)) :
    call env handle w = (reply.result, w.after ⟨c.registry.changed reply.changes, reply.window,
      outside, c.events ++ reply.events (.caller handle) c.window c.registry⟩) := by
  simp only [call, bind_apply, forwarded]
  rw [send_course (.caller handle) (w.after c) sent]
  simp

/-- A call goes through one of these ways. -/
theorem exists_called (env : Environment σ) (handle : Handle) (w : World σ) :
    ∃ result c, Called env handle w result c ∧ call env handle w = (result, w.after c) := by
  obtain ⟨outcome, c, examined, hexamine⟩ := exists_examined env handle w
  cases outcome with
  | answered result => exact ⟨_, _, .answered examined, by simp [call, hexamine]⟩
  | forward =>
    rcases sent : env.send handle c.window c.outside with ⟨reply, outside⟩
    exact ⟨_, _, .forwarded examined sent, call_forward hexamine sent⟩

end Engine

end Interception
