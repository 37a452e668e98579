/-
Where the result of a call comes from.

Before it is decided what becomes of a request, some calls may already have been made: one on a
handle that was opened for the supervisor, and at most one on the handle of the caller.  The
decision knows about the latter.  Either nothing was sent and the request is answered, or the one
call answers it, or nothing was sent and the real call is still to be made, or the boot logo was
asked for in vain and the real call comes second (`Decided`).

What happens is told in advance by three functions of the action and the world in which it is
taken: `answersUnsent`, `fallsBack` and `emulatedAnswer`.

* `Engine.Acted.decided` — the calls made by an action;
* `Engine.Examined.decided` — the calls made before the decision;
* `Engine.call_accounts` — the calls made by a call, and the origin of its result.
-/
import Interception.Proofs.Course.Views

namespace Interception

variable {σ : Type}

/-- A synchronous call that was made: on which handle, with which words, and its result. -/
structure Sending where
  route : Route
  request : Window
  result : ResultCode

/-- The call that an event tells about. -/
abbrev Event.sending : Event → Option Sending
  | .sent route request _ result => some ⟨route, request, result⟩
  | _ => none

/-- The calls in a trace, in their order. -/
abbrev Trace.sendings (t : Trace) : List Sending :=
  t.filterMap Event.sending

/-- Whether the path in memory is that of the boot logo and could be replaced. -/
def Logo.isTried (env : Environment σ) (w : World σ) : Bool :=
  match (Engine.readPath env (pointer w.window) w).1 with
  | .ok path =>
    isLogoPath path && (env.writeMemory (pointer w.window) storagePath w.outside).1.toBool
  | .error _ => false

namespace Engine

/-! ### What an action is going to do -/

/-- Whether an action answers the request without a call on the handle of its caller. -/
def answersUnsent (env : Environment σ) (w : World σ) : Action → Bool
  | .succeed | .wakeApplication => true
  | .askLanguage => (env.askLanguage w.window w.outside).1.1.isSome
  | .showThrow => (env.showThrow w.window w.outside).1.1
  | .consult operation => (consult env operation w).1 = .handled
  | .learnConnection | .relayParameter | .openLogo => false

/-- Whether an action asks for the boot logo on removable storage in vain. -/
def fallsBack (env : Environment σ) (handle : Handle) (w : World σ) : Action → Bool
  | .openLogo => Logo.isTried env w && (openLogo env handle w).1 = .forward
  | _ => false

/-- The answer of language emulation, if the action is to ask for it. -/
def emulatedAnswer (env : Environment σ) (w : World σ) : Action → Option ResultCode
  | .askLanguage => (env.askLanguage w.window w.outside).1.1
  | _ => none

/-- The calls made on the handle of the caller until it is decided what becomes of a request, given
whether it is answered without one, whether the boot logo was asked for in vain, and the answer of
language emulation. -/
inductive Decided (handle : Handle) (window : Window) :
    Bool → Bool → Option ResultCode → Outcome → List Sending → Prop where
  | unsent (emulated : Option ResultCode) :
      Decided handle window true false emulated (.answered (emulated.getD .success)) []
  | answered (request : Window) (result : ResultCode) :
      Decided handle window false false none (.answered result)
        [⟨.caller handle, request, result⟩]
  | untouched : Decided handle window false false none .forward []
  | fellBack (result : ResultCode) :
      Decided handle window false true none .forward
        [⟨.caller handle, Logo.redirect window, result⟩]

/-- The calls that an action makes on handles that it opens: none, or one to the supervisor. -/
inductive Nested : Action → List Sending → Prop where
  | none (action : Action) : Nested action []
  | one (operation : Watched) (session : SessionId) (handle : Handle) (request : Window)
      (result : ResultCode) :
      Nested (.consult operation) [⟨.opened session handle, request, result⟩]

/-! ### The calls made by each action -/

theorem Learnt.sendings {env : Environment σ} {handle : Handle} {w : World σ} {outcome : Outcome}
    {c : Course σ} (learnt : Learnt env handle w outcome c) :
    ∃ result, outcome = .answered result ∧
      c.events.sendings = [⟨.caller handle, w.window, result⟩] := by
  cases learnt with
  | @failed reply _ sent failed => exact ⟨reply.result, rfl, by simp⟩
  | @connected reply _ _ _ _ _ _ sent connected resolved learnt =>
    exact ⟨reply.result, rfl, by simp [resolved.filterMap_looked, -Resolution.givenUp]⟩

theorem Relayed.sendings {env : Environment σ} {handle : Handle} {w : World σ} {outcome : Outcome}
    {c : Course σ} (relayed : Relayed env handle w outcome c) :
    ∃ result, outcome = .answered result ∧
      c.events.sendings = [⟨.caller handle, w.window, result⟩] := by
  cases relayed with
  | @failed reply _ sent failed => exact ⟨reply.result, rfl, by simp⟩
  | @ignored reply _ sent succeeded ignored => exact ⟨reply.result, rfl, by simp⟩
  | @woken reply _ sent succeeded woken => exact ⟨reply.result, rfl, by simp⟩

theorem LogoOpened.decided {env : Environment σ} {handle : Handle} {w : World σ}
    {outcome : Outcome} {c : Course σ} (opened : LogoOpened env handle w outcome c)
    (took : openLogo env handle w = (outcome, w.after c)) :
    Decided handle w.window false (fallsBack env handle w .openLogo) none outcome
      c.events.sendings := by
  cases opened with
  | unreadable read =>
    simpa [fallsBack, Logo.isTried, read.readPath_eq, read.filterMap_reads] using Decided.untouched
  | otherFile read other =>
    simpa [fallsBack, Logo.isTried, read.readPath_eq, read.filterMap_reads, other] using
      Decided.untouched
  | readOnly read logo wrote =>
    simpa [fallsBack, Logo.isTried, read.readPath_eq, read.filterMap_reads, wrote,
      Except.toBool] using Decided.untouched
  | @served _ _ reply _ _ read logo wrote sent served =>
    simpa [fallsBack, took, read.filterMap_reads] using
      Decided.answered (Logo.redirect w.window) reply.result
  | @fellBack _ _ reply _ _ _ answer read logo wrote sent unserved restored =>
    simpa [fallsBack, Logo.isTried, took, read.readPath_eq, read.filterMap_reads, logo, wrote,
      Except.toBool] using Decided.fellBack reply.result

theorem Consulted.nested {env : Environment σ} {operation : Watched} {w : World σ}
    {verdict : Consultation} {c : Course σ} (consulted : Consulted env operation w verdict c) :
    Nested (.consult operation) c.events.sendings := by
  cases consulted with
  | absent unknown => exact .none _
  | refused known encoded => simpa [encoded.filterMap_reads] using Nested.none _
  | unreachable known encoded opened => simpa [encoded.filterMap_reads] using Nested.none _
  | declined known encoded opened sent unhandled =>
    simpa [encoded.filterMap_reads] using Nested.one ..
  | handled known encoded opened sent handled =>
    simpa [encoded.filterMap_reads] using Nested.one ..

theorem Acted.decided {env : Environment σ} {handle : Handle} {w : World σ} {action : Action}
    {outcome : Outcome} {c : Course σ} (acted : Acted env handle w action outcome c) :
    ∃ nested own, c.events.sendings = nested ++ own ∧ Nested action nested ∧
      Decided handle w.window (answersUnsent env w action) (fallsBack env handle w action)
        (emulatedAnswer env w action) outcome own := by
  cases acted with
  | succeeded => exact ⟨[], [], rfl, .none _, .unsent none⟩
  | applicationWoken => exact ⟨[], [], rfl, .none _, .unsent none⟩
  | @languageAnswered result _ _ asked =>
    refine ⟨[], [], rfl, .none _, ?_⟩
    simpa [answersUnsent, fallsBack, emulatedAnswer, asked] using Decided.unsent (some result)
  | languageDeclined asked =>
    refine ⟨[], [], rfl, .none _, ?_⟩
    simpa [answersUnsent, fallsBack, emulatedAnswer, asked] using Decided.untouched
  | throwConsumed shown =>
    refine ⟨[], [], rfl, .none _, ?_⟩
    simpa [answersUnsent, fallsBack, emulatedAnswer, shown] using Decided.unsent none
  | throwIgnored shown =>
    refine ⟨[], [], rfl, .none _, ?_⟩
    simpa [answersUnsent, fallsBack, emulatedAnswer, shown] using Decided.untouched
  | learnt learnt =>
    obtain ⟨result, rfl, sendings⟩ := learnt.sendings
    exact ⟨[], _, sendings, .none _, .answered w.window result⟩
  | relayed relayed =>
    obtain ⟨result, rfl, sendings⟩ := relayed.sendings
    exact ⟨[], _, sendings, .none _, .answered w.window result⟩
  | logoOpened opened took => exact ⟨[], _, rfl, .none _, opened.decided took⟩
  | @consulted operation verdict _ consulted took =>
    refine ⟨_, [], (List.append_nil _).symm, consulted.nested, ?_⟩
    cases verdict with
    | unavailable => simpa [answersUnsent, fallsBack, emulatedAnswer, took] using .untouched
    | declined => simpa [answersUnsent, fallsBack, emulatedAnswer, took] using .untouched
    | handled => simpa [answersUnsent, fallsBack, emulatedAnswer, took] using .unsent none

/-! ### The calls made by a call -/

/-- Whether a request is going to be answered without a call on the handle of its caller. -/
def isAnsweredUnsent (env : Environment σ) (handle : Handle) (w : World σ) : Bool :=
  (reached env handle w).any fun r => answersUnsent env r.2 r.1.action

/-- Whether the boot logo is going to be asked for in vain. -/
def isFallingBack (env : Environment σ) (handle : Handle) (w : World σ) : Bool :=
  (reached env handle w).any fun r => fallsBack env handle r.2 r.1.action

/-- The answer that language emulation is going to give, if it is asked. -/
def emulated (env : Environment σ) (handle : Handle) (w : World σ) : Option ResultCode :=
  (reached env handle w).bind fun r => emulatedAnswer env r.2 r.1.action

theorem Examined.decided {env : Environment σ} {handle : Handle} {w : World σ}
    {outcome : Outcome} {c : Course σ} (examined : Examined env handle w outcome c) :
    ∃ nested own, c.events.sendings = nested ++ own ∧
      (nested = [] ∨
        ∃ rule v, reached env handle w = some (rule, v) ∧ Nested rule.action nested) ∧
      Decided handle w.window (isAnsweredUnsent env handle w) (isFallingBack env handle w)
        (emulated env handle w) outcome own := by
  cases examined with
  | unresolved resolved =>
    refine ⟨[], [], by simp [resolved.filterMap_looked], .inl rfl, ?_⟩
    simpa [isAnsweredUnsent, isFallingBack, emulated, resolved.reached_error] using .untouched
  | unruled resolved unruled =>
    refine ⟨[], [], by simp [resolved.filterMap_looked], .inl rfl, ?_⟩
    simpa [isAnsweredUnsent, isFallingBack, emulated, resolved.reached_unruled unruled] using
      .untouched
  | ruled resolved known chosen acted =>
    have reached := resolved.reached_ruled known chosen
    obtain ⟨nested, own, sendings, hnested, decided⟩ := acted.decided
    refine ⟨nested, own, by simp [resolved.filterMap_looked, sendings],
      .inr ⟨_, _, reached, hnested⟩, ?_⟩
    simpa [isAnsweredUnsent, isFallingBack, emulated, reached] using decided

/-- The account of the calls made on the handle of the caller, given whether the request is
answered without one, whether the boot logo is asked for in vain, and the answer of language
emulation. -/
structure OwnCalls (handle : Handle) (window : Window) (unsent falls : Bool)
    (emulated : Option ResultCode) (own : List Sending) (result : ResultCode) : Prop where
  route : ∀ s ∈ own, s.route = .caller handle
  length : own.length ≤ 2
  none_iff : own.length = 0 ↔ unsent = true
  two_iff : own.length = 2 ↔ falls = true
  /-- Of two calls the first is the one that asks for the boot logo in vain. -/
  redirected : ∀ first last, own = [first, last] → first.request = Logo.redirect window
  origin : result = (own.getLast?.map (·.result)).getD (emulated.getD .success)
  /-- A failure is that of the last call, or it comes from language emulation. -/
  failure : result.isFailure = true →
    (∃ s, own.getLast? = some s ∧ s.result = result) ∨ own = [] ∧ emulated = some result

/-- What has an origin fails only where its origin fails. -/
theorem OwnCalls.of_origin {handle : Handle} {window : Window} {unsent falls : Bool}
    {emulated : Option ResultCode} {own : List Sending} {result : ResultCode}
    (route : ∀ s ∈ own, s.route = .caller handle) (length : own.length ≤ 2)
    (none_iff : own.length = 0 ↔ unsent = true) (two_iff : own.length = 2 ↔ falls = true)
    (redirected : ∀ first last, own = [first, last] → first.request = Logo.redirect window)
    (origin : result = (own.getLast?.map (·.result)).getD (emulated.getD .success)) :
    OwnCalls handle window unsent falls emulated own result := by
  refine ⟨route, length, none_iff, two_iff, redirected, origin, fun failed => ?_⟩
  cases last : own.getLast? with
  | some s => exact .inl ⟨s, rfl, by simp [origin, last]⟩
  | none =>
    refine .inr ⟨List.getLast?_eq_none_iff.mp last, ?_⟩
    rw [last] at origin
    cases emulated with
    | some answer => exact congrArg some origin.symm
    -- Plain success is no failure.
    | none =>
      rw [origin] at failed
      exact absurd failed (by decide)

theorem Decided.ownCalls_answered {handle : Handle} {window : Window} {unsent falls : Bool}
    {emulated : Option ResultCode} {result : ResultCode} {own : List Sending}
    (decided : Decided handle window unsent falls emulated (.answered result) own) :
    OwnCalls handle window unsent falls emulated own result := by
  cases decided with
  | unsent => apply OwnCalls.of_origin <;> simp
  | answered => apply OwnCalls.of_origin <;> simp

theorem Decided.ownCalls_forward {handle : Handle} {window : Window} {unsent falls : Bool}
    {emulated : Option ResultCode} {own : List Sending}
    (decided : Decided handle window unsent falls emulated .forward own) (request : Window)
    (result : ResultCode) :
    OwnCalls handle window unsent falls emulated (own ++ [⟨.caller handle, request, result⟩])
      result := by
  cases decided with
  | untouched => apply OwnCalls.of_origin <;> simp
  | fellBack => apply OwnCalls.of_origin <;> simp

/-- The account of the calls made by one call: first those on handles that were opened for it, then
those on the handle of its caller, and its result. -/
structure Accounts (env : Environment σ) (handle : Handle) (w : World σ)
    (nested own : List Sending) (result : ResultCode) : Prop where
  nested_route : ∀ s ∈ nested, ∃ session opened, s.route = .opened session opened
  nested_length : nested.length ≤ 1
  /-- Only to ask the supervisor a call is made on an opened handle. -/
  nested_consult : nested ≠ [] → ∃ rule v operation,
    reached env handle w = some (rule, v) ∧ rule.action = .consult operation
  own : OwnCalls handle w.window (isAnsweredUnsent env handle w) (isFallingBack env handle w)
    (emulated env handle w) own result

theorem accounts_of_nested {env : Environment σ} {handle : Handle} {w : World σ}
    {nested own : List Sending} {result : ResultCode}
    (hnested : nested = [] ∨
      ∃ rule v, reached env handle w = some (rule, v) ∧ Nested rule.action nested)
    (hown : OwnCalls handle w.window (isAnsweredUnsent env handle w) (isFallingBack env handle w)
      (emulated env handle w) own result) :
    Accounts env handle w nested own result := by
  rcases hnested with rfl | ⟨rule, v, reached, hnested⟩
  · exact ⟨by simp, by simp, by simp, hown⟩
  · generalize action : rule.action = taken at hnested
    cases hnested with
    | none => exact ⟨by simp, by simp, by simp, hown⟩
    | one operation =>
      exact ⟨by simp, by simp, fun _ => ⟨rule, v, operation, reached, action⟩, hown⟩

/-- A call has one result.  It is that of the last call on the handle of the caller; if there is
none, it was given by language emulation or is plain success. -/
theorem call_accounts (env : Environment σ) (handle : Handle) (w : World σ) :
    ∃ t nested own, (call env handle w).2.trace = w.trace ++ t ∧ t.sendings = nested ++ own ∧
      Accounts env handle w nested own (call env handle w).1 := by
  obtain ⟨result, c, called, hcall⟩ := exists_called env handle w
  rw [hcall]
  cases called with
  | answered examined =>
    obtain ⟨nested, own, sendings, hnested, decided⟩ := examined.decided
    exact ⟨_, nested, own, rfl, sendings, accounts_of_nested hnested decided.ownCalls_answered⟩
  | @forwarded c reply _ examined sent =>
    obtain ⟨nested, own, sendings, hnested, decided⟩ := examined.decided
    have hown := decided.ownCalls_forward c.window reply.result
    exact ⟨_, nested, _, rfl, by simp [sendings], accounts_of_nested hnested hown⟩

end Engine

end Interception
