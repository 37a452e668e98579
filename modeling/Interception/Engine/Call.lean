/-
The synchronous call, as its callers see it.

`Engine.call` stands in for the real synchronous call.  It looks at the request first: if the
handle leads to a client session whose service is known and a rule applies, the action of that
rule is taken; everything else goes through untouched.  The caller gets one result, from the real
call or from the action.
-/
import Interception.Engine.Connection
import Interception.Engine.Logo
import Interception.Engine.Parameter
import Interception.Rule.Table
import Interception.Supervisor.Consult

namespace Interception.Engine

variable {σ : Type}

/-- Takes an action on the request in the window. -/
def act (env : Environment σ) (handle : Handle) : Action → Engine σ Outcome
  | .succeed => succeed
  | .wakeApplication => do
    wakeApplication env
    succeed
  | .askLanguage => do
    match ← askLanguage env with
    | some result => return .answered result
    | none => return .forward
  | .showThrow => do
    if ← showThrow env then return .answered .success else return .forward
  | .learnConnection => learnConnection env handle
  | .relayParameter => relayParameter env handle
  | .openLogo => openLogo env handle
  | .consult operation => do
    match ← consult env operation with
    | .handled => return .answered .success
    | .declined | .unavailable => return .forward

/-- Finds the rule for a request to a session and takes its action. -/
def dispatch (env : Environment σ) (handle : Handle) (session : SessionId) :
    Engine σ Outcome := do
  let name := (← registry).nameOf? session
  let pid ← pid env
  match name, Rule.select name (← window) pid (← host) with
  | some name, some rule =>
    note (.ruleApplied pid (← window).header name rule.action)
    act env handle rule.action
  | _, _ => return .forward

/-- Looks at a request and says what becomes of it. -/
def examine (env : Environment σ) (handle : Handle) : Engine σ Outcome :=
  withClient env handle fun resolved =>
    match resolved with
    | .ok (_, session) => dispatch env handle session
    | .error error => do
      note (.passedThrough handle error)
      return .forward

/-- The synchronous call, as its callers see it. -/
def call (env : Environment σ) (handle : Handle) : Engine σ ResultCode := do
  match ← examine env handle with
  | .answered result => return result
  | .forward => send env (.caller handle)

end Interception.Engine
