/-
Parameters from the home menu.

The call is made.  If it succeeds and the plugin is waiting for what it delivered, the plugin is
woken.
-/
import Interception.Engine.Outcome

namespace Interception.Engine

variable {σ : Type}

/-- The word of the reply that says what kind of parameter it is. -/
def parameterWord : Nat := 3

/-- The parameter that answers a request of a running plugin. -/
def responseParameter : UInt32 := 3

/-- Whether a plugin in some state waits for a parameter.  While the application is suspended in
the home menu, any parameter means that it is resumed. -/
def wakesPlugin (state : PluginPhase) (parameter : UInt32) : Bool :=
  match state with
  | .running => parameter == responseParameter
  | .inHome => true
  | .none | .exiting => false

/-- Makes the call and wakes the plugin if the reply is for it. -/
def relayParameter (env : Environment σ) (handle : Handle) : Engine σ Outcome := do
  let result ← send env (.caller handle)
  if result.isSuccess then
    let parameter := (← window).word parameterWord
    if wakesPlugin (← pluginPhase env) parameter then
      note (.pluginWoken parameter)
      signalHome env
  return .answered result

end Interception.Engine
