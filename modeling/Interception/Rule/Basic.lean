/-
Rules for requests.

A rule belongs to one command header and some services.  It may ask for more through its guard,
and it belongs to a family of features that can be switched off.  A rule applies when all four
tests pass.
-/
import Interception.Host
import Interception.ServiceName
import Interception.Supervisor.Watched
import Interception.Window.Basic

namespace Interception

/-- Which services a rule is for. -/
inductive Pattern where
  /-- The service with this name. -/
  | exactly (name : String)
  /-- All services whose name starts this way. -/
  | starting (start : String)
deriving DecidableEq

namespace Pattern

/-- Whether a service name fits the pattern. -/
def fits (p : Pattern) (n : ServiceName) : Bool :=
  match p with
  | exactly name => n.equals name
  | starting start => n.startsWith start

def describe : Pattern → String
  | exactly name => Text.wrapped "Exact" (Text.quoted name)
  | starting start => Text.wrapped "Prefix" (Text.quoted start)

end Pattern

/-- What a rule asks for beyond header and service. -/
inductive Guard where
  | always
  /-- Network functions have started and the caller is an application. -/
  | networkedApplication
  /-- The first payload word has this value. -/
  | firstWord (value : UInt32)
  /-- The minor version of the kernel is below this number. -/
  | minorBelow (limit : Nat)
deriving DecidableEq

namespace Guard

/-- Whether a request meets the guard. -/
def holds (g : Guard) (w : Window) (pid : UInt32) (host : Host) : Bool :=
  match g with
  | always => true
  | networkedApplication => host.networkStarted && host.isApplication pid
  | firstWord value => w.word 1 == value
  | minorBelow limit => host.version.minor < limit

def describe : Guard → String
  | always => "Always"
  | networkedApplication => "NdmWorkaround"
  | firstWord value => Text.wrapped "Word1Equals" (toString value)
  | minorBelow limit => Text.wrapped "KernelMinorBelow" (toString limit)

end Guard

/-- What is done with a request. -/
inductive Action where
  /-- Answer with success, without a call. -/
  | succeed
  /-- Wake the application, then answer with success. -/
  | wakeApplication
  | askLanguage
  /-- Show the request to the handler of fatal errors. -/
  | showThrow
  /-- Call, then learn the name of the session in the reply. -/
  | learnConnection
  /-- Call, then wake the plugin if the home menu hands control back. -/
  | relayParameter
  /-- Try the boot logo on removable storage first. -/
  | openLogo
  | consult (operation : Watched)
deriving DecidableEq

namespace Action

/-- The family that an action belongs to. -/
def feature : Action → Feature
  | succeed => .steadyNetwork
  | wakeApplication => .pluginWaking
  | relayParameter => .pluginWaking
  | askLanguage => .language
  | showThrow => .fatalErrors
  | learnConnection => .serviceNames
  | openLogo => .bootLogo
  | consult _ => .supervision

def describe : Action → String
  | succeed => "Synthesize"
  | wakeApplication => "WakeAppThread"
  | askLanguage => "LanguageEmulation"
  | showThrow => "ErrorThrow"
  | learnConnection => "TrackServiceSession"
  | relayParameter => "WatchAppletParameter"
  | openLogo => "RedirectLogo"
  | consult operation => Text.wrapped "Delegate" operation.label

end Action

/-- A row of the rule table. -/
structure Rule where
  header : Header
  services : List Pattern
  guard : Guard
  action : Action
deriving DecidableEq

namespace Rule

/-- Whether the rule is for a service. -/
def covers (r : Rule) (n : ServiceName) : Bool :=
  r.services.any (·.fits n)

/-- Whether the family of the rule is switched on. -/
def isOn (r : Rule) (host : Host) : Bool :=
  host.allows (FeatureSet.single r.action.feature)

/-- Whether all four tests of the rule pass. -/
def applies (r : Rule) (n : ServiceName) (w : Window) (pid : UInt32) (host : Host) : Bool :=
  r.header == w.header && r.covers n && r.guard.holds w pid host && r.isOn host

theorem applies_iff (r : Rule) {n : ServiceName} {w : Window} {pid : UInt32} {host : Host} :
    r.applies n w pid host = true ↔
      r.header = w.header ∧ r.covers n = true ∧ r.guard.holds w pid host = true ∧
        r.isOn host = true := by
  rw [applies, Bool.and_eq_true, Bool.and_eq_true, Bool.and_eq_true, beq_iff_eq, and_assoc,
    and_assoc]

end Rule

end Interception
