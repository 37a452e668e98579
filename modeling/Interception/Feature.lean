/-
Families of rules that can be switched off.

Each family has one bit.  A set of features is a word of bits; bits that belong to no family are
kept but mean nothing.
-/
import Interception.Text.Hex
import Interception.Text.Structural

namespace Interception

/-- A family of rules. -/
inductive Feature where
  /-- Region and language answers of the configuration services. -/
  | language
  /-- Handling of fatal errors. -/
  | fatalErrors
  /-- Keeping network management from pausing the network. -/
  | steadyNetwork
  /-- The boot logo from removable storage. -/
  | bootLogo
  /-- Learning names of services from connections. -/
  | serviceNames
  /-- Asking the supervisor about watched operations. -/
  | supervision
  /-- Waking the plugin and the application. -/
  | pluginWaking
deriving DecidableEq, Inhabited

namespace Feature

/-- All families, in the order of their bits. -/
def all : List Feature :=
  [language, fatalErrors, steadyNetwork, bootLogo, serviceNames, supervision,
    pluginWaking]

/-- The bit of a family. -/
def mask : Feature → UInt32
  | language => 1
  | fatalErrors => 2
  | steadyNetwork => 4
  | bootLogo => 8
  | serviceNames => 16
  | supervision => 32
  | pluginWaking => 64

/-- The name of a family, as diagnostics show it. -/
def label : Feature → String
  | language => "LANGUAGE_EMULATION"
  | fatalErrors => "ERROR_THROW_HOOK"
  | steadyNetwork => "NDM_WORKAROUND"
  | bootLogo => "LOGO_REDIRECT"
  | serviceNames => "SERVICE_TRACKING"
  | supervision => "PLUGIN_WATCH"
  | pluginWaking => "PLUGIN_EVENTS"

end Feature

/-- A set of features, as a word of bits. -/
structure FeatureSet where
  bits : UInt32
deriving DecidableEq, Inhabited

namespace FeatureSet

def all : FeatureSet := ⟨127⟩

/-- The bits that belong to a family. -/
def known (s : FeatureSet) : FeatureSet :=
  ⟨s.bits &&& all.bits⟩

/-- Whether every bit of `t` is set in `s`. -/
def contains (s t : FeatureSet) : Bool :=
  s.bits &&& t.bits == t.bits

/-- The set with the bits of `t` switched on or off. -/
def toggle (s t : FeatureSet) (on : Bool) : FeatureSet :=
  if on then ⟨s.bits ||| t.bits⟩ else ⟨s.bits &&& ~~~t.bits⟩

def single (f : Feature) : FeatureSet :=
  ⟨f.mask⟩

/-- The names of the families in the set, then the bits that belong to none as one number; a set
without bits is written as zero. -/
def describe (s : FeatureSet) : String :=
  let names := (Feature.all.filter fun f => s.contains (single f)).map (·.label)
  let rest := s.bits &&& ~~~all.bits
  let parts := if rest == 0 then names else names ++ [Text.hex rest.toNat]
  Text.wrapped "Features" (if parts.isEmpty then "0x0" else String.intercalate " | " parts)

end FeatureSet

end Interception
