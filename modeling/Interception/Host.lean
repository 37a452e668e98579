/-
The state of the host that rules depend on.

At boot nothing has started, there are no boot modules, the version is zero and all features are
on.  The network milestone is one-way: no operation takes it back.
-/
import Interception.Feature
import Interception.Version

namespace Interception

/-- What rules ask about the host. -/
structure Host where
  /-- Network functions have started at least once. -/
  networkStarted : Bool
  /-- How many processes belong to the system itself. -/
  bootModules : UInt32
  version : Version
  /-- The features as they were set, bits without a meaning included. -/
  stored : FeatureSet
deriving DecidableEq

namespace Host

def boot : Host where
  networkStarted := false
  bootModules := 0
  version := ⟨0⟩
  stored := FeatureSet.all

instance : Inhabited Host := ⟨boot⟩

/-- Records the number of boot modules and the running kernel. -/
def configure (h : Host) (bootModules : UInt32) (version : Version) : Host :=
  { h with bootModules, version }

/-- Records that network functions have started. -/
def startNetwork (h : Host) : Host :=
  { h with networkStarted := true }

def withFeatures (h : Host) (features : FeatureSet) : Host :=
  { h with stored := features }

def toggle (h : Host) (features : FeatureSet) (on : Bool) : Host :=
  { h with stored := h.stored.toggle features on }

/-- The features that are on, without bits that mean nothing. -/
def features (h : Host) : FeatureSet :=
  h.stored.known

/-- Whether all of these features are on. -/
def allows (h : Host) (features : FeatureSet) : Bool :=
  h.features.contains features

/-- Whether a process was started after boot. -/
def isApplication (h : Host) (pid : UInt32) : Bool :=
  h.bootModules ≤ pid

/-- All parts of the state, as diagnostics show them. -/
def describe (h : Host) : String :=
  Text.labelled "HostState"
    [("network_funcs_started", Text.truth h.networkStarted),
      ("boot_module_count", toString h.bootModules),
      ("kernel_version", toString h.version.raw),
      ("features", toString h.stored.bits)]

end Host

end Interception
