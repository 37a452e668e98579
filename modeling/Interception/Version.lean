/-
Kernel versions.

A version is a word: the major number in its highest byte, then the minor number, then the
revision; the lowest byte is not used.
-/
import Interception.Text.Structural

namespace Interception

/-- The version of the running kernel. -/
structure Version where
  raw : UInt32
deriving DecidableEq, Inhabited

namespace Version

/-- The version with the given numbers. -/
def make (major minor revision : UInt8) : Version :=
  ⟨UInt32.ofNat (16777216 * major.toNat + 65536 * minor.toNat + 256 * revision.toNat)⟩

/-- The highest byte. -/
def major (v : Version) : Nat :=
  v.raw.toNat / 16777216

/-- The second byte. -/
def minor (v : Version) : Nat :=
  v.raw.toNat / 65536 % 256

/-- The third byte. -/
def revision (v : Version) : Nat :=
  v.raw.toNat / 256 % 256

/-- The raw word, as diagnostics show it. -/
def describe (v : Version) : String :=
  Text.wrapped "KernelVersion" (toString v.raw)

private theorem toNat_raw_make_version (major minor revision : UInt8) :
    (make major minor revision).raw.toNat =
      16777216 * major.toNat + 65536 * minor.toNat + 256 * revision.toNat := by
  have h₁ := major.toNat_lt
  have h₂ := minor.toNat_lt
  have h₃ := revision.toNat_lt
  simp only [make, UInt32.toNat_ofNat']
  omega

@[simp]
theorem major_make (major minor revision : UInt8) :
    (make major minor revision).major = major.toNat := by
  have h₂ := minor.toNat_lt
  have h₃ := revision.toNat_lt
  simp only [Version.major, toNat_raw_make_version]
  omega

@[simp]
theorem minor_make (major minor revision : UInt8) :
    (make major minor revision).minor = minor.toNat := by
  have h₂ := minor.toNat_lt
  have h₃ := revision.toNat_lt
  simp only [Version.minor, toNat_raw_make_version]
  omega

@[simp]
theorem revision_make (major minor revision : UInt8) :
    (make major minor revision).revision = revision.toNat := by
  have h₃ := revision.toNat_lt
  simp only [Version.revision, toNat_raw_make_version]
  omega

end Version

end Interception
