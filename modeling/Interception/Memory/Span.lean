/-
Checked ranges of user memory.

Pointers found in requests come from user code.  A range is checked before anything is read from
it: the pointer is not null, the range does not run past the top of the address space, and it
lies in the region that is allowed.  What was checked is kept in the type `Span`, and reading
never leaves it.

* `Span.check_region` — an accepted range lies in its region;
* `Span.read` and `Span.readWord` — reading at most what was checked.
-/
import Interception.Word

namespace Interception

/-- Why user memory could not be used. -/
inductive Fault where
  | null
  /-- The range is not inside the allowed region. -/
  | outside
  /-- The range runs past the top of the address space. -/
  | overflow
  /-- The kernel could not map an address of the range. -/
  | unmapped
deriving DecidableEq, Inhabited

namespace Fault

def message : Fault → String
  | null => "null pointer"
  | outside => "pointer outside allowed window"
  | overflow => "address range overflows"
  | unmapped => "address not mapped"

end Fault

/-- A half-open region of addresses. -/
structure Region where
  start : UInt32
  stop : UInt32
deriving DecidableEq

namespace Region

/-- Heap and linear memory of applications. -/
def application : Region := ⟨0x06000000, 0x08000000⟩

/-- All addresses but the last. -/
def whole : Region := ⟨0, 0xFFFFFFFF⟩

end Region

/-- How bytes of user memory are fetched: from an address, a fixed number of them. -/
abbrev Fetch (m : Type → Type) : Type :=
  UInt32 → (n : Nat) → m (Except Fault (Vector UInt8 n))

/-- A range of user memory that was checked: it does not start at null and does not run past the
top of the address space. -/
structure Span where
  start : UInt32
  length : UInt32
  start_ne_zero : start ≠ 0
  stop_lt : start.toNat + length.toNat < 4294967296
deriving DecidableEq

namespace Span

/-- Checks a range against a region.  Null is found first, then a range that does not fit into
the address space, then one that is not inside the region. -/
def check (address length : UInt32) (region : Region) : Except Fault Span :=
  -- The bounds are compared as natural numbers, where the sum cannot wrap.
  if hn : address = 0 then .error .null
  else if hs : address.toNat + length.toNat < 4294967296 then
    if region.start ≤ address ∧ address.toNat + length.toNat ≤ region.stop.toNat then
      .ok ⟨address, length, hn, hs⟩
    else .error .outside
  else .error .overflow

/-- Checks a range that may lie anywhere. -/
def checkPointer (address length : UInt32) : Except Fault Span :=
  check address length Region.whole

/-- Reads the first `n` bytes of a range; more than the range has are out of range. -/
def read {m : Type → Type} [Monad m] (fetch : Fetch m) (n : Nat) (r : Span) :
    m (Except Fault (Vector UInt8 n)) :=
  if r.length.toNat < n then pure (.error .outside) else fetch r.start n

def readWord {m : Type → Type} [Monad m] (fetch : Fetch m) (r : Span) :
    m (Except Fault UInt32) := do
  match ← r.read fetch 4 with
  | .ok bytes => return .ok (Word.ofBytes bytes)
  | .error fault => return .error fault

/-- An accepted range is the one that was asked for, and it lies in its region. -/
theorem check_region {address length : UInt32} {region : Region} {r : Span}
    (h : check address length region = .ok r) :
    r.start = address ∧ r.length = length ∧ region.start ≤ address ∧
      address.toNat + length.toNat ≤ region.stop.toNat := by
  unfold check at h
  split at h
  · cases h
  split at h
  · split at h
    · rename_i inside
      cases h
      exact ⟨rfl, rfl, inside⟩
    · cases h
  · cases h

end Span

end Interception
