/-
Result codes of the synchronous call.

A code is a signed word: zero or above means success, below zero means failure.
-/
import Interception.Text.Hex
import Interception.Text.Structural

namespace Interception

/-- What a synchronous call returns to its caller. -/
structure ResultCode where
  raw : Int32
deriving DecidableEq, Inhabited

namespace ResultCode

def success : ResultCode := ⟨0⟩

/-- A code that is not negative. -/
def isSuccess (r : ResultCode) : Bool :=
  0 ≤ r.raw

/-- A negative code. -/
def isFailure (r : ResultCode) : Bool :=
  r.raw < 0

/-- The code as an unsigned word. -/
def word (r : ResultCode) : UInt32 :=
  r.raw.toUInt32

/-- The code as eight hexadecimal digits, as messages quote it. -/
def text (r : ResultCode) : String :=
  Text.hexPadded 8 r.word.toNat

/-- The code as a signed number, as diagnostics show it. -/
def describe (r : ResultCode) : String :=
  Text.wrapped "ResultCode" (toString r.raw.toInt)

/-- A code fails exactly when it does not succeed. -/
theorem isFailure_eq_not_isSuccess (r : ResultCode) : r.isFailure = !r.isSuccess := by
  simp only [isFailure, isSuccess, Int32.lt_iff_toInt_lt, Int32.le_iff_toInt_le, ← decide_not,
    Int.not_le]

end ResultCode

end Interception
