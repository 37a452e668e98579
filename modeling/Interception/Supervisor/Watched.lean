/-
The operations that the supervisor watches.
-/

namespace Interception

/-- An operation about which the supervisor is asked. -/
inductive Watched where
  | deleteFile
  | deleteDirectory
  | socketConnect
  | cameraCapture
deriving DecidableEq, Inhabited

namespace Watched

/-- The number of an operation on the wire. -/
def number : Watched → UInt32
  | deleteFile => 0
  | deleteDirectory => 1
  | socketConnect => 2
  | cameraCapture => 3

/-- The name of an operation, as diagnostics show it. -/
def label : Watched → String
  | deleteFile => "DeleteFile"
  | deleteDirectory => "DeleteDirectory"
  | socketConnect => "SocketConnect"
  | cameraCapture => "CameraCapture"

/-- Operations with one number are the same. -/
theorem number_injective {a b : Watched} (h : a.number = b.number) : a = b := by
  revert h
  cases a <;> cases b <;> decide

end Watched

end Interception
