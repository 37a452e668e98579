/-
Requests to the supervisor.

A watched request is encoded anew for the supervisor:

```
word 0        header (100, 2 + n, 0)
word 1        the calling process
word 2        the number of the operation
words 3 …     n arguments
```

The arguments are taken from the saved words of the caller's request; a connection also needs a
word of user memory.  A request that does not have the expected form is refused.
-/
import Interception.Memory.Span
import Interception.Supervisor.Watched
import Interception.Window.Snapshot

namespace Interception.Supervisor

/-- The name of the supervisor as a service. -/
def service : String := "plg:ldr"

/-- The number of the command that asks the supervisor. -/
def command : UInt16 := 100

/-- How many leading words of the window are saved before the request is written over them. -/
abbrev keptWords : Nat := 8

/-- The type of a path in UTF-16. -/
def utf16Path : UInt32 := 4

/-- A request to the supervisor: the operation with its arguments. -/
inductive Request where
  | deleteFile (pointer size : UInt32)
  | deleteDirectory (pointer size : UInt32)
  | socketConnect (address : UInt32)
  | cameraCapture
deriving DecidableEq

/-- Why a request is not put to the supervisor. -/
inductive Refusal where
  /-- The path is empty or not in UTF-16. -/
  | badPath
  /-- The socket address could not be read. -/
  | badAddress (fault : Fault)
deriving DecidableEq

def Refusal.message : Refusal → String
  | badPath => "unsupported path descriptor"
  | badAddress fault => s!"socket address: {fault.message}"

namespace Request

def operation : Request → Watched
  | deleteFile _ _ => .deleteFile
  | deleteDirectory _ _ => .deleteDirectory
  | socketConnect _ => .socketConnect
  | cameraCapture => .cameraCapture

/-- The arguments, in the order of their words. -/
def arguments : Request → List UInt32
  | deleteFile pointer size => [pointer, size]
  | deleteDirectory pointer size => [pointer, size]
  | socketConnect address => [address]
  | cameraCapture => []

def header (r : Request) : Header :=
  Header.make command (2 + r.arguments.length) 0

/-- The words of the request, on behalf of a process. -/
def words (r : Request) (pid : UInt32) : List UInt32 :=
  r.header.raw :: pid :: r.operation.number :: r.arguments

/-- Writes the request over the leading words of a window. -/
def write (r : Request) (pid : UInt32) (w : Window) : Window :=
  w.setAll ((r.words pid).zipIdx.map fun entry => (entry.2, entry.1))

/-- Operation and arguments, as diagnostics show them. -/
def describe (r : Request) : String :=
  let count := r.arguments.length
  let shown := r.arguments ++ List.replicate (2 - count) 0
  Text.labelled "SupervisorRequest"
    [("op", r.operation.label), ("args", Text.listed (shown.map toString)),
      ("arg_count", toString count)]

/-- Pointer and size of the path in a request to delete something: the path is in UTF-16 and
neither of them is zero. -/
def path (saved : Snapshot keptWords) : Except Refusal (UInt32 × UInt32) :=
  if saved.word 4 = utf16Path ∧ saved.word 5 ≠ 0 ∧ saved.word 7 ≠ 0 then
    .ok (saved.word 7, saved.word 5)
  else .error .badPath

/-- The address in a request to connect: the second word of the structure that the request
points to, which has to lie in the memory of applications. -/
def address {m : Type → Type} [Monad m] (fetch : Fetch m) (saved : Snapshot keptWords) :
    m (Except Refusal UInt32) :=
  match Span.check (saved.word 6 + 4) 4 Region.application with
  | .error fault => return .error (.badAddress fault)
  | .ok range => return (← range.readWord fetch).mapError .badAddress

/-- Encodes a saved request for the supervisor. -/
def encode {m : Type → Type} [Monad m] (fetch : Fetch m) (operation : Watched)
    (saved : Snapshot keptWords) : m (Except Refusal Request) :=
  match operation with
  | .deleteFile => return (path saved).map fun p => deleteFile p.1 p.2
  | .deleteDirectory => return (path saved).map fun p => deleteDirectory p.1 p.2
  | .socketConnect => return (← address fetch saved).map socketConnect
  | .cameraCapture => return .ok cameraCapture

end Request

end Interception.Supervisor
