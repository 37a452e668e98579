/-
Scripted replies.

A simulated kernel answers the real synchronous call by scripts.  A script belongs to a handle or
to a session and holds the replies of successive calls; the last reply repeats.
-/
import Interception.Environment
import Interception.Memory.Cells

namespace Interception.Simulation

/-- Where a request arrives: at a handle of the calling process, or at a session that was opened
for it. -/
inductive Target where
  | handle (handle : Handle)
  | session (session : SessionId)
deriving DecidableEq

structure Mapping where
  address : UInt32
  bytes : List UInt8
  writable : Bool

structure Extent where
  address : UInt32
  length : Nat

/-- What one call does. -/
structure ScriptedReply where
  /-- First, all words of the window get this value. -/
  fill : Option UInt32
  /-- Then single words are written. -/
  edits : List (Nat × UInt32)
  /-- Then user memory changes. -/
  mapped : List Mapping
  unmapped : List Extent
  guarded : List Extent
  /-- Then others change the registry. -/
  changes : List RegistryChange
  /-- Then the plugin changes its state. -/
  plugin : Option PluginPhase
  result : ResultCode

namespace ScriptedReply

/-- The reply that changes nothing and succeeds. -/
def quiet : ScriptedReply where
  fill := none
  edits := []
  mapped := []
  unmapped := []
  guarded := []
  changes := []
  plugin := none
  result := .success

def window (r : ScriptedReply) (w : Window) : Window :=
  ((r.fill.map Window.filled).getD w).setAll r.edits

def memory (r : ScriptedReply) (m : Memory) : Memory :=
  let m := r.mapped.foldl (fun m x => m.map x.address x.bytes x.writable) m
  let m := r.unmapped.foldl (fun m x => m.unmap x.address x.length) m
  r.guarded.foldl (fun m x => m.protect x.address x.length) m

end ScriptedReply

/-- The replies that are still to come at a target. -/
structure Script where
  target : Target
  replies : List ScriptedReply

/-- The next reply, and the replies after it; the last reply stays. -/
def Script.next (s : Script) : ScriptedReply × Script :=
  match s.replies with
  | [] => (.quiet, s)
  | [last] => (last, s)
  | reply :: rest => (reply, { s with replies := rest })

/-- The next reply at a target by the first script for it; without a script nothing happens. -/
def nextReply (target : Target) : List Script → ScriptedReply × List Script
  | [] => (.quiet, [])
  | s :: rest =>
    if s.target = target then
      let (reply, s) := s.next
      (reply, s :: rest)
    else
      let (reply, rest) := nextReply target rest
      (reply, s :: rest)

/-- The session that an opened handle leads to, and otherwise the handle itself. -/
def targetOf (opened : List (Handle × SessionId)) (handle : Handle) : Target :=
  match opened.find? (·.1 == handle) with
  | some entry => .session entry.2
  | none => .handle handle

end Interception.Simulation
