/-
Editing a message window step by step.

Snapshots are numbered in the order in which they were taken, from zero.
-/
import Interception.Window.Snapshot

namespace Interception.Simulation.WindowEditing

/-- What a step asks for. -/
inductive Command where
  | word (index : Nat)
  | set (index : Nat) (value : UInt32)
  | setHeader (header : Header)
  /-- To turn the header into that of a reply with a result alone. -/
  | replyHeader
  | header
  | bytes (start length : Nat)
  | snapshot (length : Nat)
  | snapshotWord (number index : Nat)
  | restore (number : Nat)
  | equals (other : Window)
  | describe

/-- What a step answers. -/
inductive Answer where
  | word (value : UInt32)
  | window (window : Window)
  | header (header : Header)
  | bytes (bytes : List UInt8)
  | text (text : String)
  | truth (value : Bool)
  /-- There is no snapshot of that number. -/
  | missing

/-- The window, and the snapshots that were taken of it. -/
structure Desk where
  window : Window
  snapshots : List ((n : Nat) × Snapshot n)

/-- Carries out what a step asks for. -/
def perform (d : Desk) : Command → Answer × Desk
  | .word index => (.word (d.window.word index), d)
  | .set index value =>
    let window := d.window.set index value
    (.window window, { d with window })
  | .setHeader header =>
    let window := d.window.setHeader header
    (.window window, { d with window })
  | .replyHeader =>
    let window := d.window.setHeader d.window.header.resultOnly
    (.window window, { d with window })
  | .header => (.header d.window.header, d)
  | .bytes start length => (.bytes (d.window.bytes start length).toList, d)
  | .snapshot length =>
    let taken := d.window.snapshot length
    (.text taken.describe, { d with snapshots := d.snapshots ++ [⟨length, taken⟩] })
  | .snapshotWord number index =>
    match d.snapshots[number]? with
    | some ⟨_, taken⟩ => (.word (taken.word index), d)
    | none => (.missing, d)
  | .restore number =>
    match d.snapshots[number]? with
    | some ⟨_, taken⟩ =>
      let window := d.window.restore taken
      (.window window, { d with window })
    | none => (.missing, d)
  | .equals other => (.truth (d.window == other), d)
  | .describe => (.text d.window.describe, d)

/-- Carries out steps in order. -/
def runSteps (d : Desk) : List Command → List Answer × Desk
  | [] => ([], d)
  | c :: rest =>
    let (answer, d) := perform d c
    let (answers, d) := runSteps d rest
    (answer :: answers, d)

end Interception.Simulation.WindowEditing
