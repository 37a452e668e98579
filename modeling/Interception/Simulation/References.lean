/-
References on one object, held and given back step by step.

The object starts with one reference.  A guard holds a reference; it either took it itself or was
handed one, and in both cases gives it back when it goes.
-/
import Interception.Object

namespace Interception.Simulation.References

/-- What a step asks for. -/
inductive Command where
  /-- A new guard that takes a reference. -/
  | acquire
  /-- A new guard for a reference that is already held. -/
  | adopt
  /-- A guard goes. -/
  | drop (guard : Nat)
  /-- A guard is shown. -/
  | display (guard : Nat)

inductive Change where
  | taken
  | returned
deriving DecidableEq

/-- The reference count, the number of guards, and the changes so far. -/
structure Books where
  count : Int
  guards : Nat
  changes : List Change

/-- The books of an object with one reference and no guards. -/
def Books.start : Books :=
  ⟨1, 0, []⟩

structure Report where
  count : Int
  guards : Nat
  /-- Whether a guard is shown. -/
  shown : Bool

/-- One guard goes and gives its reference back. -/
def Books.dropOne (b : Books) : Books :=
  ⟨b.count - 1, b.guards - 1, b.changes ++ [.returned]⟩

def perform (b : Books) : Command → Books
  | .acquire => ⟨b.count + 1, b.guards + 1, b.changes ++ [.taken]⟩
  | .adopt => { b with guards := b.guards + 1 }
  | .drop guard => if guard < b.guards then b.dropOne else b
  | .display _ => b

/-- Whether a step shows a guard. -/
def isShown (b : Books) : Command → Bool
  | .display guard => guard < b.guards
  | _ => false

def runSteps (b : Books) : List Command → List Report × Books
  | [] => ([], b)
  | c :: rest =>
    let after := perform b c
    let (reports, final) := runSteps after rest
    (⟨after.count, after.guards, isShown b c⟩ :: reports, final)

/-- All guards go. -/
def dropAll (b : Books) : Books :=
  b.guards.repeat (fun b => b.dropOne) b

end Interception.Simulation.References
