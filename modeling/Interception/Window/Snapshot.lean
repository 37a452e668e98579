/-
Copies of the leading words of a message window.

A snapshot of `n` words is taken before a request is changed and put back if the change did not
help.

* `Window.word_restore` — restoring brings back the copied words and leaves the others alone;
* `Window.restore_snapshot` — a window is unchanged by restoring its own snapshot.
-/
import Interception.Window.Basic

namespace Interception

/-- The first `n` words of a window; words past the window were copied as zeros. -/
structure Snapshot (n : Nat) where
  words : Vector UInt32 n
deriving DecidableEq

namespace Snapshot

/-- Word `i` of the copy; past the copy every word is zero. -/
def word {n : Nat} (s : Snapshot n) (i : Nat) : UInt32 :=
  s.words[i]?.getD 0

/-- The copied words, as diagnostics show them. -/
def describe {n : Nat} (s : Snapshot n) : String :=
  Text.labelled "WordSnapshot" [("words", Text.listed (s.words.toList.map toString))]

end Snapshot

namespace Window

/-- A copy of the first `n` words. -/
def snapshot (w : Window) (n : Nat) : Snapshot n :=
  ⟨Vector.ofFn fun i => w.word i.val⟩

/-- Puts the words of a snapshot back. -/
def restore {n : Nat} (w : Window) (s : Snapshot n) : Window :=
  ⟨Vector.ofFn fun i => if h : i.val < n then s.words[i.val] else w.words[i.val]⟩

/-- A snapshot of `n` words holds the words of the window below `n`. -/
@[simp]
theorem word_snapshot (w : Window) (n i : Nat) :
    (w.snapshot n).word i = if i < n then w.word i else 0 := by
  by_cases h : i < n <;> simp [snapshot, Snapshot.word, h]

/-- Restoring changes the words that the snapshot covers and no other. -/
theorem word_restore {n : Nat} (w : Window) (s : Snapshot n) (i : Nat) :
    (w.restore s).word i = if i < n ∧ i < size then s.word i else w.word i := by
  by_cases hi : i < size
  · rw [word_of_lt _ hi, word_of_lt _ hi]
    by_cases hn : i < n <;> simp [restore, Snapshot.word, hi, hn]
  · rw [word_of_le _ (Nat.not_lt.mp hi), word_of_le _ (Nat.not_lt.mp hi), if_neg]
    rintro ⟨_, h⟩
    exact hi h

/-- A window is unchanged by restoring its own snapshot. -/
theorem restore_snapshot (w : Window) (n : Nat) : w.restore (w.snapshot n) = w := by
  apply ext_word
  intro i
  rw [word_restore, word_snapshot]
  by_cases hn : i < n
  · simp [hn]
  · simp [hn]

end Window

end Interception
