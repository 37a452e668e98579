/-
Undoing what was written to a window, and reading it as bytes.

A snapshot covers the words that it was taken of, as far as the window reaches.  Putting it back
forgets whatever these words have become in the meantime, so that a write to one of them makes no
difference to what comes out, and a write past the window makes no difference at all.  Therefore any
number of such writes is undone by putting one snapshot back.

The bytes of a window are those of its words, one word after the other and each with its least
significant byte first.  Past the window there are only zeros, and the last word may be read in
part.

* `Window.restore_snapshot_eq_iff` — when putting a snapshot back brings back the whole window;
* `Window.restore_perform` — a write that a snapshot covers makes no difference to restoring it;
* `Window.restore_performAll` — nor do any number of them;
* `Window.take_drop_bytes` — the bytes of a window are those of its words;
* `Window.snapshots_undo` — the laws of snapshots and of bytes.
-/
import Interception.Window.Snapshot

namespace Interception

namespace Window

/-! ### Writing to a window -/

/-- A write to a window: of one of its words, or of its header. -/
inductive Write where
  | word (i : Nat) (v : UInt32)
  | header (h : Header)

namespace Write

/-- The word that is written. -/
def index : Write → Nat
  | word i _ => i
  | header _ => 0

/-- What is written there. -/
def value : Write → UInt32
  | word _ v => v
  | header h => h.raw

def perform (w : Window) : Write → Window
  | word i v => w.set i v
  | header h => w.setHeader h

/-- Whether a snapshot of `n` words makes up for a write: it covers the word that is written, or no
word is written since the index lies past the window. -/
def IsCovered (n : Nat) (x : Write) : Prop :=
  x.index < n ∨ size ≤ x.index

instance (n : Nat) (x : Write) : Decidable (x.IsCovered n) :=
  inferInstanceAs (Decidable (_ ∨ _))

theorem perform_eq_set (w : Window) (x : Write) : x.perform w = w.set x.index x.value := by
  cases x with
  | word i v => rfl
  | header h => rfl

end Write

/-- Performs writes, one after the other. -/
def performAll (w : Window) (writes : List Write) : Window :=
  writes.foldl Write.perform w

/-! ### Putting snapshots back -/

/-- A snapshot of one window, put back into another, brings back the words that it covers and leaves
the others alone. -/
theorem word_restore_snapshot_eq (b c : Window) (n i : Nat) :
    (c.restore (b.snapshot n)).word i = if i < min n size then b.word i else c.word i := by
  rw [word_restore, word_snapshot]
  by_cases covered : i < n ∧ i < size
  · rw [if_pos covered, if_pos covered.1, if_pos (by omega)]
  · rw [if_neg covered, if_neg (by omega)]

/-- A snapshot holds the words of the window, and zeros past the end of either. -/
theorem word_snapshot_eq (b : Window) (n i : Nat) :
    (b.snapshot n).word i = if i < min n size then b.word i else 0 := by
  rw [word_snapshot]
  by_cases inside : i < size
  · by_cases covered : i < n
    · rw [if_pos covered, if_pos (by omega)]
    · rw [if_neg covered, if_neg (by omega)]
  · rw [word_of_le b (by omega), ite_self, ite_self]

/-- Putting a snapshot back brings back the words that it covers. -/
theorem word_restore_snapshot (v w : Window) {n i : Nat} (covered : i < n) (inside : i < size) :
    (v.restore (w.snapshot n)).word i = w.word i := by
  rw [word_restore_snapshot_eq, if_pos (by omega)]

/-- The words behind a snapshot stay as they are. -/
theorem word_restore_of_le {n : Nat} (w : Window) (s : Snapshot n) {i : Nat} (behind : n ≤ i) :
    (w.restore s).word i = w.word i := by
  rw [word_restore, if_neg (by omega)]

/-- Putting a snapshot back brings back the whole window exactly if nothing behind the snapshot has
changed. -/
theorem restore_snapshot_eq_iff (v w : Window) (n : Nat) :
    v.restore (w.snapshot n) = w ↔ ∀ i, n ≤ i → i < size → v.word i = w.word i := by
  constructor
  · intro same i above inside
    rw [← word_restore_of_le v (w.snapshot n) above, same]
  · intro same
    apply ext_of_lt
    intro i inside
    by_cases covered : i < n
    · exact word_restore_snapshot v w covered inside
    · have above : n ≤ i := Nat.not_lt.mp covered
      rw [word_restore_of_le v _ above]
      exact same i above inside

variable {n : Nat}

/-- A write that a snapshot makes up for makes no difference to what putting it back gives. -/
theorem restore_perform (w : Window) (s : Snapshot n) {x : Write} (covered : x.IsCovered n) :
    (x.perform w).restore s = w.restore s := by
  apply ext_of_lt
  intro i inside
  by_cases below : i < n
  · rw [word_restore, word_restore, if_pos ⟨below, inside⟩, if_pos ⟨below, inside⟩]
  -- The word is not put back, so that it must be another one than was written.
  · have above : n ≤ i := Nat.not_lt.mp below
    have other : ¬(x.index = i ∧ x.index < size) := by
      rintro ⟨rfl, reached⟩
      rcases covered with low | past
      · exact below low
      · exact Nat.not_lt.mpr past reached
    rw [word_restore_of_le _ s above, word_restore_of_le w s above, x.perform_eq_set, word_set,
      if_neg other]

/-- Nor do any number of such writes. -/
theorem restore_performAll (w : Window) (s : Snapshot n) {writes : List Write}
    (covered : ∀ x ∈ writes, x.IsCovered n) : (w.performAll writes).restore s = w.restore s := by
  induction writes generalizing w with
  | nil => rfl
  | cons x rest ih =>
    show ((x.perform w).performAll rest).restore s = w.restore s
    rw [ih (x.perform w) fun y mem => covered y (List.mem_cons_of_mem x mem)]
    exact restore_perform w s (covered x List.mem_cons_self)

/-- Putting a snapshot back twice is the same as once. -/
theorem restore_restore (w : Window) (s : Snapshot n) : (w.restore s).restore s = w.restore s := by
  apply ext_word
  intro i
  rw [word_restore, word_restore]
  by_cases covered : i < n ∧ i < size
  · rw [if_pos covered, if_pos covered]
  · rw [if_neg covered, if_neg covered]

/-! ### Reading bytes -/

/-- Four bytes in a row, read from where a word begins, are the bytes of that word. -/
theorem take_drop_bytes (w : Window) {start n k : Nat} (inside : 4 * k + 4 ≤ n) :
    ((w.bytes start n).toList.drop (4 * k)).take 4 = (Word.bytes (w.word (start + k))).toList := by
  apply List.ext_getElem
  · rw [List.length_take, List.length_drop, Vector.length_toList, Vector.length_toList]
    omega
  · intro j _ four
    rw [Vector.length_toList] at four
    have quotient : (4 * k + j) / 4 = k := by omega
    have rest : (4 * k + j) % 4 = j := by omega
    rw [List.getElem_take, List.getElem_drop, Vector.getElem_toList, getElem_bytes, quotient, rest]
    simp [Word.bytes]

/-- How the bytes that are read from a window stand to its words. -/
structure Reads (w : Window) (start n : Nat) : Prop where
  /-- Byte `j` is a byte of word `start + j / 4`, the least significant one first. -/
  byte : ∀ j (h : j < n), (w.bytes start n)[j].toNat =
    (w.word (start + j / 4)).toNat >>> (8 * (j % 4)) % 256
  past : ∀ j (h : j < n), size ≤ start + j / 4 → (w.bytes start n)[j] = 0
  /-- Bytes that were read of a whole word make up its number. -/
  whole : ∀ k, 4 * k + 4 ≤ n →
    Word.littleEndian (((w.bytes start n).toList.drop (4 * k)).take 4) = (w.word (start + k)).toNat

theorem reads (w : Window) (start n : Nat) : Reads w start n where
  byte j h := by rw [getElem_bytes, Word.toNat_byte]
  past j h past := by
    rw [getElem_bytes, word_of_le w past]
    apply UInt8.toNat_inj.mp
    rw [Word.toNat_byte, UInt32.toNat_zero, Nat.zero_shiftRight]
    rfl
  whole k inside := by
    rw [take_drop_bytes w inside, ← Word.eq_ofBytes_iff.mp (Word.ofBytes_bytes _).symm]

/-! ### The laws of windows -/

/-- A snapshot holds the words that it covers, and putting it back brings back these and no others.
So it undoes all that was written to them, and all that was written past the window; putting it back
once more changes nothing.  The bytes of a window are those of its words, and zeros past its end. -/
theorem snapshots_undo :
    (∀ (b c : Window) (n i : Nat),
      (c.restore (b.snapshot n)).word i = if i < min n size then b.word i else c.word i) ∧
    (∀ (b : Window) (n i : Nat),
      (b.snapshot n).word i = if i < min n size then b.word i else 0) ∧
    (∀ (b : Window) (n : Nat) (writes : List Write), (∀ x ∈ writes, x.IsCovered n) →
      (b.performAll writes).restore (b.snapshot n) = b) ∧
    (∀ (c : Window) (n : Nat) (s : Snapshot n), (c.restore s).restore s = c.restore s) ∧
    ∀ (w : Window) (start n : Nat), Reads w start n := by
  refine ⟨word_restore_snapshot_eq, word_snapshot_eq, ?_, ?_, reads⟩
  · intro b n writes covered
    rw [restore_performAll b (b.snapshot n) covered, restore_snapshot]
  · intro c n s
    exact restore_restore c s

/-- A request to open a file, of thirteen words. -/
def openFile : Window :=
  ofList [0x08030204, 0, 9, 2, 16, 2, 20, 1, 0, 65538, 4096, 81922, 8192]

/-- A snapshot of thirteen words brings the request back after its header and its last word have
changed and something was written past the window. -/
theorem openFile_undone :
    openFile.performAll [.header ⟨0x08030040⟩, .word 12 0, .word 64 7] ≠ openFile ∧
      (openFile.performAll [.header ⟨0x08030040⟩, .word 12 0, .word 64 7]).restore
        (openFile.snapshot 13) = openFile := by
  obtain ⟨-, -, undone, -⟩ := snapshots_undo
  exact ⟨by decide +kernel, undone openFile 13 _ (by decide)⟩

end Window

end Interception
