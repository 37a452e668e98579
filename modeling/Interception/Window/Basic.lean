/-
The message window of a thread: sixty-four words that hold a request before a synchronous call
and its reply afterwards.

Every index may be asked for: words past the window read as zero and are never written.  The
view of a window is `Window.word`, and a window is determined by it (`Window.ext_word`).

* `Window.word_set` — writing a word changes that word and no other;
* `Window.getElem_bytes` — the bytes read from a word on are the bytes of the words.
-/
import Interception.Header
import Interception.Word
import Interception.Text.Structural

namespace Interception

/-- How many words a message window has. -/
abbrev Window.size : Nat := 64

/-- The sixty-four words through which a thread sends requests and receives replies. -/
structure Window where
  words : Vector UInt32 Window.size
deriving DecidableEq

namespace Window

def empty : Window :=
  ⟨Vector.replicate size 0⟩

instance : Inhabited Window := ⟨empty⟩

/-- Word `i`; past the window every word is zero. -/
def word (w : Window) (i : Nat) : UInt32 :=
  w.words[i]?.getD 0

/-- Writes word `i`; past the window nothing is written. -/
def set (w : Window) (i : Nat) (v : UInt32) : Window :=
  ⟨w.words.setIfInBounds i v⟩

/-- The window that starts with the given words and goes on with zeros; words that do not fit
are left out. -/
def ofList (words : List UInt32) : Window :=
  ⟨Vector.ofFn fun i => words[i.val]?.getD 0⟩

def filled (v : UInt32) : Window :=
  ⟨Vector.replicate size v⟩

/-- Writes several words, one after the other. -/
def setAll (w : Window) (edits : List (Nat × UInt32)) : Window :=
  edits.foldl (fun w edit => w.set edit.1 edit.2) w

def header (w : Window) : Header :=
  ⟨w.word 0⟩

def setHeader (w : Window) (h : Header) : Window :=
  w.set 0 h.raw

/-- Reads `n` bytes from word `start` on, each word least significant byte first: four bytes of a
word at a time, and of the last word as many as are left. -/
def bytesFrom (w : Window) (start : Nat) : Nat → List UInt8
  | n + 4 => (Word.bytes (w.word start)).toList ++ w.bytesFrom (start + 1) n
  | n => (Word.bytes (w.word start)).toList.take n

theorem length_bytesFrom (w : Window) (start n : Nat) : (w.bytesFrom start n).length = n := by
  fun_induction bytesFrom w start n with
  | case1 start n ih => rw [List.length_append, Vector.length_toList, ih, Nat.add_comm]
  | case2 start n last =>
    have few : n < 4 := Nat.lt_of_not_le fun four => last (n - 4) (Nat.sub_add_cancel four).symm
    rw [List.length_take, Vector.length_toList, Nat.min_eq_left (Nat.le_of_lt few)]

/-- The first `n` bytes of the words from `start` on. -/
def bytes (w : Window) (start n : Nat) : Vector UInt8 n :=
  ⟨(w.bytesFrom start n).toArray, w.length_bytesFrom start n⟩

/-- The words after the header that the header declares, as far as the window reaches. -/
def payload (w : Window) : List UInt32 :=
  (w.words.toList.take w.header.totalWords).drop 1

/-- Header and payload, as diagnostics show them. -/
def describe (w : Window) : String :=
  Text.labelled "CommandBuffer"
    [("header", w.header.describe), ("payload", Text.listed (w.payload.map toString))]

/-! ### The words of a window -/

theorem word_of_lt (w : Window) {i : Nat} (h : i < size) : w.word i = w.words[i] := by
  simp [word, h]

theorem word_of_le (w : Window) {i : Nat} (h : size ≤ i) : w.word i = 0 := by
  simp [word, Nat.not_lt.mpr h]

/-- A window is determined by its words. -/
theorem ext_word {w v : Window} (h : ∀ i, w.word i = v.word i) : w = v := by
  obtain ⟨ws⟩ := w
  obtain ⟨vs⟩ := v
  congr
  apply Vector.ext
  intro i hi
  have := h i
  rwa [word_of_lt _ hi, word_of_lt _ hi] at this

/-- Two windows that agree inside the window are equal. -/
theorem ext_of_lt {w v : Window} (h : ∀ i, i < size → w.word i = v.word i) : w = v := by
  apply ext_word
  intro i
  by_cases hi : i < size
  · exact h i hi
  · rw [word_of_le w (Nat.not_lt.mp hi), word_of_le v (Nat.not_lt.mp hi)]

/-- Writing a word changes that word and no other. -/
theorem word_set (w : Window) (i j : Nat) (v : UInt32) :
    (w.set i v).word j = if i = j ∧ i < size then v else w.word j := by
  by_cases hj : j < size
  · rw [word_of_lt _ hj, word_of_lt _ hj]
    simp only [set, Vector.getElem_setIfInBounds]
    by_cases hij : i = j
    · subst hij
      simp [hj]
    · simp [hij]
  -- Past the window both sides are zero.
  · have hj' := Nat.not_lt.mp hj
    rw [word_of_le _ hj', word_of_le _ hj', if_neg]
    rintro ⟨rfl, h⟩
    exact hj h

@[simp]
theorem header_setHeader (w : Window) (h : Header) : (w.setHeader h).header = h := by
  simp [header, setHeader, word_set]

/-! ### The bytes of the words -/

theorem getElem?_bytesFrom (w : Window) (start : Nat) {n j : Nat} (hj : j < n) :
    (w.bytesFrom start n)[j]? = some (Word.byte (w.word (start + j / 4)) (j % 4)) := by
  -- Induction along the reading: byte `j` is one of the first word read, or byte `j - 4` of what
  -- is read from the next word on.
  fun_induction bytesFrom w start n generalizing j with
  | case1 start n ih =>
    by_cases first : j < 4
    · rw [List.getElem?_append_left (by simpa using first), Word.getElem?_bytes _ first,
        Nat.div_eq_of_lt first, Nat.mod_eq_of_lt first, Nat.add_zero]
    · obtain ⟨k, rfl⟩ := Nat.exists_eq_add_of_le' (Nat.not_lt.mp first)
      have next : start + 1 + k / 4 = start + (k + 4) / 4 := by omega
      rw [List.getElem?_append_right (by simp), Vector.length_toList, Nat.add_sub_cancel,
        ih (Nat.lt_of_add_lt_add_right hj), next, Nat.add_mod_right]
  | case2 start n last =>
    have few : n < 4 := Nat.lt_of_not_le fun four => last (n - 4) (Nat.sub_add_cancel four).symm
    have first : j < 4 := Nat.lt_trans hj few
    rw [List.getElem?_take_of_lt hj, Word.getElem?_bytes _ first,
      Nat.div_eq_of_lt first, Nat.mod_eq_of_lt first, Nat.add_zero]

/-- Byte `j` of what is read from word `start` on is a byte of word `start + j / 4`. -/
theorem getElem_bytes (w : Window) (start n j : Nat) (hj : j < n) :
    (w.bytes start n)[j] = Word.byte (w.word (start + j / 4)) (j % 4) := by
  have read := getElem?_bytesFrom w start hj
  rw [List.getElem?_eq_some_iff] at read
  obtain ⟨_, read⟩ := read
  exact read

end Window

end Interception
