/-
The layout of a header.

A header word has four parts: two counts, four bits that are not used, and the number of the
command.  Every bit of the word belongs to exactly one of them, and what a part holds is made up of
its own bits.  So nothing that is put into one part shows in another, and a header is known by what
its parts hold.

Making a header of the fields of another one keeps all bits but the unused ones, which are cleared.
This is all that can be lost: headers with the same fields differ in the unused bits only.

The length of a message is read from the two counts.  It may be longer than the window, and what
diagnostics show of a message ends where the window does.

* `Header.exists_part` — every bit belongs to exactly one part;
* `Header.Part.testBit_value` — what a part holds is made up of its bits;
* `Header.bit_recoded` — what becomes of a header that is made anew;
* `Window.payload_eq` — the words that diagnostics show;
* `Header.layout_exact` — the laws of headers.
-/
import Interception.Window.Basic

namespace Interception

/-! ### The payload of a message -/

namespace Window

theorem toList_words (w : Window) : w.words.toList = (List.range size).map w.word := by
  apply List.ext_getElem
  · rw [Vector.length_toList, List.length_map, List.length_range]
  · intro i inside _
    have reached : i < size := by rwa [Vector.length_toList] at inside
    rw [Vector.getElem_toList, List.getElem_map, List.getElem_range, word_of_lt w reached]

/-- How many words of a message lie in the window. -/
def reach (w : Window) : Nat :=
  min w.header.totalWords size

theorem reach_pos (w : Window) : 1 ≤ w.reach := by
  have positive := w.header.totalWords_pos
  have total : size = 64 := rfl
  unfold reach
  omega

/-- The payload are the words from the first behind the header on, as far as the message and the
window reach. -/
theorem payload_eq (w : Window) : w.payload = (List.range' 1 (w.reach - 1)).map w.word := by
  unfold payload
  rw [toList_words, ← List.map_take, List.take_range, ← List.map_drop, List.range_eq_range',
    List.drop_range']
  rfl

end Window

namespace Header

/-! ### The parts of a header -/

/-- Bit `i` of the raw word, counted from the least significant one. -/
def bit (h : Header) (i : Nat) : Bool :=
  h.raw.toNat.testBit i

/-- What a header word is divided into. -/
inductive Part where
  | translateWords
  | normalWords
  | unused
  | commandId
deriving DecidableEq

namespace Part

/-- The lowest bit of a part. -/
def low : Part → Nat
  | translateWords => 0
  | normalWords => 6
  | unused => 12
  | commandId => 16

/-- How many bits a part has. -/
def width : Part → Nat
  | translateWords | normalWords => 6
  | unused => 4
  | commandId => 16

/-- Whether a bit belongs to a part. -/
def Covers (p : Part) (i : Nat) : Prop :=
  p.low ≤ i ∧ i < p.low + p.width

instance (p : Part) (i : Nat) : Decidable (p.Covers i) :=
  inferInstanceAs (Decidable (_ ∧ _))

/-- What a part of a header holds. -/
def value (h : Header) : Part → Nat
  | translateWords => h.translateWords
  | normalWords => h.normalWords
  | unused => h.raw.toNat / 4096 % 16
  | commandId => h.commandId.toNat

/-- What the parts of a header are made of. -/
def given (id : UInt16) (normal translate : Nat) : Part → Nat
  | translateWords => translate
  | normalWords => normal
  | unused => 0
  | commandId => id.toNat

theorem value_eq (h : Header) (p : Part) :
    p.value h = h.raw.toNat >>> p.low % (1 <<< p.width) := by
  rw [Nat.shiftRight_eq_div_pow, Nat.one_shiftLeft]
  cases p with
  | translateWords =>
    show h.raw.toNat % 64 = h.raw.toNat / 1 % 64
    rw [Nat.div_one]
  | normalWords => rfl
  | unused => rfl
  | commandId =>
    show (UInt16.ofNat (h.raw.toNat / 65536)).toNat = h.raw.toNat / 65536 % 65536
    exact UInt16.toNat_ofNat'

/-- What a part holds is made up of its bits, and of no others. -/
theorem testBit_value (h : Header) (p : Part) (j : Nat) :
    (p.value h).testBit j = (decide (j < p.width) && h.bit (p.low + j)) := by
  rw [value_eq, Nat.one_shiftLeft, Nat.testBit_mod_two_pow, Nat.testBit_shiftRight, bit]

theorem value_make (id : UInt16) (normal translate : Nat) (p : Part) :
    p.value (make id normal translate) = p.given id normal translate % (1 <<< p.width) := by
  cases p with
  | translateWords => exact translateWords_make id normal translate
  | normalWords => exact normalWords_make id normal translate
  | unused =>
    show (make id normal translate).raw.toNat / 4096 % 16 = 0 % 16
    rw [toNat_raw_make]
    omega
  | commandId =>
    show (make id normal translate).commandId.toNat = id.toNat % 65536
    rw [commandId_make, Nat.mod_eq_of_lt id.toNat_lt]

/-- Two headers hold the same in a part exactly if they agree on its bits. -/
theorem value_eq_iff {h k : Header} {p : Part} :
    p.value h = p.value k ↔ ∀ i, p.Covers i → h.bit i = k.bit i := by
  constructor
  · rintro same i ⟨above, below⟩
    have split : p.low + (i - p.low) = i := by omega
    have inside : i - p.low < p.width := by omega
    have bits := congrArg (Nat.testBit · (i - p.low)) same
    simpa [testBit_value, split, inside] using bits
  · intro same
    apply Nat.eq_of_testBit_eq
    intro j
    rw [testBit_value, testBit_value]
    by_cases inside : j < p.width
    · rw [same (p.low + j) ⟨by omega, by omega⟩]
    · simp [inside]

end Part

/-- Every bit of a header belongs to exactly one part. -/
theorem exists_part {i : Nat} (inside : i < 32) : ∃ p : Part, ∀ q : Part, q.Covers i ↔ q = p := by
  have among : ∀ i < 32, ∃ p ∈ [Part.translateWords, .normalWords, .unused, .commandId],
      ∀ q ∈ [Part.translateWords, .normalWords, .unused, .commandId], q.Covers i ↔ q = p := by
    decide
  obtain ⟨p, -, only⟩ := among i inside
  exact ⟨p, fun q => only q (by cases q <;> simp)⟩

theorem bit_of_le (h : Header) {i : Nat} (past : 32 ≤ i) : h.bit i = false := by
  apply Nat.testBit_lt_two_pow
  calc h.raw.toNat < 2 ^ 32 := h.raw.toNat_lt
    _ ≤ 2 ^ i := Nat.pow_le_pow_right (by decide) past

/-! ### Headers that are made of fields -/

/-- A header that is made of a number and two counts. -/
structure Made (id : UInt16) (normal translate : Nat) (h : Header) : Prop where
  commandId : h.commandId = id
  normalWords : h.normalWords = normal % 64
  translateWords : h.translateWords = translate % 64
  unused : ∀ i, Part.unused.Covers i → h.bit i = false
  /-- The bits of a part are those of what was put into it, whatever was put into the others. -/
  bits : ∀ (p : Part) j, j < p.width → h.bit (p.low + j) = (p.given id normal translate).testBit j

theorem bit_make (id : UInt16) (normal translate : Nat) {p : Part} {j : Nat}
    (inside : j < p.width) :
    (make id normal translate).bit (p.low + j) = (p.given id normal translate).testBit j := by
  have bits := p.testBit_value (make id normal translate) j
  rw [p.value_make, Nat.one_shiftLeft, Nat.testBit_mod_two_pow] at bits
  simpa [inside] using bits.symm

theorem made_make (id : UInt16) (normal translate : Nat) :
    Made id normal translate (make id normal translate) where
  commandId := commandId_make id normal translate
  normalWords := normalWords_make id normal translate
  translateWords := translateWords_make id normal translate
  unused i covers := by
    obtain ⟨above, below⟩ := covers
    have split : Part.unused.low + (i - Part.unused.low) = i := by omega
    rw [← split, bit_make id normal translate (p := .unused) (by omega)]
    exact Nat.zero_testBit _
  bits _ _ := bit_make id normal translate

/-- The header that is made of the fields of another one. -/
def recoded (h : Header) : Header :=
  make h.commandId h.normalWords h.translateWords

/-- Headers with the same three fields. -/
structure SameFields (h k : Header) : Prop where
  commandId : h.commandId = k.commandId
  normalWords : h.normalWords = k.normalWords
  translateWords : h.translateWords = k.translateWords

variable {h k : Header}

theorem sameFields_iff_value :
    SameFields h k ↔ ∀ p : Part, p ≠ .unused → p.value h = p.value k := by
  constructor
  · rintro ⟨id, normal, translate⟩ p used
    cases p with
    | translateWords => exact translate
    | normalWords => exact normal
    | unused => exact absurd rfl used
    | commandId => exact congrArg UInt16.toNat id
  · intro same
    exact ⟨UInt16.toNat_inj.mp (same .commandId (by decide)), same .normalWords (by decide),
      same .translateWords (by decide)⟩

/-- Headers with the same fields differ in the unused bits only. -/
theorem sameFields_iff :
    SameFields h k ↔ ∀ i, i < 32 → ¬ Part.unused.Covers i → h.bit i = k.bit i := by
  rw [sameFields_iff_value]
  constructor
  · intro same i inside used
    obtain ⟨p, only⟩ := exists_part inside
    have covers : p.Covers i := (only p).mpr rfl
    have other : p ≠ .unused := by
      rintro rfl
      exact used covers
    exact Part.value_eq_iff.mp (same p other) i covers
  · intro same p other
    apply Part.value_eq_iff.mpr
    intro i covers
    by_cases inside : i < 32
    · obtain ⟨q, only⟩ := exists_part inside
      refine same i inside fun unused => other ?_
      rw [(only p).mp covers, (only .unused).mp unused]
    · rw [bit_of_le h (by omega), bit_of_le k (by omega)]

theorem sameFields_recoded (h : Header) : SameFields h.recoded h where
  commandId := commandId_make ..
  normalWords := by
    rw [recoded, normalWords_make, normalWords, Nat.mod_mod]
  translateWords := by
    rw [recoded, translateWords_make, translateWords, Nat.mod_mod]

/-- Making a header anew of its fields clears the unused bits and keeps all others. -/
theorem bit_recoded (h : Header) (i : Nat) :
    h.recoded.bit i = (h.bit i && !decide (Part.unused.Covers i)) := by
  by_cases unused : Part.unused.Covers i
  · rw [recoded, (made_make ..).unused i unused, decide_eq_true unused, Bool.not_true,
      Bool.and_false]
  · rw [decide_eq_false unused, Bool.not_false, Bool.and_true]
    by_cases inside : i < 32
    · exact sameFields_iff.mp h.sameFields_recoded i inside unused
    · rw [bit_of_le _ (by omega), bit_of_le _ (by omega)]

/-! ### Replies with a result alone -/

/-- The header of a reply with a result alone is for the same command, and declares the header and
the result. -/
structure Shortens (h reply : Header) : Prop where
  commandId : reply.commandId = h.commandId
  totalWords : reply.totalWords = 2
  idempotent : reply.resultOnly = reply

theorem shortens_resultOnly (h : Header) : Shortens h h.resultOnly where
  commandId := commandId_make ..
  totalWords := by
    rw [resultOnly, totalWords, normalWords_make, translateWords_make]
  idempotent := by
    show make (make h.commandId 1 0).commandId 1 0 = make h.commandId 1 0
    rw [commandId_make]

/-! ### The laws of headers -/

/-- What is said of a window in diagnostics, and which of its words are shown. -/
structure Shows (w : Window) : Prop where
  text : w.describe = Text.labelled "CommandBuffer" [("header", w.header.describe),
    ("payload", Text.listed ((List.range' 1 (w.reach - 1)).map fun i => toString (w.word i)))]
  payload : w.payload = (List.range' 1 (w.reach - 1)).map w.word
  /-- The words that are shown lie in the window. -/
  within : 1 ≤ w.reach ∧ w.reach ≤ Window.size

theorem shows (w : Window) : Shows w where
  text := by
    rw [Window.describe, w.payload_eq, List.map_map]
    rfl
  payload := w.payload_eq
  within := ⟨w.reach_pos, Nat.min_le_right ..⟩

/-- Every bit of a header belongs to exactly one part, and a header that is made of fields has the
bits of each field in its part.  Making it anew of its fields clears the unused bits, and headers
with the same fields differ in these alone.  A message is as long as its counts say, at most 127
words, and what is shown of it ends with the window. -/
theorem layout_exact :
    (∀ i, i < 32 → ∃ p : Part, ∀ q : Part, q.Covers i ↔ q = p) ∧
    (∀ id normal translate, Made id normal translate (make id normal translate)) ∧
    (∀ (h : Header) i, h.recoded.bit i = (h.bit i && !decide (Part.unused.Covers i))) ∧
    (∀ h k : Header,
      SameFields h k ↔ ∀ i, i < 32 → ¬ Part.unused.Covers i → h.bit i = k.bit i) ∧
    (∀ h : Header,
      h.totalWords = 1 + h.normalWords + h.translateWords ∧ h.totalWords ≤ 127) ∧
    (∀ w : Window, Shows w) ∧
    ∀ h : Header, Shortens h h.resultOnly :=
  ⟨fun _ => exists_part, made_make, bit_recoded, fun _ _ => sameFields_iff,
    fun h => ⟨rfl, h.totalWords_le⟩, shows, shortens_resultOnly⟩

/-- A header with all unused bits set has the fields of the request to open a file, and it becomes
the header of that request if it is made anew. -/
theorem openFile_recoded :
    SameFields ⟨0x0803F204⟩ (make 0x803 8 4) ∧ (make 0x803 8 4).totalWords = 13 ∧
      (⟨0x0803F204⟩ : Header).recoded.bit 15 = false := by
  obtain ⟨-, made, recoded, same, total, -⟩ := layout_exact
  obtain ⟨-, normal, translate, -⟩ := made 0x803 8 4
  refine ⟨(same _ _).mpr (by decide +kernel), ?_, ?_⟩
  · rw [(total _).1, normal, translate]
  · rw [recoded]
    decide +kernel

end Header

end Interception
