/-
Names of services, their texts and their fields.

A name is known by its bytes alone.  It comes from a field of bytes, of which it is the longest part
without NUL, or from a text, and it is compared with texts by their UTF-8 bytes.  On the wire a name
stands in two words of a request, filled up with NULs or ended by one.  All of these agree: whatever
way a name takes, the same name comes back.

* `ServiceName.ofBytes_eq_some_iff` — which name a field of bytes has;
* `Text.zero_mem_utf8_iff` — only the character NUL has a byte that is NUL;
* `Window.bytes_of_holds` — the bytes that two words hold are read from them;
* `ServiceName.names_canonical` — the laws of names.
-/
import Interception.ServiceName
import Interception.Window.Basic

namespace Interception

/-! ### The bytes of texts -/

namespace Text

theorem utf8_eq_flatMap (s : String) : utf8 s = s.toList.flatMap String.utf8EncodeChar := by
  rw [utf8, String.toUTF8_eq_toByteArray]
  conv => lhs; rw [← String.ofList_toList (s := s)]
  rw [String.toByteArray_ofList, List.utf8Encode, List.data_toByteArray]

private theorem ofNat_ne_zero {v : Nat} (low : 0 < v) (high : v < 256) : UInt8.ofNat v ≠ 0 := by
  intro zero
  have same := congrArg UInt8.toNat zero
  rw [UInt8.toNat_ofNat', UInt8.toNat_zero] at same
  omega

/-- A character has no byte that is NUL, unless it is NUL itself. -/
theorem ne_zero_of_mem_utf8EncodeChar {c : Char} (positive : 0 < c.val.toNat) {b : UInt8}
    (mem : b ∈ String.utf8EncodeChar c) : b ≠ 0 := by
  unfold String.utf8EncodeChar at mem
  dsimp only at mem
  split at mem
  · rw [List.mem_singleton.mp mem]
    exact ofNat_ne_zero positive (by omega)
  -- All bytes of a longer encoding are marked as parts of one.
  · split at mem
    · simp only [List.mem_cons, List.not_mem_nil, or_false] at mem
      rcases mem with rfl | rfl
      all_goals exact ofNat_ne_zero (by omega) (by omega)
    · split at mem
      · simp only [List.mem_cons, List.not_mem_nil, or_false] at mem
        rcases mem with rfl | rfl | rfl
        all_goals exact ofNat_ne_zero (by omega) (by omega)
      · simp only [List.mem_cons, List.not_mem_nil, or_false] at mem
        rcases mem with rfl | rfl | rfl | rfl
        all_goals exact ofNat_ne_zero (by omega) (by omega)

theorem zero_mem_utf8EncodeChar_iff {c : Char} : 0 ∈ String.utf8EncodeChar c ↔ c = '\x00' := by
  constructor
  · intro zero
    have null : c.val.toNat = 0 := by
      rcases Nat.eq_zero_or_pos c.val.toNat with null | positive
      · exact null
      · exact absurd rfl (ne_zero_of_mem_utf8EncodeChar positive zero)
    exact Char.ext (UInt32.toNat_inj.mp null)
  · rintro rfl
    decide

/-- Only the character NUL has a byte that is NUL. -/
theorem zero_mem_utf8_iff {s : String} : 0 ∈ utf8 s ↔ '\x00' ∈ s.toList := by
  rw [utf8_eq_flatMap, List.mem_flatMap]
  constructor
  · rintro ⟨c, mem, zero⟩
    rwa [zero_mem_utf8EncodeChar_iff.mp zero] at mem
  · intro mem
    exact ⟨_, mem, zero_mem_utf8EncodeChar_iff.mpr rfl⟩

theorem utf8_append (s t : String) : utf8 (s ++ t) = utf8 s ++ utf8 t := by
  rw [utf8_eq_flatMap, utf8_eq_flatMap, utf8_eq_flatMap, String.toList_append,
    List.flatMap_append]

end Text

/-! ### Words that hold bytes -/

namespace Window

/-- Whether the two words from `start` on hold eight bytes, least significant byte first. -/
structure Holds (w : Window) (start : Nat) (b : Vector UInt8 8) : Prop where
  first : (w.word start).toNat = Word.littleEndian (b.toList.take 4)
  second : (w.word (start + 1)).toNat = Word.littleEndian (b.toList.drop 4)

/-- The bytes that two words hold are read from them. -/
theorem bytes_of_holds {w : Window} {start : Nat} {b : Vector UInt8 8} (holds : w.Holds start b) :
    w.bytes start 8 = b := by
  have first : w.word start = Word.ofBytes (b.take 4) := by
    rw [Word.eq_ofBytes_iff, Vector.toList_take]
    exact holds.first
  have second : w.word (start + 1) = Word.ofBytes (b.drop 4) := by
    rw [Word.eq_ofBytes_iff, Vector.toList_drop]
    exact holds.second
  apply Vector.ext
  intro j inside
  rw [getElem_bytes]
  by_cases low : j < 4
  · have quotient : j / 4 = 0 := by omega
    have rest : j % 4 = j := by omega
    rw [quotient, rest, Nat.add_zero, first, Word.byte_ofBytes _ j low, Vector.getElem_take]
  · have quotient : j / 4 = 1 := by omega
    have rest : 4 + j % 4 = j := by omega
    rw [quotient, second, Word.byte_ofBytes _ _ (Nat.mod_lt _ (by decide)), Vector.getElem_drop]
    simp only [rest]

end Window

namespace ServiceName

variable {raw : List UInt8} {n m : ServiceName}

/-! ### Names and fields of bytes -/

/-- The longest part without NUL at the start of a field, as far as the field can hold a name. -/
structure Longest (raw bytes : List UInt8) : Prop where
  start : bytes <+: raw.take 8
  nulFree : ∀ b ∈ bytes, b ≠ 0
  longest : ∀ other, other <+: raw.take 8 → (∀ b ∈ other, b ≠ 0) → other.length ≤ bytes.length

theorem longest_cut (raw : List UInt8) : Longest raw (cut raw) where
  start := List.takeWhile_prefix _
  nulFree := ne_zero_of_mem_cut raw
  longest other start nulFree := by
    obtain ⟨rest, split⟩ := start
    have all : ∀ b ∈ other, (b != 0) = true := fun b mem => bne_iff_ne.mpr (nulFree b mem)
    rw [cut, maxLength, ← split, List.takeWhile_append_of_pos all, List.length_append]
    omega

theorem Longest.unique {bytes other : List UInt8} (longest : Longest raw bytes)
    (longest' : Longest raw other) : bytes = other := by
  have shorter := longest'.longest bytes longest.start longest.nulFree
  have longer := longest.longest other longest'.start longest'.nulFree
  have within := List.prefix_of_prefix_length_le longest.start longest'.start shorter
  exact within.eq_of_length (by omega)

/-- The name of a field is its longest part without NUL. -/
theorem ofBytes_eq_some_iff : ofBytes raw = some n ↔ Longest raw n.bytes := by
  constructor
  · intro named
    rw [bytes_of_ofBytes named]
    exact longest_cut raw
  · intro longest
    have same : cut raw = n.bytes := (longest_cut raw).unique longest
    rw [ofBytes, dif_pos (by rw [same]; exact n.bytes_ne_nil)]
    exact congrArg some (ext same)

/-- A name that is ended by a NUL is read back, whatever stands behind it. -/
theorem ofBytes_terminated (n : ServiceName) (rest : List UInt8) :
    ofBytes (n.bytes ++ 0 :: rest) = some n := by
  have all : ∀ b ∈ n.bytes, (b != 0) = true := fun b mem => bne_iff_ne.mpr (n.ne_zero b mem)
  have same : cut (n.bytes ++ 0 :: rest) = n.bytes := by
    rw [cut, List.take_append, List.take_of_length_le n.length_le,
      List.takeWhile_append_of_pos all]
    cases maxLength - n.bytes.length <;> simp
  have longest := longest_cut (n.bytes ++ 0 :: rest)
  rw [same] at longest
  exact ofBytes_eq_some_iff.mpr longest

/-- The bytes of a name, filled up with NULs to eight. -/
def padded (n : ServiceName) : List UInt8 :=
  n.bytes ++ List.replicate (8 - n.bytes.length) 0

theorem ofBytes_padded (n : ServiceName) : ofBytes n.padded = some n := by
  rw [padded]
  cases 8 - n.bytes.length with
  | zero => rw [List.replicate_zero, List.append_nil, ofBytes_bytes]
  | succ k => exact n.ofBytes_terminated _

theorem toList_field (n : ServiceName) : n.field.toList = n.padded := by
  have length := n.length_le
  apply List.ext_getElem
  · rw [Vector.length_toList, padded, List.length_append, List.length_replicate]
    omega
  · intro i _ _
    simp only [field, Vector.getElem_toList, Vector.getElem_ofFn, padded, List.getElem_append,
      List.getElem_replicate]
    by_cases inside : i < n.bytes.length
    · simp [inside]
    · simp [inside]

/-- Names are the same if their padded fields and their lengths are, and that is so if their bytes
are the same. -/
theorem field_eq_and_length_eq_iff :
    n.field = m.field ∧ n.bytes.length = m.bytes.length ↔ n.bytes = m.bytes := by
  constructor
  · rintro ⟨field, length⟩
    have padded : n.padded = m.padded := by rw [← toList_field, ← toList_field, field]
    exact List.append_inj_left padded length
  · intro same
    rw [ext same]
    exact ⟨rfl, rfl⟩

/-! ### Names and texts -/

theorem equals_iff {s : String} : n.equals s = true ↔ n.bytes = Text.utf8 s :=
  beq_iff_eq

theorem startsWith_iff {s : String} : n.startsWith s = true ↔ Text.utf8 s <+: n.bytes :=
  List.isPrefixOf_iff_prefix

/-- A text that a name is equal to is a way of writing that name. -/
theorem ofText_of_equals {s : String} (equal : n.equals s = true) : ofText s = some n := by
  have length := n.length_le
  have same := equals_iff.mp equal
  rw [ofText, ← same, if_neg (Nat.not_lt.mpr length), ofBytes_bytes]

/-- A name that is written as a text without NUL is equal to that text. -/
theorem equals_of_ofText {s : String} (written : ofText s = some n) (nulFree : '\x00' ∉ s.toList) :
    n.equals s = true := by
  rw [ofText] at written
  split at written
  · cases written
  · rename_i short
    have longest := ofBytes_eq_some_iff.mp written
    have whole : Longest (Text.utf8 s) (Text.utf8 s) := by
      refine ⟨?_, ?_, fun other start _ => ?_⟩
      · simp only [List.take_of_length_le (Nat.not_lt.mp short), List.prefix_rfl]
      · rintro b mem rfl
        exact nulFree (Text.zero_mem_utf8_iff.mp mem)
      · exact Nat.le_trans start.length_le (List.length_take_le' ..)
    exact equals_iff.mpr (longest.unique whole)

/-- A name that is equal to a text starts with every part at the start of the text. -/
theorem startsWith_of_equals_append {s t : String} (equal : n.equals (s ++ t) = true) :
    n.startsWith s = true := by
  rw [startsWith_iff, equals_iff.mp equal, Text.utf8_append]
  exact List.prefix_append ..

/-! ### The laws of names -/

/-- What holds of every name. -/
structure Lawful (n : ServiceName) : Prop where
  readBack : ofBytes n.bytes = some n
  equals_iff : ∀ s, n.equals s = true ↔ n.bytes = Text.utf8 s
  written_of_equal : ∀ s, n.equals s = true → ofText s = some n
  equal_of_written : ∀ s, ofText s = some n → '\x00' ∉ s.toList → n.equals s = true
  startsWith_iff : ∀ s, n.startsWith s = true ↔ Text.utf8 s <+: n.bytes
  startsWith_of_equal : ∀ s t, n.equals (s ++ t) = true → n.startsWith s = true
  /-- Whoever finds the name in two words, filled up with NULs, reads it from them. -/
  padded : ∀ (w : Window) start b, w.Holds start b → b.toList = n.padded →
    ofBytes (w.bytes start 8).toList = some n
  /-- So does whoever finds it there with one NUL behind it and anything else behind that. -/
  terminated : ∀ (w : Window) start b rest, w.Holds start b → b.toList = n.bytes ++ 0 :: rest →
    ofBytes (w.bytes start 8).toList = some n

theorem lawful (n : ServiceName) : Lawful n where
  readBack := n.ofBytes_bytes
  equals_iff _ := equals_iff
  written_of_equal _ := ofText_of_equals
  equal_of_written _ := equals_of_ofText
  startsWith_iff _ := startsWith_iff
  startsWith_of_equal _ _ := startsWith_of_equals_append
  padded w start b holds filled := by
    rw [Window.bytes_of_holds holds, filled]
    exact n.ofBytes_padded
  terminated w start b rest holds ended := by
    rw [Window.bytes_of_holds holds, ended]
    exact n.ofBytes_terminated rest

/-- Only an empty field and one that starts with NUL have no name; the name of any other is its
longest part without NUL.  Names are the same if their bytes are, and that is if their padded fields
and their lengths are.  Every name is read back from its bytes, from its texts and from two words
that hold it. -/
theorem names_canonical :
    (∀ raw, ofBytes raw = none ↔ raw = [] ∨ raw.head? = some 0) ∧
    (∀ raw n, ofBytes raw = some n ↔ Longest raw n.bytes) ∧
    (∀ n m : ServiceName, n = m ↔ n.bytes = m.bytes) ∧
    (∀ n m : ServiceName,
      n.field = m.field ∧ n.bytes.length = m.bytes.length ↔ n.bytes = m.bytes) ∧
    ∀ n, Lawful n :=
  ⟨ofBytes_eq_none_iff, fun _ _ => ofBytes_eq_some_iff, fun _ _ => ⟨congrArg bytes, ext⟩,
    fun _ _ => field_eq_and_length_eq_iff, lawful⟩

/-- A request that asks the service manager for the process manager. -/
theorem processManager_read :
    ∃ n : ServiceName, n.equals "srv:pm" = true ∧
      ofBytes ((Window.ofList [0x00050100, 0x3A767273, 0x00006D70]).bytes 1 8).toList =
        some n := by
  let n : ServiceName :=
    ⟨[0x73, 0x72, 0x76, 0x3A, 0x70, 0x6D], by simp, by simp, by simp⟩
  obtain ⟨-, -, -, -, lawful⟩ := names_canonical
  have holds : (Window.ofList [0x00050100, 0x3A767273, 0x00006D70]).Holds 1
      #v[0x73, 0x72, 0x76, 0x3A, 0x70, 0x6D, 0, 0] := ⟨by decide +kernel, by decide +kernel⟩
  exact ⟨n, ((lawful n).equals_iff _).mpr (by decide +kernel), (lawful n).padded _ 1 _ holds rfl⟩

end ServiceName

end Interception
