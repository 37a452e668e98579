/-
Words and their bytes.

A word has 32 bits and four bytes, least significant first.  The main statement is that a word
is determined by its bytes:

* `Word.ofBytes_bytes` — the four bytes of a word make up that word;
* `Word.byte_ofBytes` — four bytes made into a word are read back from it.
-/

namespace Interception.Word

/-- Byte `j` of a word, least significant first; from the fifth on all bytes are zero. -/
def byte (w : UInt32) (j : Nat) : UInt8 :=
  UInt8.ofNat (w.toNat >>> (8 * j))

/-- The four bytes of a word. -/
def bytes (w : UInt32) : Vector UInt8 4 :=
  Vector.ofFn fun j => byte w j

theorem getElem?_bytes (w : UInt32) {j : Nat} (hj : j < 4) :
    (bytes w).toList[j]? = some (byte w j) := by
  simp [bytes, hj]

/-- The word with the given bytes. -/
def ofBytes (b : Vector UInt8 4) : UInt32 :=
  UInt32.ofNat (b[0].toNat + 256 * b[1].toNat + 65536 * b[2].toNat + 16777216 * b[3].toNat)

theorem toNat_byte (w : UInt32) (j : Nat) : (byte w j).toNat = w.toNat >>> (8 * j) % 256 := by
  simp [byte]

theorem toNat_ofBytes (b : Vector UInt8 4) :
    (ofBytes b).toNat =
      b[0].toNat + 256 * b[1].toNat + 65536 * b[2].toNat + 16777216 * b[3].toNat := by
  have h0 := b[0].toNat_lt
  have h1 := b[1].toNat_lt
  have h2 := b[2].toNat_lt
  have h3 := b[3].toNat_lt
  simp only [ofBytes, UInt32.toNat_ofNat']
  omega

/-- The number that some bytes make up, least significant byte first. -/
def littleEndian (bytes : List UInt8) : Nat :=
  bytes.foldr (fun b n => b.toNat + 256 * n) 0

theorem toNat_ofBytes_eq (b : Vector UInt8 4) : (ofBytes b).toNat = littleEndian b.toList := by
  obtain ⟨⟨bytes⟩, four⟩ := b
  match bytes, four with
  | [b₀, b₁, b₂, b₃], _ =>
    rw [toNat_ofBytes]
    simp only [Vector.getElem_mk, List.getElem_toArray, List.getElem_cons_zero,
      List.getElem_cons_succ, Vector.toList_mk, littleEndian, List.foldr_cons, List.foldr_nil]
    omega

/-- A word is made of those four bytes that make up its number. -/
theorem eq_ofBytes_iff {w : UInt32} {b : Vector UInt8 4} :
    w = ofBytes b ↔ w.toNat = littleEndian b.toList := by
  rw [← toNat_ofBytes_eq, UInt32.toNat_inj]

/-- A word is made up of its four bytes. -/
theorem ofBytes_bytes (w : UInt32) : ofBytes (bytes w) = w := by
  apply UInt32.toNat_inj.mp
  have h := w.toNat_lt
  -- The bytes are the digits of the word in base 256, and four digits are enough for 32 bits.
  simp only [toNat_ofBytes, bytes, Vector.getElem_ofFn, toNat_byte]
  omega

/-- The bytes of a word are those it was made of. -/
theorem byte_ofBytes (b : Vector UInt8 4) (j : Nat) (hj : j < 4) : byte (ofBytes b) j = b[j] := by
  apply UInt8.toNat_inj.mp
  have h0 := b[0].toNat_lt
  have h1 := b[1].toNat_lt
  have h2 := b[2].toNat_lt
  have h3 := b[3].toNat_lt
  rw [toNat_byte, toNat_ofBytes]
  match j, hj with
  | 0, _ => omega
  | 1, _ => omega
  | 2, _ => omega
  | 3, _ => omega

end Interception.Word
