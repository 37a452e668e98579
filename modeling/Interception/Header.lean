/-
The header word of a message.

```
 31            16 15      12 11             6 5                0
+----------------+----------+----------------+------------------+
|   command id   |  unused  |  normal words  |  translate words |
+----------------+----------+----------------+------------------+
```

A header is kept as its raw word, so that the four unused bits survive reading and writing.

* `Header.commandId_make`, `Header.normalWords_make`, `Header.translateWords_make` — the fields
  of a header are those it was made of, counts taken modulo 64;
* `Header.totalWords_le` — a message never declares more than 127 words.
-/
import Interception.Text.Hex

namespace Interception

/-- The first word of every request and reply. -/
structure Header where
  raw : UInt32
deriving DecidableEq, Inhabited

namespace Header

/-- The header with the given fields.  A count keeps its low six bits only. -/
def make (id : UInt16) (normal translate : Nat) : Header :=
  ⟨UInt32.ofNat (65536 * id.toNat + 64 * (normal % 64) + translate % 64)⟩

/-- The number of the command. -/
def commandId (h : Header) : UInt16 :=
  UInt16.ofNat (h.raw.toNat / 65536)

/-- How many plain parameter words follow the header. -/
def normalWords (h : Header) : Nat :=
  h.raw.toNat / 64 % 64

/-- How many descriptor words follow the plain ones. -/
def translateWords (h : Header) : Nat :=
  h.raw.toNat % 64

/-- The length of the message in words, the header included. -/
def totalWords (h : Header) : Nat :=
  1 + h.normalWords + h.translateWords

/-- The header of a reply that carries a result word and nothing else. -/
def resultOnly (h : Header) : Header :=
  make h.commandId 1 0

/-- The raw word and its fields, as diagnostics show them. -/
def describe (h : Header) : String :=
  let id := Text.hex h.commandId.toNat
  s!"Header({Text.hexPadded 8 h.raw.toNat}: id={id}, normal={h.normalWords}, " ++
    s!"translate={h.translateWords})"

/-! ### The fields of a header -/

theorem toNat_raw_make (id : UInt16) (normal translate : Nat) :
    (make id normal translate).raw.toNat =
      65536 * id.toNat + 64 * (normal % 64) + translate % 64 := by
  have h := id.toNat_lt
  simp only [make, UInt32.toNat_ofNat']
  omega

@[simp]
theorem commandId_make (id : UInt16) (normal translate : Nat) :
    (make id normal translate).commandId = id := by
  apply UInt16.toNat_inj.mp
  have h := id.toNat_lt
  -- Both counts together stay below 65536, so the division leaves the number alone.
  simp only [commandId, toNat_raw_make, UInt16.toNat_ofNat']
  omega

@[simp]
theorem normalWords_make (id : UInt16) (normal translate : Nat) :
    (make id normal translate).normalWords = normal % 64 := by
  simp only [normalWords, toNat_raw_make]
  omega

@[simp]
theorem translateWords_make (id : UInt16) (normal translate : Nat) :
    (make id normal translate).translateWords = translate % 64 := by
  simp only [translateWords, toNat_raw_make]
  omega

theorem totalWords_pos (h : Header) : 0 < h.totalWords := by
  simp only [totalWords]
  omega

theorem totalWords_le (h : Header) : h.totalWords ≤ 127 := by
  simp only [totalWords, normalWords, translateWords]
  omega

end Header

end Interception
