/-
Names of services.

A name has one to eight bytes and no NUL; requests carry it in an eight-byte field that is
filled up with NULs.  Names are compared byte for byte.

* `ServiceName.ofBytes_eq_none_iff` — only an empty field has no name;
* `ServiceName.ofBytes_bytes` — a name is read back from its own bytes.
-/
import Interception.Text.Quoted

namespace Interception

/-- The UTF-8 bytes of a text. -/
def Text.utf8 (text : String) : List UInt8 :=
  text.toUTF8.data.toList

/-- The name of a service: one to eight bytes, none of them NUL. -/
structure ServiceName where
  bytes : List UInt8
  bytes_ne_nil : bytes ≠ []
  length_le : bytes.length ≤ 8
  ne_zero : ∀ b ∈ bytes, b ≠ 0

namespace ServiceName

/-- The size of the field that carries a name. -/
abbrev maxLength : Nat := 8

@[ext]
theorem ext {n m : ServiceName} (h : n.bytes = m.bytes) : n = m := by
  obtain ⟨_, _, _, _⟩ := n
  obtain ⟨_, _, _, _⟩ := m
  cases h
  rfl

instance : DecidableEq ServiceName := fun n m =>
  if h : n.bytes = m.bytes then isTrue (ext h) else isFalse fun e => h (e ▸ rfl)

/-- The part of a field that belongs to the name: the bytes before the first NUL, of the first
eight. -/
def cut (field : List UInt8) : List UInt8 :=
  (field.take maxLength).takeWhile (· != 0)

theorem length_cut_le (field : List UInt8) : (cut field).length ≤ 8 := by
  have h : (cut field).length ≤ (field.take maxLength).length :=
    (List.takeWhile_sublist _).length_le
  rw [List.length_take] at h
  exact Nat.le_trans h (Nat.min_le_left _ _)

theorem ne_zero_of_mem_cut (field : List UInt8) : ∀ b ∈ cut field, b ≠ 0 := by
  intro b hb
  have h := List.all_takeWhile (p := (· != 0)) (l := field.take maxLength)
  rw [List.all_eq_true] at h
  exact bne_iff_ne.mp (h b hb)

/-- The name in a field of bytes, if the field is not empty. -/
def ofBytes (field : List UInt8) : Option ServiceName :=
  if h : cut field ≠ [] then
    some ⟨cut field, h, length_cut_le field, ne_zero_of_mem_cut field⟩
  else none

/-- The name written as text; none if the text has more than eight bytes. -/
def ofText (text : String) : Option ServiceName :=
  if (Text.utf8 text).length > maxLength then none else ofBytes (Text.utf8 text)

/-- The field that carries a name on the wire, filled up with NULs. -/
def field (n : ServiceName) : Vector UInt8 8 :=
  Vector.ofFn fun i => n.bytes[i.val]?.getD 0

/-- The name as text; bytes that are not UTF-8 read as the empty text. -/
def text (n : ServiceName) : String :=
  (String.fromUTF8? ⟨n.bytes.toArray⟩).getD ""

/-- The name between quotes, as diagnostics show it. -/
def describe (n : ServiceName) : String :=
  Text.quoted n.text

/-- Whether the name is exactly this text. -/
def equals (n : ServiceName) (text : String) : Bool :=
  n.bytes == Text.utf8 text

/-- Whether the name starts with this text. -/
def startsWith (n : ServiceName) (text : String) : Bool :=
  (Text.utf8 text).isPrefixOf n.bytes

/-! ### Names and their bytes -/

theorem bytes_of_ofBytes {field : List UInt8} {n : ServiceName} (h : ofBytes field = some n) :
    n.bytes = cut field := by
  unfold ofBytes at h
  split at h
  · cases h
    rfl
  · cases h

/-- A field has no name exactly when it is empty or starts with NUL. -/
theorem ofBytes_eq_none_iff (field : List UInt8) :
    ofBytes field = none ↔ field = [] ∨ field.head? = some 0 := by
  -- Whether anything is left of the field is decided by its first byte.
  have key : cut field = [] ↔ field = [] ∨ field.head? = some 0 := by
    cases field with
    | nil => simp [cut]
    | cons b rest =>
      by_cases hb : b = 0
      · simp [cut, hb]
      · simp [cut, hb]
  rw [← key, ofBytes]
  by_cases h : cut field = [] <;> simp [h]

private theorem takeWhile_ne_zero {bytes : List UInt8} (h : ∀ b ∈ bytes, b ≠ 0) :
    bytes.takeWhile (· != 0) = bytes := by
  induction bytes with
  | nil => rfl
  | cons b rest ih =>
    have hb : (b != 0) = true := bne_iff_ne.mpr (h b (by simp))
    rw [List.takeWhile_cons, if_pos hb, ih fun c hc => h c (List.mem_cons_of_mem _ hc)]

/-- The bytes of a name are all of its field. -/
theorem cut_bytes (n : ServiceName) : cut n.bytes = n.bytes := by
  rw [cut, List.take_of_length_le n.length_le]
  exact takeWhile_ne_zero n.ne_zero

/-- A name is read back from its own bytes. -/
theorem ofBytes_bytes (n : ServiceName) : ofBytes n.bytes = some n := by
  unfold ofBytes
  rw [dif_pos (by rw [cut_bytes]; exact n.bytes_ne_nil)]
  exact congrArg some (ext (cut_bytes n))

end ServiceName

end Interception
