/-
User memory, byte by byte.

Each address is either unmapped or a cell that can be read, and written unless it is read-only.
A range is read or written as a whole or not at all.

* `Memory.cell_map` — mapping a range changes the cells of that range and no other;
* `Memory.map_of_write` — a write that succeeds stores the bytes, one that fails changes nothing.
-/
import Interception.Memory.Span

namespace Interception

structure Cell where
  value : UInt8
  writable : Bool
deriving DecidableEq

/-- The mapped bytes of a process. -/
structure Memory where
  cell : UInt32 → Option Cell

namespace Memory

def empty : Memory :=
  ⟨fun _ => none⟩

instance : Inhabited Memory := ⟨empty⟩

/-- Maps bytes from an address on. -/
def map (m : Memory) (address : UInt32) (bytes : List UInt8) (writable : Bool) : Memory :=
  -- An array, so that looking an address up does not walk along the bytes.
  let stored := bytes.toArray
  ⟨fun a =>
    if address ≤ a then
      match stored[a.toNat - address.toNat]? with
      | some value => some ⟨value, writable⟩
      | none => m.cell a
    else m.cell a⟩

/-- Whether an address is one of `length` addresses from a start on. -/
def inRange (start : UInt32) (length : Nat) (a : UInt32) : Bool :=
  start ≤ a && a.toNat - start.toNat < length

def unmap (m : Memory) (address : UInt32) (length : Nat) : Memory :=
  ⟨fun a => if inRange address length a then none else m.cell a⟩

/-- Makes the mapped bytes of a range read-only. -/
def protect (m : Memory) (address : UInt32) (length : Nat) : Memory :=
  ⟨fun a =>
    if inRange address length a then (m.cell a).map fun c => { c with writable := false }
    else m.cell a⟩

/-- The byte at an address, if it is mapped. -/
def byte? (m : Memory) (a : UInt32) : Option UInt8 :=
  (m.cell a).map (·.value)

/-- The bytes from an address on, where they are mapped. -/
def peek (m : Memory) (address : UInt32) (length : Nat) : List (Option UInt8) :=
  (List.range length).map fun i => m.byte? (address + UInt32.ofNat i)

/-- Reads a range; it has to be mapped. -/
def read (m : Memory) (address : UInt32) (n : Nat) : Except Fault (Vector UInt8 n) :=
  if h : ∀ i : Fin n, (m.byte? (address + UInt32.ofNat i.val)).isSome then
    .ok (Vector.ofFn fun i => (m.byte? (address + UInt32.ofNat i.val)).get (h i))
  else .error .unmapped

/-- Whether the byte at an address can be written. -/
def isWritable (m : Memory) (a : UInt32) : Bool :=
  (m.cell a).any (·.writable)

/-- Writes a range; all of it has to be mapped and writable. -/
def write (m : Memory) (address : UInt32) (bytes : List UInt8) : Except Fault Memory :=
  if (List.range bytes.length).all fun i => m.isWritable (address + UInt32.ofNat i) then
    .ok (m.map address bytes true)
  else .error .unmapped

/-- Mapping a range changes the cells of that range and no other. -/
theorem cell_map (m : Memory) (address : UInt32) (bytes : List UInt8) (writable : Bool)
    (a : UInt32) :
    (m.map address bytes writable).cell a =
      if address ≤ a then
        if h : a.toNat - address.toNat < bytes.length then
          some ⟨bytes[a.toNat - address.toNat], writable⟩
        else m.cell a
      else m.cell a := by
  by_cases ha : address ≤ a
  · by_cases hl : a.toNat - address.toNat < bytes.length
    · simp [map, ha, hl]
    · simp [map, ha, hl]
  · simp [map, ha]

/-- A write that succeeds stores the bytes in writable cells. -/
theorem map_of_write {m after : Memory} {address : UInt32} {bytes : List UInt8}
    (h : m.write address bytes = .ok after) : after = m.map address bytes true := by
  unfold write at h
  split at h
  · cases h
    rfl
  · cases h

end Memory

end Interception
