/-
The user memory behind an environment.

An environment answers for user memory, but it says nothing of the bytes themselves.  A memory backs
it (`Environment.Backed`) if reads and writes are those of the memory: each range is read or written
as a whole or not at all, a read fails where a byte is not mapped, and a write where a byte is not
mapped or read-only.  Of all the rest only the real synchronous call may change the memory; taking
references, opening sessions and asking side features do not (`Environment.Frames`).

* `Memory.cell_map_of_inRange_eq_false` — mapping a range leaves all cells outside it alone;
* `Memory.map_map_of_read` — writing back what was read undoes any shorter write;
* `Simulation.Scripted.backed` — the simulated kernel is backed by the memory that it keeps.
-/
import Interception.Simulation.Scripted

namespace Interception

/-! ### Reading and writing cell by cell -/

namespace Memory

variable {m : Memory} {start a : UInt32} {bytes : List UInt8} {length n : Nat}

theorem inRange_iff : inRange start length a = true ↔
    start.toNat ≤ a.toNat ∧ a.toNat < start.toNat + length := by
  rw [inRange, Bool.and_eq_true, decide_eq_true_eq, decide_eq_true_eq, UInt32.le_iff_toNat_le]
  omega

theorem toNat_offset {i : Nat} (inside : i < length) (bounded : start.toNat + length < 4294967296) :
    (start + UInt32.ofNat i).toNat = start.toNat + i := by
  rw [UInt32.toNat_add, UInt32.toNat_ofNat']
  omega

/-- The addresses of a range are its start and what follows. -/
theorem exists_offset_of_inRange (inside : inRange start length a = true) :
    ∃ i, i < length ∧ a = start + UInt32.ofNat i := by
  rw [inRange_iff] at inside
  have := a.toNat_lt
  refine ⟨a.toNat - start.toNat, by omega, UInt32.toNat_inj.mp ?_⟩
  rw [UInt32.toNat_add, UInt32.toNat_ofNat']
  omega

/-- Mapping a range leaves all cells outside it alone. -/
theorem cell_map_of_inRange_eq_false {writable : Bool}
    (outside : inRange start bytes.length a = false) :
    (m.map start bytes writable).cell a = m.cell a := by
  rw [cell_map]
  by_cases above : start ≤ a
  · have past : ¬ a.toNat - start.toNat < bytes.length := by
      simpa [inRange, above] using outside
    rw [if_pos above, dif_neg past]
  · rw [if_neg above]

theorem cell_map_offset {writable : Bool} {i : Nat} (inside : i < bytes.length)
    (bounded : start.toNat + bytes.length < 4294967296) :
    (m.map start bytes writable).cell (start + UInt32.ofNat i) = some ⟨bytes[i], writable⟩ := by
  have address := toNat_offset inside bounded
  have above : start ≤ start + UInt32.ofNat i := by
    rw [UInt32.le_iff_toNat_le, address]
    omega
  have offset : (start + UInt32.ofNat i).toNat - start.toNat = i := by omega
  rw [cell_map, if_pos above, dif_pos (by omega)]
  simp only [offset]

/-- A range is read if all its bytes are mapped, and then these are what is read. -/
theorem read_eq_ok_iff {v : Vector UInt8 n} : m.read start n = .ok v ↔
    ∀ i (h : i < n), m.byte? (start + UInt32.ofNat i) = some v[i] := by
  unfold read
  split
  · rename_i mapped
    rw [Except.ok.injEq]
    constructor
    · rintro rfl i h
      simp
    · intro same
      apply Vector.ext
      intro i h
      simp [same i h]
  · rename_i unmapped
    constructor
    · intro h
      cases h
    · intro same
      refine absurd (fun i => ?_) unmapped
      rw [same i.val i.isLt, Option.isSome_some]

/-- A range is written if all its bytes are writable. -/
theorem write_of_writable
    (writable : ∀ i, i < bytes.length → m.isWritable (start + UInt32.ofNat i) = true) :
    m.write start bytes = .ok (m.map start bytes true) := by
  rw [write, if_pos]
  rw [List.all_eq_true]
  intro i mem
  exact writable i (List.mem_range.mp mem)

/-- One byte that is not writable keeps the whole range from being written. -/
theorem write_of_not_writable {i : Nat} (inside : i < bytes.length)
    (readOnly : m.isWritable (start + UInt32.ofNat i) = false) :
    m.write start bytes = .error .unmapped := by
  rw [write, if_neg]
  intro all
  have writable := List.all_eq_true.mp all i (List.mem_range.mpr inside)
  rw [readOnly] at writable
  cases writable

/-- A byte that could be written can still be written after a write. -/
theorem isWritable_map_of_isWritable (writable : m.isWritable a = true) :
    (m.map start bytes true).isWritable a = true := by
  unfold isWritable at writable ⊢
  rw [cell_map]
  split
  · split
    · rfl
    · exact writable
  · exact writable

/-- What was read from writable cells is all that there is to know of them. -/
theorem cell_of_read {v : Vector UInt8 n} (read : m.read start n = .ok v) {i : Nat} (h : i < n)
    (writable : m.isWritable (start + UInt32.ofNat i) = true) :
    m.cell (start + UInt32.ofNat i) = some ⟨v[i], true⟩ := by
  have byte := read_eq_ok_iff.mp read i h
  rw [byte?, Option.map_eq_some_iff] at byte
  obtain ⟨⟨value, _⟩, cell, rfl⟩ := byte
  rw [isWritable, cell, Option.any_some] at writable
  rw [cell, ← writable]

/-- Writing back what was read undoes any shorter write. -/
theorem map_map_of_read {v : Vector UInt8 n} (read : m.read start n = .ok v)
    (bounded : start.toNat + n < 4294967296) (shorter : bytes.length ≤ n)
    (writable : ∀ i, i < n → m.isWritable (start + UInt32.ofNat i) = true) :
    (m.map start bytes true).map start v.toList true = m := by
  have length : v.toList.length = n := v.length_toList
  have same (a : UInt32) :
      ((m.map start bytes true).map start v.toList true).cell a = m.cell a := by
    cases inside : inRange start n a with
    | true =>
      obtain ⟨i, h, rfl⟩ := exists_offset_of_inRange inside
      rw [cell_map_offset (by omega) (by omega), cell_of_read read h (writable i h)]
      simp
    | false =>
      -- What is outside the longer range is outside the shorter one too.
      have outside : inRange start bytes.length a = false := by
        rw [← Bool.not_eq_true, inRange_iff] at inside ⊢
        omega
      rw [cell_map_of_inRange_eq_false (by rw [length]; exact inside),
        cell_map_of_inRange_eq_false outside]
  obtain ⟨cell⟩ := m
  exact congrArg Memory.mk (funext same)

end Memory

/-! ### The memory of an environment -/

variable {σ : Type}

/-- What leaves user memory alone: all that an environment does but the real synchronous call, and
writing changes no cell outside the range that is written. -/
structure Environment.Frames (env : Environment σ) (memory : σ → Memory) : Prop where
  lookUp : ∀ handle s, memory (env.lookUp handle s).2 = memory s
  release : ∀ object s, memory (env.release object s) = memory s
  openSession : ∀ session s, memory (env.openSession session s).2 = memory s
  closeHandle : ∀ handle s, memory (env.closeHandle handle s) = memory s
  askLanguage : ∀ window s, memory (env.askLanguage window s).2 = memory s
  showThrow : ∀ window s, memory (env.showThrow window s).2 = memory s
  signalHome : ∀ s, memory (env.signalHome s) = memory s
  wakeApplication : ∀ s, memory (env.wakeApplication s) = memory s
  cell_writeMemory : ∀ start bytes s a, Memory.inRange start bytes.length a = false →
    (memory (env.writeMemory start bytes s).2).cell a = (memory s).cell a

/-- A memory backs an environment: what is read and written is read from it and written to it. -/
structure Environment.Backed (env : Environment σ) (memory : σ → Memory) : Prop
    extends env.Frames memory where
  read : ∀ {start n s} {bytes : Vector UInt8 n},
    env.readMemory start n s = .ok bytes → (memory s).read start n = .ok bytes
  /-- A write succeeds if all of its range is writable. -/
  wrote : ∀ {start bytes s after}, (memory s).write start bytes = .ok after →
    (env.writeMemory start bytes s).1 = .ok () ∧ memory (env.writeMemory start bytes s).2 = after
  /-- Otherwise it fails, and nothing is written. -/
  unwritten : ∀ {start bytes s fault}, (memory s).write start bytes = .error fault →
    (∃ fault', (env.writeMemory start bytes s).1 = .error fault') ∧
      memory (env.writeMemory start bytes s).2 = memory s

namespace Environment.Backed

variable {env : Environment σ} {memory : σ → Memory} {start : UInt32} {bytes : List UInt8}
  {s after : σ}

/-- What a write that succeeded has done. -/
theorem map_of_wrote (backed : env.Backed memory)
    (succeeded : env.writeMemory start bytes s = (.ok (), after)) :
    (∀ i, i < bytes.length → (memory s).isWritable (start + UInt32.ofNat i) = true) ∧
      memory after = (memory s).map start bytes true := by
  by_cases writable : ∀ i, i < bytes.length →
      (memory s).isWritable (start + UInt32.ofNat i) = true
  · have wrote := backed.wrote (Memory.write_of_writable writable)
    rw [succeeded] at wrote
    exact ⟨writable, wrote.2⟩
  · obtain ⟨i, inside, readOnly⟩ : ∃ i, i < bytes.length ∧
        (memory s).isWritable (start + UInt32.ofNat i) = false := by simpa using writable
    obtain ⟨⟨fault, failed⟩, -⟩ :=
      backed.unwritten (Memory.write_of_not_writable inside readOnly)
    rw [succeeded] at failed
    cases failed

end Environment.Backed

/-- The simulated kernel is backed by the memory that it keeps. -/
theorem Simulation.Scripted.backed : environment.Backed Kernel.memory where
  lookUp handle k := by
    unfold environment Kernel.lookUp
    dsimp only
    split <;> rfl
  release object k := rfl
  openSession session k := by
    unfold environment Kernel.openSession
    dsimp only
    split <;> rfl
  closeHandle handle k := rfl
  askLanguage window k := by
    unfold environment Kernel.askLanguage
    dsimp only
    split <;> rfl
  showThrow window k := by
    unfold environment Kernel.showThrow
    dsimp only
    split <;> rfl
  signalHome k := rfl
  wakeApplication k := rfl
  cell_writeMemory start bytes k a outside := by
    unfold environment Kernel.writeMemory
    dsimp only
    split
    · rename_i after wrote
      rw [Memory.map_of_write wrote, Memory.cell_map_of_inRange_eq_false outside]
    · rfl
  read succeeded := succeeded
  wrote wrote := by
    unfold environment Kernel.writeMemory
    simp [wrote]
  unwritten failed := by
    unfold environment Kernel.writeMemory
    simp [failed]

end Interception
