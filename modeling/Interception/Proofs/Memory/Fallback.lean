/-
What falling back leaves in user memory.

To try the boot logo on removable storage its path is written over, and if the logo is not there the
path is put back.  The two writes do not have the same length: the new path is shorter than the
bytes that were read, and all of these are written back.  A write is done as a whole or not at all,
so the bytes behind the new path decide.  If all of them can be written, the memory is what it was.
If one of them is read-only, nothing is put back, the path of the boot logo is lost, and the request
goes on with the pointer to the new path.

* `Memory.write_map_of_writable`, `Memory.write_map_of_readOnly` — putting back what was read;
* `Engine.exists_fellBack` — the writes of a request that falls back;
* `Engine.fallback_restores_iff` — when the memory is what it was.
-/
import Interception.Proofs.Forwarding
import Interception.Proofs.Memory.Access
import Interception.Proofs.Memory.Backing
import Interception.Proofs.Sendings

namespace Interception

variable {σ : Type}

/-! ### Putting back what was read -/

namespace Memory

variable {m : Memory} {start : UInt32} {bytes : List UInt8} {n : Nat} {v : Vector UInt8 n}

/-- A byte behind a write is as it was. -/
theorem isWritable_map_behind {i : Nat} (bounded : start.toNat + n < 4294967296)
    (behind : bytes.length ≤ i) (inside : i < n) :
    (m.map start bytes true).isWritable (start + UInt32.ofNat i) =
      m.isWritable (start + UInt32.ofNat i) := by
  have address := toNat_offset inside bounded
  have outside : inRange start bytes.length (start + UInt32.ofNat i) = false := by
    rw [← Bool.not_eq_true, inRange_iff]
    omega
  rw [isWritable, isWritable, cell_map_of_inRange_eq_false outside]

/-- If the bytes behind a write can be written, putting back what was read undoes the write. -/
theorem write_map_of_writable (read : m.read start n = .ok v)
    (bounded : start.toNat + n < 4294967296) (shorter : bytes.length ≤ n)
    (writable : ∀ i, i < n → m.isWritable (start + UInt32.ofNat i) = true) :
    (m.map start bytes true).write start v.toList = .ok m := by
  have back := map_map_of_read read bounded shorter writable
  rw [write_of_writable, back]
  intro i inside
  rw [v.length_toList] at inside
  exact isWritable_map_of_isWritable (writable i inside)

/-- If a byte behind a write is read-only, nothing is put back. -/
theorem write_map_of_readOnly {i : Nat} (bounded : start.toNat + n < 4294967296)
    (behind : bytes.length ≤ i) (inside : i < n)
    (readOnly : m.isWritable (start + UInt32.ofNat i) = false) :
    (m.map start bytes true).write start v.toList = .error .unmapped := by
  rw [← isWritable_map_behind bounded behind inside] at readOnly
  refine write_of_not_writable ?_ readOnly
  rwa [v.length_toList]

/-- A write changes the memory if one of its bytes is not what was read there. -/
theorem map_ne_of_read {i : Nat} (read : m.read start n = .ok v)
    (bounded : start.toNat + n < 4294967296) (inside : i < bytes.length)
    (shorter : bytes.length ≤ n) (other : bytes[i]? ≠ v[i]?) : m.map start bytes true ≠ m := by
  intro same
  have byte := read_eq_ok_iff.mp read i (by omega)
  rw [← same, byte?, cell_map_offset inside (by omega), Option.map_some] at byte
  rw [List.getElem?_eq_getElem inside, Vector.getElem?_eq_getElem (by omega)] at other
  exact other byte

end Memory

namespace Engine

/-! ### The writes of a request that falls back -/

/-- The state in which a request for the boot logo is tried on removable storage: its path was
written over. -/
def rewritten (env : Environment σ) (handle : Handle) (w : World σ) : σ :=
  (env.writeMemory (w.window.word 12) Logo.storagePath (env.lookUp handle w.outside).2).2

/-- The accesses of a request that falls back, in their order, and the state after them. -/
structure FellBack (env : Environment σ) (handle : Handle) (w : World σ)
    (path : Vector UInt8 Logo.pathLength) (before last : σ) : Prop where
  bounded : InBounds (Logo.pointer w.window) Logo.pathLength
  read : env.readMemory (Logo.pointer w.window) Logo.pathLength w.outside = .ok path
  logo : Logo.isLogoPath path = true
  wrote : env.writeMemory (Logo.pointer w.window) Logo.storagePath w.outside = (.ok (), before)
  restored : (env.writeMemory (Logo.pointer w.window) path.toList
    (env.send handle (Logo.redirect w.window) before).2).2 = last

theorem LogoOpened.fellBack_of_fallsBack {env : Environment σ} {handle : Handle} {w : World σ}
    {outcome : Outcome} {c : Course σ} (opened : LogoOpened env handle w outcome c)
    (took : openLogo env handle w = (outcome, w.after c))
    (falls : fallsBack env handle w .openLogo = true) :
    outcome = .forward ∧ ∃ path before, FellBack env handle w path before c.outside := by
  rw [fallsBack, Bool.and_eq_true, decide_eq_true_eq, took] at falls
  obtain ⟨tried, forward⟩ := falls
  refine ⟨forward, ?_⟩
  cases opened with
  | unreadable read => simp [Logo.isTried, read.readPath_eq] at tried
  | otherFile read other => simp [Logo.isTried, read.readPath_eq, other] at tried
  | readOnly read logo wrote =>
    simp [Logo.isTried, read.readPath_eq, wrote, Except.toBool] at tried
  | served read logo wrote sent served => cases forward
  | @fellBack path _ _ before _ _ _ read logo wrote sent unserved restored =>
    obtain ⟨bounded, answered, -⟩ := read.accesses_ok
    exact ⟨path, before, bounded, answered, logo, wrote, by rw [sent, restored]⟩

/-- The file name of the boot logo starts with its first letter. -/
theorem getElem?_of_isLogoPath {path : Vector UInt8 Logo.pathLength}
    (logo : Logo.isLogoPath path = true) : path[12]? = some 0x6C := by
  have name : (path.toList.drop 12).take 5 = Logo.fileName := beq_iff_eq.mp logo
  have first : ((path.toList.drop 12).take 5)[0]? = some 0x6C := by
    rw [name]
    decide
  simpa using first

/-- What falling back leaves in user memory: `m` is the memory before and `after` the memory after,
and the path of the boot logo stands at `start`. -/
structure Restores (m : Memory) (start : UInt32) (outcome : Outcome) (after : Memory) : Prop where
  forward : outcome = .forward
  /-- The memory is what it was exactly if the bytes of the path behind the new one are writable. -/
  restored_iff : after = m ↔
    ∀ i, 15 ≤ i → i < 20 → m.isWritable (start + UInt32.ofNat i) = true
  /-- Otherwise the new path stays. -/
  otherwise : after ≠ m → after = m.map start Logo.storagePath true

theorem FellBack.restores {env : Environment σ} {memory : σ → Memory} {handle : Handle}
    {w : World σ} {path : Vector UInt8 Logo.pathLength} {before last : σ}
    (fell : FellBack env handle w path before last) (backed : env.Backed memory)
    (quiet : memory (env.send handle (Logo.redirect w.window) before).2 = memory before) :
    Restores (memory w.outside) (Logo.pointer w.window) .forward (memory last) := by
  have length : Logo.storagePath.length = 15 := by decide
  have shorter : Logo.storagePath.length ≤ Logo.pathLength := by decide
  have stop := fell.bounded.stop_lt
  have read := backed.read fell.read
  obtain ⟨writable, rewritten⟩ := backed.map_of_wrote fell.wrote
  have restored := fell.restored
  rw [rewritten] at quiet
  by_cases behind : ∀ i, 15 ≤ i → i < 20 →
      (memory w.outside).isWritable (Logo.pointer w.window + UInt32.ofNat i) = true
  · have all : ∀ i, i < 20 →
        (memory w.outside).isWritable (Logo.pointer w.window + UInt32.ofNat i) = true := by
      intro i inside
      by_cases under : i < 15
      · exact writable i (by omega)
      · exact behind i (by omega) inside
    have back : ((memory w.outside).map (Logo.pointer w.window) Logo.storagePath true).write
        (Logo.pointer w.window) path.toList = .ok (memory w.outside) :=
      Memory.write_map_of_writable read stop shorter all
    rw [← quiet] at back
    have same := (backed.wrote back).2
    rw [restored] at same
    exact ⟨rfl, iff_of_true same behind, fun changed => absurd same changed⟩
  · obtain ⟨i, above, inside, readOnly⟩ : ∃ i, 15 ≤ i ∧ i < 20 ∧
        (memory w.outside).isWritable (Logo.pointer w.window + UInt32.ofNat i) = false := by
      simpa using behind
    have failed : ((memory w.outside).map (Logo.pointer w.window) Logo.storagePath true).write
        (Logo.pointer w.window) path.toList = .error .unmapped :=
      Memory.write_map_of_readOnly stop (by omega) inside readOnly
    rw [← quiet] at failed
    have kept := (backed.unwritten failed).2
    rw [restored, quiet] at kept
    -- The file name starts at byte 12, where the new path has another letter.
    have changed : memory last ≠ memory w.outside := by
      rw [kept]
      refine Memory.map_ne_of_read (i := 12) read stop (by omega) shorter ?_
      rw [getElem?_of_isLogoPath fell.logo]
      decide
    exact ⟨rfl, iff_of_false changed behind, fun _ => kept⟩

/-! ### When the memory is what it was -/

/-- If the redirected request leaves user memory alone, a request that falls back leaves the memory
as it was exactly if the bytes of its path behind the new one are writable; otherwise the new path
stays. -/
theorem fallback_restores_iff (env : Environment σ) (memory : σ → Memory)
    (backed : env.Backed memory) (handle : Handle) (w : World σ)
    (falls : isFallingBack env handle w = true)
    (quiet : memory (env.send handle (Logo.redirect w.window) (rewritten env handle w)).2 =
      memory (rewritten env handle w)) :
    Restores (memory w.outside) (w.window.word 12) (examine env handle w).1
      (memory (examine env handle w).2.outside) := by
  cases hreached : reached env handle w with
  | none => simp [isFallingBack, hreached] at falls
  | some r =>
    obtain ⟨rule, v⟩ := r
    rw [isFallingBack, hreached, Option.any_some] at falls
    obtain ⟨_, _, -, -, -, rfl⟩ := exists_of_reached hreached
    obtain ⟨_, _, -, outcome, c, object, acted, -, hexamine⟩ := exists_acted_of_reached hreached
    dsimp only at falls
    generalize rule.action = action at acted falls
    cases acted with
    | logoOpened opened took =>
      obtain ⟨rfl, path, before, fell⟩ := opened.fellBack_of_fallsBack took falls
      have written : rewritten env handle w = before := congrArg Prod.snd fell.wrote
      rw [written] at quiet
      have restores := fell.restores backed quiet
      rw [World.outside_after, backed.lookUp] at restores
      rw [hexamine, World.outside_after, backed.release]
      exact restores
    | _ => simp [fallsBack] at falls

open Simulation Scripted

/-- A caller opens the boot logo by a path whose last five bytes are read-only, and the logo is not
on removable storage. -/
def guardedPath : Stage :=
  let reply : ScriptedReply := { ScriptedReply.quiet with
    edits := [(0, 0x08030040), (1, 0xC8804478)] }
  let opening := supervised .quiet
    [0x08030204, 0, 0x2345678A, 2, 16, 2, 20, 1, 0, 0x10002, 0x06000200, 0x14002, 0x06000100]
  let path := [1, 2, 3, 4, 5, 6, 7, 8, 9, 10, 11, 12, 0x6C, 0x6F, 0x67, 0x6F, 0, 0, 0, 0]
  { opening with
    outside := { opening.outside with
      scripts := [⟨.handle ⟨256⟩, [reply]⟩]
      memory := (Memory.empty.map 0x06000100 path false).map 0x06000100 (path.take 15) true } }

theorem guardedPath_falls : isFallingBack environment ⟨256⟩ guardedPath = true := by
  decide +kernel

/-- What is tried on removable storage leaves user memory alone. -/
theorem guardedPath_quiet :
    (environment.send ⟨256⟩ (Logo.redirect guardedPath.window)
        (rewritten environment ⟨256⟩ guardedPath)).2.memory =
      (rewritten environment ⟨256⟩ guardedPath).memory :=
  rfl

/-- The request goes on, and the new path stays in user memory. -/
theorem guardedPath_lost :
    (examine environment ⟨256⟩ guardedPath).1 = .forward ∧
      (examine environment ⟨256⟩ guardedPath).2.outside.memory =
        guardedPath.outside.memory.map 0x06000100 Logo.storagePath true := by
  have restores := fallback_restores_iff environment Kernel.memory backed ⟨256⟩ guardedPath
    guardedPath_falls guardedPath_quiet
  have readOnly : guardedPath.outside.memory.isWritable (0x06000100 + UInt32.ofNat 15) = false := by
    decide +kernel
  refine ⟨restores.forward, restores.otherwise fun same => ?_⟩
  have writable := restores.restored_iff.mp same 15 (by decide) (by decide)
  exact absurd (readOnly.symm.trans writable) (by decide)

/-- So a request that falls back may leave other bytes at the pointer to its path. -/
theorem not_peek_eq_of_isFallingBack :
    ¬ ∀ (env : Environment Kernel) (memory : Kernel → Memory), env.Backed memory →
      ∀ (handle : Handle) (w : Stage), isFallingBack env handle w = true →
        memory (env.send handle (Logo.redirect w.window) (rewritten env handle w)).2 =
            memory (rewritten env handle w) →
          (examine env handle w).1 = .forward ∧
            (memory (examine env handle w).2.outside).peek (w.window.word 12) 20 =
              (memory w.outside).peek (w.window.word 12) 20 := by
  intro restored
  obtain ⟨-, same⟩ := restored environment Kernel.memory backed ⟨256⟩ guardedPath
    guardedPath_falls guardedPath_quiet
  revert same
  decide +kernel

end Engine

end Interception
