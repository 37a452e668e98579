/-
Exactly which ranges of user memory are accepted, and what is read of them.

A range is accepted if it passes three checks: it does not start at null, it does not run past the
last address, and it lies in its region.  If it fails, the error names the first check that it has
failed.  All bounds are those of natural numbers, so that nothing wraps around; a region may be
empty or turned round, and then it accepts nothing.

What was accepted stays with the range.  Whoever reads no more than its length reads inside the
region, and whoever asks for more is refused before memory is touched.

* `Span.check_eq_ok_iff` and `Span.check_eq_error_iff` — the ranges that are accepted and the
  errors of all others;
* `Span.read_course` — what reading the first bytes of a range does;
* `Span.check_exact` — the checks, and all reads of a range that they have accepted.
-/
import Interception.Proofs.Memory.Access
import Interception.Proofs.Memory.Backing
import Interception.Simulation.Scenario

namespace Interception

variable {σ : Type}

namespace Span

/-! ### Which ranges are accepted -/

/-- A range that passes all checks for a region. -/
structure Accepted (address length : UInt32) (region : Region) : Prop where
  start_ne_zero : address ≠ 0
  stop_le : address.toNat + length.toNat ≤ 4294967295
  region_start_le : region.start.toNat ≤ address.toNat
  stop_le_region_stop : address.toNat + length.toNat ≤ region.stop.toNat

/-- A range that fails a check for a region, with the error of the first check that it fails. -/
inductive Rejected (address length : UInt32) (region : Region) : Fault → Prop where
  | null (start : address = 0) : Rejected address length region .null
  | overflow (start : address ≠ 0) (past : 4294967295 < address.toNat + length.toNat) :
      Rejected address length region .overflow
  | outside (start : address ≠ 0) (stop : address.toNat + length.toNat ≤ 4294967295)
      (outside : address.toNat < region.start.toNat ∨
        region.stop.toNat < address.toNat + length.toNat) :
      Rejected address length region .outside

variable {address length : UInt32} {region : Region} {r : Span} {fault : Fault}

/-- A range that passes all checks is accepted as it is. -/
theorem check_of_accepted (accepted : Accepted address length region) :
    ∃ r, check address length region = .ok r ∧ r.start = address ∧ r.length = length := by
  have stop := accepted.stop_le
  have above : region.start ≤ address := UInt32.le_iff_toNat_le.mpr accepted.region_start_le
  rw [check, dif_neg accepted.start_ne_zero, dif_pos (by omega),
    if_pos ⟨above, accepted.stop_le_region_stop⟩]
  exact ⟨_, rfl, rfl, rfl⟩

theorem check_of_rejected (rejected : Rejected address length region fault) :
    check address length region = .error fault := by
  cases rejected with
  | null start => rw [check, dif_pos start]
  | overflow start past => rw [check, dif_neg start, dif_neg (by omega)]
  | outside start stop outside =>
    rw [check, dif_neg start, dif_pos (by omega), if_neg]
    rw [UInt32.le_iff_toNat_le]
    omega

/-- A range passes all checks, or there is a first one that it fails. -/
theorem accepted_or_rejected (address length : UInt32) (region : Region) :
    Accepted address length region ∨ ∃ fault, Rejected address length region fault := by
  by_cases start : address = 0
  · exact .inr ⟨_, .null start⟩
  by_cases stop : address.toNat + length.toNat ≤ 4294967295
  · by_cases outside : address.toNat < region.start.toNat ∨
        region.stop.toNat < address.toNat + length.toNat
    · exact .inr ⟨_, .outside start stop outside⟩
    · exact .inl ⟨start, stop, by omega, by omega⟩
  · exact .inr ⟨_, .overflow start (by omega)⟩

/-- A range is determined by where it starts and how long it is. -/
theorem eq_of_start_of_length {r s : Span} (start : r.start = s.start)
    (length : r.length = s.length) : r = s := by
  obtain ⟨_, _, _, _⟩ := r
  obtain ⟨_, _, _, _⟩ := s
  cases start
  cases length
  rfl

theorem check_eq_ok_iff : check address length region = .ok r ↔
    Accepted address length region ∧ r.start = address ∧ r.length = length := by
  constructor
  · intro passed
    obtain ⟨start, extent, -, -⟩ := check_region passed
    rcases accepted_or_rejected address length region with accepted | ⟨fault, rejected⟩
    · exact ⟨accepted, start, extent⟩
    · rw [check_of_rejected rejected] at passed
      cases passed
  · rintro ⟨accepted, start, extent⟩
    obtain ⟨s, passed, start', extent'⟩ := check_of_accepted accepted
    rw [passed, eq_of_start_of_length (start'.trans start.symm) (extent'.trans extent.symm)]

theorem check_eq_error_iff :
    check address length region = .error fault ↔ Rejected address length region fault := by
  refine ⟨fun failed => ?_, check_of_rejected⟩
  rcases accepted_or_rejected address length region with accepted | ⟨fault', rejected⟩
  · obtain ⟨s, passed, -⟩ := check_of_accepted accepted
    rw [failed] at passed
    cases passed
  · rw [check_of_rejected rejected] at failed
    cases failed
    exact rejected

/-- A pointer is accepted wherever it lies, if it is not null and its range ends in time. -/
theorem accepted_whole_iff : Accepted address length Region.whole ↔
    address ≠ 0 ∧ address.toNat + length.toNat ≤ 4294967295 :=
  ⟨fun accepted => ⟨accepted.start_ne_zero, accepted.stop_le⟩,
    fun ⟨start, stop⟩ => ⟨start, stop, Nat.zero_le _, stop⟩⟩

/-! ### What is read of them -/

section Reading

open Engine

/-- Reading the first bytes of a range is one access, or none if the range is too short. -/
theorem read_course (env : Environment σ) (r : Span) (n : Nat) (w : World σ) :
    r.read (readMemory env) n w =
      if r.length.toNat < n then (.error .outside, w)
      else (env.readMemory r.start n w.outside, w.after ⟨w.registry, w.window, w.outside,
        [.read r.start n (env.readMemory r.start n w.outside).toBool]⟩) := by
  unfold Span.read
  split
  · rfl
  · rfl

/-- A word is made up of the first four bytes of a range. -/
theorem readWord_course (env : Environment σ) (r : Span) (w : World σ) :
    r.readWord (readMemory env) w =
      ((r.read (readMemory env) 4 w).1.map Word.ofBytes, (r.read (readMemory env) 4 w).2) := by
  rw [readWord, bind_apply]
  cases (r.read (readMemory env) 4 w).1 with
  | ok bytes => rfl
  | error fault => rfl

/-- What reading the first `n` bytes of a range does, given the region in which the range lies and
the state of the environment: the answer, and the accesses of user memory. -/
structure Reads (env : Environment σ) (s : σ) (region : Region) (r : Span) (n : Nat)
    (answer : Except Fault (Vector UInt8 n)) (accesses : List Access) : Prop where
  /-- If the range has as many bytes, memory is asked once. -/
  asked : n ≤ r.length.toNat → answer = env.readMemory r.start n s ∧
    accesses = [.read r.start n answer.toBool]
  /-- Otherwise memory is not touched. -/
  refused : r.length.toNat < n → answer = .error .outside ∧ accesses = []
  /-- Every address that is read lies in the region, and none has wrapped around. -/
  within : ∀ x ∈ accesses, ∀ i, i < x.length →
    (x.start + UInt32.ofNat i).toNat = x.start.toNat + i ∧
      region.start.toNat ≤ x.start.toNat + i ∧ x.start.toNat + i < region.stop.toNat
  /-- What is read are the bytes of memory, from the start of the range on. -/
  bytes : ∀ memory : σ → Memory, env.Backed memory → ∀ v, answer = .ok v →
    ∀ i (h : i < n), (memory s).byte? (r.start + UInt32.ofNat i) = some v[i]

/-- Bytes that were read as a word, least significant byte first; a fault stays what it is. -/
inductive MakesUp : Except Fault (Vector UInt8 4) → Except Fault UInt32 → Prop where
  | word {bytes : Vector UInt8 4} {v : UInt32}
      (value : v.toNat = Word.littleEndian bytes.toList) : MakesUp (.ok bytes) (.ok v)
  | fault {fault : Fault} : MakesUp (.error fault) (.error fault)

theorem makesUp_ofBytes (answer : Except Fault (Vector UInt8 4)) :
    MakesUp answer (answer.map Word.ofBytes) := by
  cases answer with
  | ok bytes => exact .word (Word.toNat_ofBytes_eq bytes)
  | error fault => exact .fault

/-- Whoever reads no more than was accepted reads inside the region. -/
theorem within_of_accepted {n i : Nat} (accepted : Accepted r.start r.length region)
    (enough : n ≤ r.length.toNat) (inside : i < n) :
    (r.start + UInt32.ofNat i).toNat = r.start.toNat + i ∧
      region.start.toNat ≤ r.start.toNat + i ∧ r.start.toNat + i < region.stop.toNat := by
  have stop := accepted.stop_le
  have above := accepted.region_start_le
  have below := accepted.stop_le_region_stop
  exact ⟨Memory.toNat_offset inside (by omega), by omega, by omega⟩

theorem exists_reads (env : Environment σ) (w : World σ) (n : Nat)
    (accepted : Accepted r.start r.length region) :
    ∃ t, (r.read (readMemory env) n w).2 = w.after ⟨w.registry, w.window, w.outside, t⟩ ∧
      Reads env w.outside region r n (r.read (readMemory env) n w).1 t.accesses := by
  rw [read_course]
  by_cases short : r.length.toNat < n
  · rw [if_pos short]
    refine ⟨[], (World.after_nothing w).symm, fun enough => ?_, fun _ => ⟨rfl, rfl⟩, ?_, ?_⟩
    · omega
    · intro x mem
      cases mem
    · intro memory backed v answered
      cases answered
  · rw [if_neg short]
    refine ⟨_, rfl, fun _ => ⟨rfl, rfl⟩, fun short' => absurd short' short, ?_, ?_⟩
    · intro x mem i inside
      rw [List.mem_singleton.mp mem] at inside ⊢
      exact within_of_accepted accepted (Nat.not_lt.mp short) inside
    · intro memory backed v answered
      exact Memory.read_eq_ok_iff.mp (backed.read answered)

/-- A range is accepted exactly if it passes all three checks, and the error is that of the first
one that it fails.  Of a range that is accepted no more than its length can be read, all of that
lies in the region, and what is read are the bytes that stand there. -/
theorem check_exact (address length : UInt32) (region : Region) :
    ((∃ r, check address length region = .ok r) ↔ Accepted address length region) ∧
    (∀ fault, check address length region = .error fault ↔
      Rejected address length region fault) ∧
    ((∃ r, checkPointer address length = .ok r) ↔
      address ≠ 0 ∧ address.toNat + length.toNat ≤ 4294967295) ∧
    ∀ r, check address length region = .ok r → r.start = address ∧ r.length = length ∧
      ∀ {σ : Type} (env : Environment σ) (w : World σ),
        (∀ n, ∃ t, (r.read (readMemory env) n w).2 =
            w.after ⟨w.registry, w.window, w.outside, t⟩ ∧
          Reads env w.outside region r n (r.read (readMemory env) n w).1 t.accesses) ∧
        ∃ answer t, (r.readWord (readMemory env) w).2 =
            w.after ⟨w.registry, w.window, w.outside, t⟩ ∧
          Reads env w.outside region r 4 answer t.accesses ∧
          MakesUp answer (r.readWord (readMemory env) w).1 := by
  have accepts (region : Region) :
      (∃ r, check address length region = .ok r) ↔ Accepted address length region := by
    constructor
    · rintro ⟨r, passed⟩
      exact (check_eq_ok_iff.mp passed).1
    · intro accepted
      obtain ⟨r, passed, -⟩ := check_of_accepted accepted
      exact ⟨r, passed⟩
  refine ⟨accepts region, fun fault => check_eq_error_iff,
    (accepts Region.whole).trans accepted_whole_iff, fun r passed => ?_⟩
  obtain ⟨accepted, rfl, rfl⟩ := check_eq_ok_iff.mp passed
  refine ⟨rfl, rfl, fun env w => ⟨fun n => exists_reads env w n accepted, ?_⟩⟩
  obtain ⟨t, left, reads⟩ := exists_reads env w 4 accepted
  rw [readWord_course]
  exact ⟨_, t, left, reads, makesUp_ofBytes _⟩

end Reading

open Simulation Scripted

/-- A process that has mapped the last word of the memory of applications, and nothing else. -/
def lastWord : Stage :=
  let kernel : Kernel := {
    pid := 48
    objects := []
    counts := []
    handles := []
    opened := []
    nextOpened := 32768
    refusal := none
    scripts := []
    memory := Memory.empty.map 0x07FFFFFC [192, 168, 1, 20] true
    side := ⟨none, .none⟩ }
  stage kernel Host.boot []

/-- The last word of the memory of applications is read, and one byte more is refused. -/
theorem lastWord_read :
    ∃ r, check 0x07FFFFFC 4 Region.application = .ok r ∧
      (r.readWord (Engine.readMemory environment) lastWord).1 = .ok 0x1401A8C0 ∧
      (r.read (Engine.readMemory environment) 5 lastWord).1 = .error .outside := by
  obtain ⟨accepts, -, -, reads⟩ := check_exact 0x07FFFFFC 4 Region.application
  obtain ⟨r, passed⟩ := accepts.mpr ⟨by decide, by decide, by decide, by decide⟩
  obtain ⟨start, length, reads⟩ := reads r passed
  obtain ⟨bytes, answer, t, -, word, madeUp⟩ := reads environment lastWord
  obtain ⟨_, -, five⟩ := bytes 5
  have mapped : environment.readMemory 0x07FFFFFC 4 lastWord.outside =
      .ok #v[192, 168, 1, 20] :=
    rfl
  refine ⟨r, passed, ?_, (five.refused (by rw [length]; decide)).1⟩
  rw [(word.asked (by rw [length]; decide)).1, start, mapped] at madeUp
  generalize (r.readWord (Engine.readMemory environment) lastWord).1 = made at madeUp
  cases madeUp with
  | word value => exact congrArg Except.ok (UInt32.toNat_inj.mp value)

end Span

end Interception
