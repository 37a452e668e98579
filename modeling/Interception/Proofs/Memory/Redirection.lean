/-
The ways out of opening a file, by what stands in user memory.

Whether a request is tried on removable storage depends on user memory alone: the path has to be
mapped, it has to name the boot logo (`Logo.Names`), and its first bytes have to be writable.  For
that the memory must not only back the environment: what is mapped must be readable too
(`Environment.Serves`).

There are four ways out (`Engine.WayOut`).  The request goes on as it is if its path is another one,
and also if the path cannot be written over.  Otherwise exactly one call is made for the boot logo
on removable storage.  It answers the request, or the request goes on with its message and the path
is written back, which may fail.

* `Environment.Backed.write_course` — what a write leaves in memory;
* `Logo.names_iff` — the path of the boot logo is what can be read as one;
* `Engine.LogoOpened.wayOut` — the way out of opening a file;
* `Engine.openLogo_wayOut` — the way out of a request that asks for a file.
-/
import Interception.Proofs.Redirection

namespace Interception

variable {σ : Type}

/-! ### Memory that answers every read and write -/

/-- A memory serves an environment if it backs it and whatever is mapped can be read. -/
structure Environment.Serves (env : Environment σ) (memory : σ → Memory) : Prop
    extends env.Backed memory where
  readable : ∀ {start n s} {bytes : Vector UInt8 n},
    (memory s).read start n = .ok bytes → env.readMemory start n s = .ok bytes

/-- The simulated kernel is served by the memory that it keeps. -/
theorem Simulation.Scripted.serves : environment.Serves Kernel.memory where
  toBacked := backed
  readable mapped := mapped

namespace Environment.Backed

variable {env : Environment σ} {memory : σ → Memory} {start : UInt32} {bytes : List UInt8}
  {s after : σ}

theorem write_of_wrote (backed : env.Backed memory)
    (succeeded : env.writeMemory start bytes s = (.ok (), after)) :
    (memory s).write start bytes = .ok (memory after) := by
  obtain ⟨writable, wrote⟩ := backed.map_of_wrote succeeded
  rw [wrote]
  exact Memory.write_of_writable writable

theorem write_of_unwritten (backed : env.Backed memory) {fault : Fault}
    (failed : env.writeMemory start bytes s = (.error fault, after)) :
    (∃ fault', (memory s).write start bytes = .error fault') ∧ memory after = memory s := by
  cases written : (memory s).write start bytes with
  | ok written' =>
    have succeeded := (backed.wrote written).1
    rw [failed] at succeeded
    cases succeeded
  | error fault' =>
    have kept := (backed.unwritten written).2
    rw [failed] at kept
    exact ⟨⟨fault', rfl⟩, kept⟩

/-- What a write leaves in memory: one that fails leaves the memory as it was. -/
theorem write_course (backed : env.Backed memory) {answer : Except Fault Unit}
    (written : env.writeMemory start bytes s = (answer, after)) :
    answer.toBool = ((memory s).write start bytes).toBool ∧
      memory after = ((memory s).write start bytes).toOption.getD (memory s) := by
  cases answer with
  | ok _ =>
    rw [backed.write_of_wrote written]
    exact ⟨rfl, rfl⟩
  | error fault =>
    obtain ⟨⟨_, failed⟩, kept⟩ := backed.write_of_unwritten written
    rw [failed]
    exact ⟨rfl, kept⟩

end Environment.Backed

/-- A range that is mapped can be read. -/
theorem Memory.exists_read {m : Memory} {start : UInt32} {n : Nat}
    (mapped : ∀ i, i < n → (m.byte? (start + UInt32.ofNat i)).isSome = true) :
    ∃ v, m.read start n = .ok v := by
  unfold read
  rw [dif_pos fun i : Fin n => mapped i.val i.isLt]
  exact ⟨_, rfl⟩

/-- Where bytes are mapped they can be seen. -/
theorem Memory.peek_map {m : Memory} {start : UInt32} {bytes : List UInt8} {writable : Bool}
    (bounded : start.toNat + bytes.length < 4294967296) :
    (m.map start bytes writable).peek start bytes.length = bytes.map some := by
  apply List.ext_getElem
  · simp [peek]
  · intro i _ inside
    rw [List.length_map] at inside
    simp [peek, byte?, cell_map_offset inside bounded]

/-! ### The path of the boot logo -/

namespace Logo

/-- Whether the path behind a pointer is that of the boot logo: all of it is mapped, and the file
name stands in its place. -/
structure Names (m : Memory) (pointer : UInt32) : Prop where
  bounded : Engine.InBounds pointer pathLength
  mapped : ∀ i, i < pathLength → (m.byte? (pointer + UInt32.ofNat i)).isSome = true
  name : ∀ i, i < fileName.length →
    m.byte? (pointer + UInt32.ofNat (nameOffset + i)) = fileName[i]?

/-- The file name lies inside the path. -/
theorem nameOffset_add_lt {i : Nat} (inside : i < fileName.length) :
    nameOffset + i < pathLength := by
  have stop : nameOffset + fileName.length ≤ pathLength := by decide
  omega

theorem isLogoPath_iff {path : Vector UInt8 pathLength} : isLogoPath path = true ↔
    ∀ i, i < fileName.length → path[nameOffset + i]? = fileName[i]? := by
  rw [isLogoPath, beq_iff_eq]
  constructor
  · intro same i inside
    rw [← same]
    simp [inside]
  · intro same
    apply List.ext_getElem?
    intro i
    by_cases inside : i < fileName.length
    · rw [← same i inside]
      simp [inside]
    · rw [List.getElem?_eq_none (by rw [List.length_take]; omega),
        List.getElem?_eq_none (by omega)]

/-- The path of the boot logo is what can be read as one. -/
theorem names_iff {m : Memory} {pointer : UInt32} : Names m pointer ↔
    Engine.InBounds pointer pathLength ∧
      ∃ path, m.read pointer pathLength = .ok path ∧ isLogoPath path = true := by
  -- What is read of the file name are the bytes that stand there.
  have byte {path : Vector UInt8 pathLength} (read : m.read pointer pathLength = .ok path) {i : Nat}
      (inside : i < fileName.length) :
      m.byte? (pointer + UInt32.ofNat (nameOffset + i)) = path[nameOffset + i]? := by
    rw [Memory.read_eq_ok_iff.mp read _ (nameOffset_add_lt inside),
      Vector.getElem?_eq_getElem (nameOffset_add_lt inside)]
  constructor
  · intro names
    obtain ⟨path, read⟩ := Memory.exists_read names.mapped
    refine ⟨names.bounded, path, read, isLogoPath_iff.mpr fun i inside => ?_⟩
    rw [← byte read inside, names.name i inside]
  · rintro ⟨bounded, path, read, logo⟩
    refine ⟨bounded, fun i inside => ?_, fun i inside => ?_⟩
    · rw [Memory.read_eq_ok_iff.mp read i inside, Option.isSome_some]
    · rw [byte read inside, isLogoPath_iff.mp logo i inside]

/-- The words of an attempt on removable storage, given those of the caller. -/
structure Redirected (window request : Window) : Prop where
  archive : request.word 2 = 9
  archivePath : request.word 3 = 1
  path : request.word 5 = 3
  kept : ∀ i, i ≠ 2 → i ≠ 3 → i ≠ 5 → request.word i = window.word i

theorem redirected_redirect (window : Window) : Redirected window (redirect window) where
  archive := by simp [redirect, Window.word_set, storageArchive, Window.size]
  archivePath := by simp [redirect, Window.word_set, emptyPath, Window.size]
  path := by simp [redirect, Window.word_set, textPath, Window.size]
  kept i h2 h3 h5 := by simp [redirect, Window.word_set, h2.symm, h3.symm, h5.symm]

end Logo

namespace Engine

/-! ### The ways out -/

/-- An attempt on removable storage, given the window of the caller and user memory: the request
and the state in which it is sent, its reply, and the state after it. -/
structure Attempt (env : Environment σ) (memory : σ → Memory) (handle : Handle) (window : Window)
    (m : Memory) (request : Window) (before : σ) (reply : Reply) (after : σ) : Prop where
  redirected : Logo.Redirected window request
  /-- The path is written over before the request is sent. -/
  wrote : m.write (Logo.pointer window) Logo.storagePath = .ok (memory before)
  seen : (memory before).peek (Logo.pointer window) Logo.storagePath.length =
    Logo.storagePath.map some
  sent : env.send handle request before = (reply, after)

/-- The ways out of opening a file, given the window of the caller and user memory: what becomes of
the request, the window and user memory then, the calls that were made and the accesses of user
memory. -/
inductive WayOut (env : Environment σ) (memory : σ → Memory) (handle : Handle) (window : Window)
    (m : Memory) : Outcome → Window → Memory → List Sending → List Access → Prop where
  /-- The path is not that of the boot logo: nothing is written or sent. -/
  | other {accesses : List Access} (other : ¬ Logo.Names m (Logo.pointer window))
      (reads : ∀ a ∈ accesses, a.isRead = true) :
      WayOut env memory handle window m .forward window m [] accesses
  /-- The path cannot be written over: nothing is sent. -/
  | guarded {fault : Fault} (named : Logo.Names m (Logo.pointer window))
      (guarded : m.write (Logo.pointer window) Logo.storagePath = .error fault) :
      WayOut env memory handle window m .forward window m []
        [.read (Logo.pointer window) Logo.pathLength true,
          .write (Logo.pointer window) Logo.storagePath false]
  /-- The logo is on removable storage: the reply is that of the attempt. -/
  | served {request : Window} {before after : σ} {reply : Reply}
      (named : Logo.Names m (Logo.pointer window))
      (attempt : Attempt env memory handle window m request before reply after)
      (succeeded : reply.result.isSuccess = true) (flag : reply.window.word 1 = 0) :
      WayOut env memory handle window m (.answered reply.result) reply.window (memory after)
        [⟨.caller handle, request, reply.result⟩]
        [.read (Logo.pointer window) Logo.pathLength true,
          .write (Logo.pointer window) Logo.storagePath true]
  /-- The logo is not there: the message is put back, and the path too if it can be written. -/
  | fellBack {request left : Window} {before after : σ} {reply : Reply}
      {path : Vector UInt8 Logo.pathLength}
      (named : Logo.Names m (Logo.pointer window))
      (attempt : Attempt env memory handle window m request before reply after)
      (unserved : reply.result.isFailure = true ∨ reply.window.word 1 ≠ 0)
      (message : ∀ i, i < Logo.requestWords → left.word i = window.word i)
      (read : m.read (Logo.pointer window) Logo.pathLength = .ok path) :
      WayOut env memory handle window m .forward left
        (((memory after).write (Logo.pointer window) path.toList).toOption.getD (memory after))
        [⟨.caller handle, request, reply.result⟩]
        [.read (Logo.pointer window) Logo.pathLength true,
          .write (Logo.pointer window) Logo.storagePath true,
          .write (Logo.pointer window) path.toList
            ((memory after).write (Logo.pointer window) path.toList).toBool]

variable {env : Environment σ} {memory : σ → Memory} {handle : Handle} {w : World σ}
  {outcome : Outcome} {c : Course σ}

/-- A call is only made to try the boot logo on removable storage. -/
theorem WayOut.exists_attempt {window left : Window} {m m' : Memory} {sendings : List Sending}
    {accesses : List Access}
    (way : WayOut env memory handle window m outcome left m' sendings accesses)
    (sent : sendings ≠ []) :
    ∃ request before reply after,
      Attempt env memory handle window m request before reply after := by
  cases way with
  | other => exact absurd rfl sent
  | guarded => exact absurd rfl sent
  | served named attempt succeeded flag => exact ⟨_, _, _, _, attempt⟩
  | fellBack named attempt unserved message read => exact ⟨_, _, _, _, attempt⟩

/-- A range that fits into the address space is accepted as a pointer. -/
theorem InBounds.exists_checkPointer {start : UInt32} {n : Nat} (bounded : InBounds start n) :
    ∃ range, Span.checkPointer start (UInt32.ofNat n) = .ok range := by
  have stop := bounded.stop_lt
  have length : (UInt32.ofNat n).toNat = n := by
    rw [UInt32.toNat_ofNat']
    omega
  have whole : Region.whole.stop.toNat = 4294967295 := by decide
  have above : Region.whole.start ≤ start := by
    rw [UInt32.le_iff_toNat_le]
    exact Nat.zero_le _
  rw [Span.checkPointer, Span.check, dif_neg bounded.start_ne_zero, dif_pos (by omega),
    if_pos ⟨above, by omega⟩]
  exact ⟨_, rfl⟩

/-- The path in memory is that of the boot logo exactly if one is read. -/
theorem PathRead.names_iff {answer : Except Fault (Vector UInt8 Logo.pathLength)} {reads : Trace}
    (read : PathRead env w answer reads) (serves : env.Serves memory) :
    Logo.Names (memory w.outside) (Logo.pointer w.window) ↔
      ∃ path, answer = .ok path ∧ Logo.isLogoPath path = true := by
  rw [Logo.names_iff]
  cases read with
  | badPointer rejected =>
    refine iff_of_false ?_ (by simp)
    rintro ⟨bounded, -⟩
    obtain ⟨range, accepted⟩ := bounded.exists_checkPointer
    cases rejected.symm.trans accepted
  | read accepted =>
    obtain ⟨start, bounded⟩ := inBounds_of_check accepted
    rw [start]
    constructor
    · rintro ⟨-, path, mapped, logo⟩
      exact ⟨path, serves.readable mapped, logo⟩
    · rintro ⟨path, answered, logo⟩
      exact ⟨bounded, path, serves.read answered, logo⟩

/-- Reading a path writes nothing. -/
theorem PathRead.isRead_of_mem {answer : Except Fault (Vector UInt8 Logo.pathLength)}
    {reads : Trace} (read : PathRead env w answer reads) {a : Access} (mem : a ∈ reads.accesses) :
    a.isRead = true := by
  cases read with
  | badPointer rejected => cases mem
  | read accepted =>
    rw [List.mem_singleton.mp mem]
    rfl

/-- A path that was written over was written over in memory. -/
theorem attempt_of_wrote (serves : env.Serves memory) {reply : Reply} {before after : σ}
    (bounded : InBounds (Logo.pointer w.window) Logo.pathLength)
    (wrote : env.writeMemory (Logo.pointer w.window) Logo.storagePath w.outside = (.ok (), before))
    (sent : env.send handle (Logo.redirect w.window) before = (reply, after)) :
    Attempt env memory handle w.window (memory w.outside) (Logo.redirect w.window) before reply
      after where
  redirected := Logo.redirected_redirect w.window
  wrote := serves.write_of_wrote wrote
  seen := by
    have shorter : Logo.storagePath.length ≤ Logo.pathLength := by decide
    have stop := bounded.stop_lt
    rw [(serves.map_of_wrote wrote).2, Memory.peek_map (by omega)]
  sent := sent

/-- A file is opened in one of these ways. -/
theorem LogoOpened.wayOut (opened : LogoOpened env handle w outcome c)
    (serves : env.Serves memory) :
    WayOut env memory handle w.window (memory w.outside) outcome c.window (memory c.outside)
      c.events.sendings c.events.accesses := by
  cases opened with
  | unreadable read =>
    have other : ¬ Logo.Names (memory w.outside) (Logo.pointer w.window) := by
      simp [read.names_iff serves]
    simpa [read.filterMap_reads] using WayOut.other other fun _ => read.isRead_of_mem
  | otherFile read other =>
    have other : ¬ Logo.Names (memory w.outside) (Logo.pointer w.window) := by
      simp [read.names_iff serves, other]
    simpa [read.filterMap_reads] using WayOut.other other fun _ => read.isRead_of_mem
  | @readOnly path _ _ _ read logo wrote =>
    have named := (read.names_iff serves).mpr ⟨path, rfl, logo⟩
    obtain ⟨-, -, accesses⟩ := read.accesses_ok
    obtain ⟨⟨_, failed⟩, kept⟩ := serves.write_of_unwritten wrote
    simpa [read.filterMap_reads, accesses, kept] using WayOut.guarded named failed
  | @served path _ _ _ _ read logo wrote sent served =>
    have named := (read.names_iff serves).mpr ⟨path, rfl, logo⟩
    obtain ⟨bounded, -, accesses⟩ := read.accesses_ok
    have attempt := attempt_of_wrote serves bounded wrote sent
    rw [Logo.isServed, Bool.and_eq_true, beq_iff_eq] at served
    simpa [read.filterMap_reads, accesses] using WayOut.served named attempt served.1 served.2
  | @fellBack path _ reply _ _ _ _ read logo wrote sent unserved restored =>
    have named := (read.names_iff serves).mpr ⟨path, rfl, logo⟩
    obtain ⟨bounded, answered, accesses⟩ := read.accesses_ok
    have attempt := attempt_of_wrote serves bounded wrote sent
    obtain ⟨succeeded, left⟩ := serves.write_course restored
    have message := (resent_restore w.window reply.window).message
    simpa [read.filterMap_reads, accesses, succeeded, left] using
      WayOut.fellBack named attempt (Logo.isServed_eq_false_iff.mp unserved) message
        (serves.read answered)

/-- For all that user memory holds and all that the attempt on removable storage replies, opening a
file is over in one of these ways.  So is a request whose rule is to open a file: following its
handle changes neither its window nor user memory. -/
theorem openLogo_wayOut (env : Environment σ) (memory : σ → Memory) (serves : env.Serves memory)
    (handle : Handle) (w : World σ) :
    (∃ t, (openLogo env handle w).2.trace = w.trace ++ t ∧
      WayOut env memory handle w.window (memory w.outside) (openLogo env handle w).1
        (openLogo env handle w).2.window (memory (openLogo env handle w).2.outside)
        t.sendings t.accesses) ∧
    ∀ rule v, reached env handle w = some (rule, v) → rule.action = .openLogo →
      ∃ t, (examine env handle w).2.trace = w.trace ++ t ∧
        WayOut env memory handle w.window (memory w.outside) (examine env handle w).1
          (examine env handle w).2.window (memory (examine env handle w).2.outside)
          t.sendings t.accesses := by
  constructor
  · obtain ⟨outcome, c, opened, took⟩ := exists_logoOpened env handle w
    rw [took]
    exact ⟨c.events, rfl, opened.wayOut serves⟩
  · intro rule v hreached action
    obtain ⟨_, _, -, -, -, rfl⟩ := exists_of_reached hreached
    obtain ⟨_, _, -, outcome, c, object, acted, -, hexamine⟩ := exists_acted_of_reached hreached
    rw [action] at acted
    cases acted with
    | logoOpened opened took =>
      have way := opened.wayOut serves
      rw [hexamine, World.after_after]
      refine ⟨_, rfl, ?_⟩
      simpa [serves.lookUp, serves.release] using way

open Simulation Scripted

/-- The path of the boot logo can be written over but not written back: an attempt is made, and the
request goes on. -/
theorem guardedPath_attempted :
    (examine environment ⟨256⟩ guardedPath).1 = .forward ∧
      ∃ request before reply after, Attempt environment Kernel.memory ⟨256⟩ guardedPath.window
        guardedPath.outside.memory request before reply after := by
  have sent : (examine environment ⟨256⟩ guardedPath).2.trace.sendings.length = 1 := by
    decide +kernel
  have taken : (reached environment ⟨256⟩ guardedPath).map (·.1.action) = some .openLogo := by
    decide +kernel
  obtain ⟨⟨rule, v⟩, hreached, action⟩ := Option.map_eq_some_iff.mp taken
  obtain ⟨t, trace, way⟩ := (openLogo_wayOut environment Kernel.memory serves ⟨256⟩
    guardedPath).2 rule v hreached action
  have fresh : guardedPath.trace = [] := rfl
  rw [trace, fresh, List.nil_append] at sent
  refine ⟨by decide +kernel, way.exists_attempt fun unsent => ?_⟩
  rw [unsent] at sent
  cases sent

end Engine

end Interception
