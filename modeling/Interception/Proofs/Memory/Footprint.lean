/-
The footprint of a call in user memory.

Pointers come from the caller and may have any value.  Which of them is followed is decided by the
rule for the request: the row that opens the boot logo and the row that watches connections are each
for one header and one service.  So a call reads one range at most, and what it writes lies inside
the range that it has read.

What happens to all other bytes can be told from the trace, event by event.  None of them changes
but while a request is sent: what a synchronous call does to user memory is up to the kernel.

* `Rule.bytes_of_applies` — the requests of a row for one header and one service;
* `Engine.Touched.footprint` — what a rule touches, in terms of the request;
* `Engine.cell_perform` — the bytes that an event leaves alone;
* `Engine.call_footprint` — what a call touches, and what it leaves alone.
-/
import Interception.Proofs.Exclusion
import Interception.Proofs.Memory.Access
import Interception.Proofs.Memory.Backing
import Interception.Proofs.Replay
import Interception.Proofs.Sendings

namespace Interception

variable {σ : Type}

/-! ### The rows that touch user memory -/

namespace Rule

/-- A row for one service and one header: what is known of a request to which it applies. -/
theorem bytes_of_applies {r : Rule} {n : ServiceName} {w : Window} {pid : UInt32} {host : Host}
    {service : String} (one : r.services = [.exactly service])
    (passes : r.applies n w pid host = true) :
    n.bytes = Text.utf8 service ∧ w.header = r.header := by
  obtain ⟨header, covers, -, -⟩ := r.applies_iff.mp passes
  have bytes : n.bytes = Text.utf8 service := by
    simpa [Rule.covers, one, Pattern.fits, ServiceName.equals] using covers
  exact ⟨bytes, header.symm⟩

theorem openLogo_row : ∀ r ∈ table, r.action = .openLogo →
    r.services = [.exactly "fs:USER"] ∧ r.header = Command.openFile := by
  decide

theorem socketConnect_row : ∀ r ∈ table, r.action = .consult .socketConnect →
    r.services = [.exactly "soc:U"] ∧ r.header = Command.connectSocket := by
  decide

end Rule

namespace Engine

/-! ### What is touched -/

/-- A request with some header on a session that is registered under some name. -/
structure IsRequest (env : Environment σ) (handle : Handle) (w : World σ) (service : String)
    (header : Header) : Prop where
  session : ∃ session name, sessionBehind env handle w.outside = some session ∧
    w.registry.nameOf? session = some name ∧ name.bytes = Text.utf8 service
  header : w.window.header = header

/-- The read of the path of a file that is to be opened. -/
structure ReadsPath (env : Environment σ) (handle : Handle) (w : World σ) (x : Access) : Prop where
  request : IsRequest env handle w "fs:USER" Command.openFile
  start : x.start = w.window.word 12
  length : x.length = 20

/-- The read of the address of a socket, for the supervisor. -/
structure ReadsAddress (env : Environment σ) (handle : Handle) (w : World σ) (x : Access) :
    Prop where
  request : IsRequest env handle w "soc:U" Command.connectSocket
  supervised : ∃ record, w.registry.firstNamed Supervisor.service = some record
  start : x.start = w.window.word 6 + 4
  length : x.length = 4
  /-- The range lies in the memory of applications. -/
  inside : 0x06000000 ≤ x.start.toNat ∧ x.start.toNat + 4 ≤ 0x08000000

/-- The accesses of a call to the path of the boot logo, which it has read before. -/
structure HasReadLogo (env : Environment σ) (handle : Handle) (w : World σ)
    (accesses : List Access) : Prop where
  request : IsRequest env handle w "fs:USER" Command.openFile
  read : ∃ (path : Vector UInt8 20) (later : List Access),
    accesses = .read (w.window.word 12) 20 true :: later ∧
      env.readMemory (w.window.word 12) 20 (env.lookUp handle w.outside).2 = .ok path ∧
      Logo.isLogoPath path = true

/-- What a call may touch of user memory. -/
structure Footprint (env : Environment σ) (handle : Handle) (w : World σ)
    (accesses : List Access) : Prop where
  reads_length : (accesses.filter fun x => x.isRead).length ≤ 1
  reads : ∀ x ∈ accesses, x.isRead = true →
    ReadsPath env handle w x ∨ ReadsAddress env handle w x
  writes_length : (accesses.filter fun x => !x.isRead).length ≤ 2
  /-- Only the path of the boot logo is written, and only after it was read. -/
  writes : ∀ x ∈ accesses, x.isRead = false → HasReadLogo env handle w accesses ∧
    x.start = w.window.word 12 ∧ x.length ≤ 20
  bounded : ∀ x ∈ accesses, InBounds x.start x.length

theorem footprint_nil (env : Environment σ) (handle : Handle) (w : World σ) :
    Footprint env handle w [] := by
  constructor <;> simp

variable {env : Environment σ} {handle : Handle} {w v : World σ} {rule : Rule}

/-- A rule that is reached for one service and one header is reached for such a request. -/
theorem isRequest_of_reached {service : String} {header : Header}
    (hreached : reached env handle w = some (rule, v))
    (row : ∀ r ∈ Rule.table, r.action = rule.action →
      r.services = [.exactly service] ∧ r.header = header) :
    IsRequest env handle w service header := by
  obtain ⟨session, name, behind, known, chosen, -⟩ := exists_of_reached hreached
  obtain ⟨mem, passes⟩ := Rule.select_eq_some_iff.mp chosen
  obtain ⟨one, header_eq⟩ := row rule mem rfl
  obtain ⟨bytes, header⟩ := Rule.bytes_of_applies one passes
  exact ⟨⟨session, name, behind, known, bytes⟩, header.trans header_eq⟩

theorem InBounds.shorter {start : UInt32} {length shorter : Nat} (bounded : InBounds start length)
    (le : shorter ≤ length) : InBounds start shorter := by
  have stop := bounded.stop_lt
  exact ⟨bounded.start_ne_zero, by omega⟩

/-- One read and nothing else. -/
theorem footprint_read {x : Access} (read : x.isRead = true)
    (allowed : ReadsPath env handle w x ∨ ReadsAddress env handle w x)
    (bounded : InBounds x.start x.length) : Footprint env handle w [x] where
  reads_length := List.length_filter_le _ _
  reads y mem _ := by
    rw [List.mem_singleton] at mem
    rwa [mem]
  writes_length := by simp [read]
  writes y mem write := by
    rw [List.mem_singleton] at mem
    rw [mem, read] at write
    cases write
  bounded y mem := by
    rw [List.mem_singleton] at mem
    rwa [mem]

/-- Writing the path of the boot logo after it was read. -/
theorem footprint_written {writes : List Access}
    (opened : HasReadLogo env handle w (.read (w.window.word 12) 20 true :: writes))
    (bounded : InBounds (w.window.word 12) 20) (few : writes.length ≤ 2)
    (within : ∀ x ∈ writes, x.isRead = false ∧ x.start = w.window.word 12 ∧ x.length ≤ 20) :
    Footprint env handle w (.read (w.window.word 12) 20 true :: writes) := by
  have path : Footprint env handle w [.read (w.window.word 12) 20 true] :=
    footprint_read rfl (.inl ⟨opened.request, rfl, rfl⟩) bounded
  have unread : (writes.filter fun x => x.isRead) = [] := by
    rw [List.filter_eq_nil_iff]
    intro x mem read
    rw [(within x mem).1] at read
    cases read
  constructor
  · rw [List.filter_cons_of_pos rfl, unread]
    exact Nat.le_refl 1
  · intro x mem read
    rcases List.mem_cons.mp mem with rfl | mem
    · exact path.reads _ (List.mem_singleton.mpr rfl) read
    · rw [(within x mem).1] at read
      cases read
  · rw [List.filter_cons_of_neg (by simp [Access.isRead])]
    exact Nat.le_trans (List.length_filter_le _ _) few
  · intro x mem write
    rcases List.mem_cons.mp mem with rfl | mem
    · cases write
    · exact ⟨opened, (within x mem).2⟩
  · intro x mem
    rcases List.mem_cons.mp mem with rfl | mem
    · exact bounded
    · obtain ⟨-, start, shorter⟩ := within x mem
      rw [start]
      exact bounded.shorter shorter

/-- What the rule for a request touches, in terms of the request. -/
theorem Touched.footprint {accesses : List Access} (touched : Touched env v rule.action accesses)
    (hreached : reached env handle w = some (rule, v)) : Footprint env handle w accesses := by
  have length_storagePath : Logo.storagePath.length = 15 := by decide
  generalize taken : rule.action = action at touched
  -- The action was taken with the registry, the window and the memory that the call has found.
  obtain ⟨_, _, -, -, -, rfl⟩ := exists_of_reached hreached
  cases touched with
  | nothing => exact footprint_nil env handle w
  | @address record range _ known accepted =>
    have request := isRequest_of_reached hreached (taken ▸ Rule.socketConnect_row)
    obtain ⟨-, -, above, below⟩ := Span.check_region accepted
    obtain ⟨-, bounded⟩ := inBounds_of_check accepted
    exact footprint_read rfl (.inr ⟨request, ⟨record, known⟩, rfl, rfl, above, below⟩) bounded
  | path bounded =>
    have request := isRequest_of_reached hreached (taken ▸ Rule.openLogo_row)
    exact footprint_read rfl (.inl ⟨request, rfl, rfl⟩) bounded
  | replaced bounded read logo =>
    have request := isRequest_of_reached hreached (taken ▸ Rule.openLogo_row)
    refine footprint_written ⟨request, _, _, rfl, read, logo⟩ bounded (by simp) ?_
    intro x mem
    rw [List.mem_singleton] at mem
    subst mem
    exact ⟨rfl, rfl, by simp [Access.length, length_storagePath]⟩
  | putBack bounded read logo =>
    have request := isRequest_of_reached hreached (taken ▸ Rule.openLogo_row)
    refine footprint_written ⟨request, _, _, rfl, read, logo⟩ bounded (by simp) ?_
    intro x mem
    rw [List.mem_pair] at mem
    rcases mem with rfl | rfl
    · exact ⟨rfl, rfl, by simp [Access.length, length_storagePath]⟩
    · exact ⟨rfl, rfl, by simp [Access.length]⟩

/-! ### What is left alone -/

/-- No write of a list is to an address. -/
def Unwritten (accesses : List Access) (a : UInt32) : Prop :=
  ∀ x ∈ accesses, x.isRead = false → Memory.inRange x.start x.length a = false

/-- An event other than a synchronous call changes no byte that it does not write. -/
theorem cell_perform {env : Environment σ} {memory : σ → Memory} (frames : env.Frames memory)
    {s : σ} {e : Event} {a : UInt32} (unsent : e.sending = none)
    (unwritten : Unwritten e.access.toList a) :
    (memory (env.perform s e)).cell a = (memory s).cell a := by
  cases e with
  | sent route request reply result => cases unsent
  | wrote start bytes succeeded =>
    have outside := unwritten (.write start bytes succeeded) (by simp) rfl
    exact frames.cell_writeMemory start bytes s a outside
  | lookedUp handle found => rw [Environment.perform, frames.lookUp]
  | released object => rw [Environment.perform, frames.release]
  | opened session answer => rw [Environment.perform, frames.openSession]
  | closed handle => rw [Environment.perform, frames.closeHandle]
  | languageAsked request answer => rw [Environment.perform, frames.askLanguage]
  | throwShown request consumed => rw [Environment.perform, frames.showThrow]
  | homeSignalled => rw [Environment.perform, frames.signalHome]
  | applicationWoken => rw [Environment.perform, frames.wakeApplication]
  | read start length succeeded => rfl
  | pluginAsked state => rfl
  | noted notice => rfl

/-- On the way through a trace, from a state on, the bytes that it does not write are changed by
synchronous calls only. -/
def ChangedBySendings (env : Environment σ) (memory : σ → Memory) (s : σ) (t : Trace) : Prop :=
  ∀ before e later, t = before ++ e :: later → e.sending = none →
    ∀ a, Unwritten t.accesses a →
      (memory (env.replay s (before ++ [e]))).cell a = (memory (env.replay s before)).cell a

theorem changedBySendings {env : Environment σ} {memory : σ → Memory} (frames : env.Frames memory)
    (s : σ) (t : Trace) : ChangedBySendings env memory s t := by
  rintro before e later rfl unsent a unwritten
  rw [Environment.replay_append, Environment.replay_cons, Environment.replay_nil]
  refine cell_perform frames unsent fun x mem => unwritten x ?_
  rw [Trace.accesses, List.filterMap_append, Trace.filterMap_cons]
  exact List.mem_append_right _ (List.mem_append_left _ mem)

/-- A call reads one range at most, the path of a file or the address of a socket, and writes at
most twice, into the path of the boot logo that it has read.  Nothing that it accesses starts at
null or runs past the top of the address space.  Its trace leads to the state in which it leaves its
environment, and on the way all other bytes are changed by synchronous calls only. -/
theorem call_footprint (env : Environment σ) (handle : Handle) (w : World σ) :
    ∃ t, (call env handle w).2.trace = w.trace ++ t ∧ Footprint env handle w t.accesses ∧
      env.replay w.outside t = (call env handle w).2.outside ∧
      ∀ memory : σ → Memory, env.Frames memory → ChangedBySendings env memory w.outside t := by
  obtain ⟨result, c, called, hcall⟩ := exists_called env handle w
  have footprint : Footprint env handle w c.events.accesses := by
    rcases called.touched with untouched | ⟨rule, v, hreached, touched⟩
    · rw [untouched]
      exact footprint_nil env handle w
    · exact touched.footprint hreached
  rw [hcall]
  refine ⟨c.events, rfl, footprint, called.replay_eq, ?_⟩
  intro memory frames
  exact changedBySendings frames w.outside c.events

end Engine

end Interception
