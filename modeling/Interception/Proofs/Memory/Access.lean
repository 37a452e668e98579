/-
What a call reads and writes of user memory.

Only two actions look at user memory.  Asking the supervisor about a connection reads the address of
the socket, and opening a file reads its path.  If that is the path of the boot logo, it is written
over, and written once more if the boot logo is not on removable storage.  Nothing else is read or
written, and each range is checked before it is touched for the first time (`Engine.Touched`).

* `Engine.PathRead.accesses_ok` — what was read of a path that could be read;
* `Engine.Acted.touched` — the ways in which an action touches user memory;
* `Engine.Called.touched` — a call touches what the action of its rule touches.
-/
import Interception.Proofs.Course.Views

namespace Interception

variable {σ : Type}

/-- An access of user memory. -/
inductive Access where
  | read (start : UInt32) (length : Nat) (succeeded : Bool)
  | write (start : UInt32) (bytes : List UInt8) (succeeded : Bool)

namespace Access

/-- Where the range that is read or written starts. -/
def start : Access → UInt32
  | read start _ _ | write start _ _ => start

/-- How many bytes the range has that is read or written. -/
def length : Access → Nat
  | read _ length _ => length
  | write _ bytes _ => bytes.length

def isRead : Access → Bool
  | read _ _ _ => true
  | write _ _ _ => false

end Access

/-- The access of user memory that an event tells about. -/
abbrev Event.access : Event → Option Access
  | .read start length succeeded => some (.read start length succeeded)
  | .wrote start bytes succeeded => some (.write start bytes succeeded)
  | _ => none

/-- The accesses of user memory in a trace, in their order. -/
abbrev Trace.accesses (t : Trace) : List Access :=
  t.filterMap Event.access

namespace Engine

/-! ### Ranges that are checked -/

/-- A range does not start at null and does not run past the top of the address space. -/
structure InBounds (start : UInt32) (length : Nat) : Prop where
  start_ne_zero : start ≠ 0
  stop_lt : start.toNat + length < 4294967296

theorem inBounds_of_check {address length : UInt32} {region : Region} {range : Span}
    (accepted : Span.check address length region = .ok range) :
    range.start = address ∧ InBounds address length.toNat := by
  obtain ⟨start, extent, -, -⟩ := Span.check_region accepted
  have nonzero := range.start_ne_zero
  have stop := range.stop_lt
  rw [start] at nonzero
  rw [start, extent] at stop
  exact ⟨start, nonzero, stop⟩

/-! ### The ways of touching user memory -/

/-- The ways in which an action touches user memory, given the world in which it is taken. -/
inductive Touched (env : Environment σ) (w : World σ) : Action → List Access → Prop where
  | nothing {action : Action} : Touched env w action []
  /-- The address of a socket is read for the supervisor. -/
  | address {record : NamedSession} {range : Span} {succeeded : Bool}
      (known : w.registry.firstNamed Supervisor.service = some record)
      (accepted : Span.check (w.window.word 6 + 4) 4 Region.application = .ok range) :
      Touched env w (.consult .socketConnect) [.read (w.window.word 6 + 4) 4 succeeded]
  | path {succeeded : Bool} (bounded : InBounds (Logo.pointer w.window) Logo.pathLength) :
      Touched env w .openLogo [.read (Logo.pointer w.window) Logo.pathLength succeeded]
  /-- The path of the boot logo is written over. -/
  | replaced {path : Vector UInt8 Logo.pathLength} {succeeded : Bool}
      (bounded : InBounds (Logo.pointer w.window) Logo.pathLength)
      (read : env.readMemory (Logo.pointer w.window) Logo.pathLength w.outside = .ok path)
      (logo : Logo.isLogoPath path = true) :
      Touched env w .openLogo [.read (Logo.pointer w.window) Logo.pathLength true,
        .write (Logo.pointer w.window) Logo.storagePath succeeded]
  /-- The path is written over and then put back. -/
  | putBack {path : Vector UInt8 Logo.pathLength} {succeeded : Bool}
      (bounded : InBounds (Logo.pointer w.window) Logo.pathLength)
      (read : env.readMemory (Logo.pointer w.window) Logo.pathLength w.outside = .ok path)
      (logo : Logo.isLogoPath path = true) :
      Touched env w .openLogo [.read (Logo.pointer w.window) Logo.pathLength true,
        .write (Logo.pointer w.window) Logo.storagePath true,
        .write (Logo.pointer w.window) path.toList succeeded]

variable {env : Environment σ} {handle : Handle} {w : World σ}

theorem touched_of_encoded {operation : Watched} {record : NamedSession}
    {answer : Except Supervisor.Refusal Supervisor.Request} {reads : Trace}
    (known : w.registry.firstNamed Supervisor.service = some record)
    (encoded : Supervisor.Encoded env w operation answer reads) :
    Touched env w (.consult operation) reads.accesses := by
  have word : (Supervisor.saved w).word 6 = w.window.word 6 := by
    rw [Window.word_snapshot, if_pos (by decide)]
  cases encoded with
  | unreadable accepted read =>
    have start := (Span.check_region accepted).1
    rw [word] at accepted start
    simpa [start] using Touched.address known accepted
  | socketConnect accepted read =>
    have start := (Span.check_region accepted).1
    rw [word] at accepted start
    simpa [start] using Touched.address known accepted
  | _ => exact .nothing

/-- What was read of a path that could be read. -/
theorem PathRead.accesses_ok {path : Vector UInt8 Logo.pathLength} {reads : Trace}
    (read : PathRead env w (.ok path) reads) :
    InBounds (Logo.pointer w.window) Logo.pathLength ∧
      env.readMemory (Logo.pointer w.window) Logo.pathLength w.outside = .ok path ∧
      reads.accesses = [.read (Logo.pointer w.window) Logo.pathLength true] := by
  generalize answered : Except.ok path = answer at read
  cases read with
  | badPointer rejected => cases answered
  | read accepted =>
    obtain ⟨start, bounded⟩ := inBounds_of_check accepted
    rw [start] at answered ⊢
    rw [← answered]
    exact ⟨bounded, rfl, rfl⟩

theorem PathRead.touched {answer : Except Fault (Vector UInt8 Logo.pathLength)} {reads : Trace}
    (read : PathRead env w answer reads) : Touched env w .openLogo reads.accesses := by
  cases read with
  | badPointer rejected => exact .nothing
  | read accepted =>
    obtain ⟨start, bounded⟩ := inBounds_of_check accepted
    rw [start]
    exact .path bounded

theorem Learnt.accesses {outcome : Outcome} {c : Course σ}
    (learnt : Learnt env handle w outcome c) : c.events.accesses = [] := by
  cases learnt with
  | failed sent failed => simp
  | connected sent connected resolved learnt =>
    simp [resolved.filterMap_looked, -Resolution.givenUp]

theorem Relayed.accesses {outcome : Outcome} {c : Course σ}
    (relayed : Relayed env handle w outcome c) : c.events.accesses = [] := by
  cases relayed with
  | failed sent failed => simp
  | ignored sent succeeded ignored => simp
  | woken sent succeeded woken => simp

theorem LogoOpened.touched {outcome : Outcome} {c : Course σ}
    (opened : LogoOpened env handle w outcome c) :
    Touched env w .openLogo c.events.accesses := by
  cases opened with
  | unreadable read => simpa using read.touched
  | otherFile read other => exact read.touched
  | readOnly read logo wrote =>
    obtain ⟨bounded, answered, accesses⟩ := read.accesses_ok
    simpa [accesses] using Touched.replaced bounded answered logo
  | served read logo wrote sent served =>
    obtain ⟨bounded, answered, accesses⟩ := read.accesses_ok
    simpa [accesses] using Touched.replaced bounded answered logo
  | fellBack read logo wrote sent unserved restored =>
    obtain ⟨bounded, answered, accesses⟩ := read.accesses_ok
    simpa [accesses] using Touched.putBack bounded answered logo

theorem Consulted.touched {operation : Watched} {verdict : Consultation} {c : Course σ}
    (consulted : Consulted env operation w verdict c) :
    Touched env w (.consult operation) c.events.accesses := by
  cases consulted with
  | absent unknown => exact .nothing
  | refused known encoded => simpa using touched_of_encoded known encoded
  | unreachable known encoded opened => simpa using touched_of_encoded known encoded
  | declined known encoded opened sent unhandled => simpa using touched_of_encoded known encoded
  | handled known encoded opened sent handled => simpa using touched_of_encoded known encoded

theorem Acted.touched {action : Action} {outcome : Outcome} {c : Course σ}
    (acted : Acted env handle w action outcome c) : Touched env w action c.events.accesses := by
  cases acted with
  | learnt learnt =>
    rw [learnt.accesses]
    exact .nothing
  | relayed relayed =>
    rw [relayed.accesses]
    exact .nothing
  | logoOpened opened took => exact opened.touched
  | consulted consulted took => exact consulted.touched
  | _ => exact .nothing

/-- Looking at a request touches what the action of its rule touches. -/
theorem Examined.touched {outcome : Outcome} {c : Course σ}
    (examined : Examined env handle w outcome c) :
    c.events.accesses = [] ∨ ∃ rule v, reached env handle w = some (rule, v) ∧
      Touched env v rule.action c.events.accesses := by
  cases examined with
  | unresolved resolved => exact .inl (by simp [resolved.filterMap_looked])
  | unruled resolved unruled => exact .inl (by simp [resolved.filterMap_looked])
  | ruled resolved known chosen acted =>
    refine .inr ⟨_, _, resolved.reached_ruled known chosen, ?_⟩
    simpa [resolved.filterMap_looked] using acted.touched

/-- A call touches what the action of its rule touches. -/
theorem Called.touched {result : ResultCode} {c : Course σ}
    (called : Called env handle w result c) :
    c.events.accesses = [] ∨ ∃ rule v, reached env handle w = some (rule, v) ∧
      Touched env v rule.action c.events.accesses := by
  cases called with
  | answered examined => exact examined.touched
  | forwarded examined sent => simpa using examined.touched

end Engine

end Interception
