/-
Which requests can be put to the supervisor.

A request to delete something is encoded if its path is in UTF-16 and neither the size of the path
nor its pointer is zero; user memory is not touched.  A request to the camera is always encoded.  A
request to connect points to a structure whose second word is the address of a socket.  Pointer and
offset are added as words, so that a pointer near the top of the address space leads to an address
at its bottom; what comes out is checked, and only an address in the memory of applications is read.

* `Supervisor.accepted_iff` — which addresses pass the check;
* `Supervisor.Request.address_course` — one check, and one access of memory if it is passed;
* `Supervisor.encode_encodes` — which saved requests are encoded, as what, and how all others are
  refused.
-/
import Interception.Proofs.Memory.Span
import Interception.Supervisor.Request

namespace Interception.Supervisor

open Engine

variable {σ : Type}

/-! ### What is encoded -/

/-- What becomes of a saved request to delete something: the answer, and the accesses of memory. -/
structure EncodesPath (operation : Watched) (saved : Snapshot keptWords)
    (answer : Except Refusal Request) (accesses : List Access) : Prop where
  encoded_iff : (∃ r, answer = .ok r) ↔
    saved.word 4 = 4 ∧ saved.word 5 ≠ 0 ∧ saved.word 7 ≠ 0
  encoded : ∀ r, answer = .ok r →
    r.operation = operation ∧ r.arguments = [saved.word 7, saved.word 5]
  refused : ∀ refusal, answer = .error refusal → refusal = .badPath
  untouched : accesses = []

/-- The address to which a saved request to connect points.  The sum wraps around. -/
def socketAddress (saved : Snapshot keptWords) : Nat :=
  ((saved.word 6).toNat + 4) % 4294967296

/-- Whether the word at an address lies in the memory of applications. -/
def InApplication (a : Nat) : Prop :=
  0x06000000 ≤ a ∧ a + 4 ≤ 0x08000000

/-- What becomes of a saved request to connect, given the state of the environment: the answer, and
the accesses of memory. -/
structure EncodesAddress (env : Environment σ) (s : σ) (saved : Snapshot keptWords)
    (answer : Except Refusal Request) (accesses : List Access) : Prop where
  encoded_iff : (∃ r, answer = .ok r) ↔ InApplication (socketAddress saved) ∧
    ∃ bytes, env.readMemory (UInt32.ofNat (socketAddress saved)) 4 s = .ok bytes
  /-- The one argument is the word in memory, least significant byte first. -/
  encoded : ∀ r, answer = .ok r → r.operation = .socketConnect ∧
    ∃ (bytes : Vector UInt8 4) (argument : UInt32),
      env.readMemory (UInt32.ofNat (socketAddress saved)) 4 s = .ok bytes ∧
      r.arguments = [argument] ∧
      argument.toNat = Word.littleEndian bytes.toList
  null : socketAddress saved = 0 → answer = .error (.badAddress .null)
  overflow : socketAddress saved ≠ 0 → 4294967295 < socketAddress saved + 4 →
    answer = .error (.badAddress .overflow)
  outside : socketAddress saved ≠ 0 → socketAddress saved + 4 ≤ 4294967295 →
    ¬ InApplication (socketAddress saved) → answer = .error (.badAddress .outside)
  unreadable : InApplication (socketAddress saved) →
    ∀ fault, env.readMemory (UInt32.ofNat (socketAddress saved)) 4 s = .error fault →
      answer = .error (.badAddress fault)
  /-- Memory is read once, and only where the address lies in the memory of applications. -/
  read : InApplication (socketAddress saved) →
    accesses = [.read (UInt32.ofNat (socketAddress saved)) 4 answer.toBool]
  unread : ¬ InApplication (socketAddress saved) → accesses = []
  /-- No pointer from which the sum wraps around leads to memory. -/
  wrapped : 4294967296 ≤ (saved.word 6).toNat + 4 → accesses = []

/-- What becomes of a saved request. -/
def Encodes (env : Environment σ) (s : σ) (saved : Snapshot keptWords) (operation : Watched)
    (answer : Except Refusal Request) (accesses : List Access) : Prop :=
  match operation with
  | .deleteFile | .deleteDirectory => EncodesPath operation saved answer accesses
  | .socketConnect => EncodesAddress env s saved answer accesses
  | .cameraCapture =>
    (∃ r, answer = .ok r ∧ r.operation = .cameraCapture ∧ r.arguments = []) ∧ accesses = []

/-! ### Requests to delete something -/

/-- The two requests to delete something are encoded alike. -/
theorem encodesPath_path {operation : Watched} {request : UInt32 → UInt32 → Request}
    (saved : Snapshot keptWords)
    (operation_eq : ∀ pointer size, (request pointer size).operation = operation)
    (arguments_eq : ∀ pointer size, (request pointer size).arguments = [pointer, size]) :
    EncodesPath operation saved
      ((Request.path saved).map fun path => request path.1 path.2) [] := by
  by_cases supported : saved.word 4 = 4 ∧ saved.word 5 ≠ 0 ∧ saved.word 7 ≠ 0
  · have path : Request.path saved = .ok (saved.word 7, saved.word 5) := if_pos supported
    rw [path]
    refine ⟨iff_of_true ⟨_, rfl⟩ supported, fun r encoded => ?_, fun refusal refused => ?_, rfl⟩
    · cases encoded
      exact ⟨operation_eq _ _, arguments_eq _ _⟩
    · cases refused
  · have path : Request.path saved = .error .badPath := if_neg supported
    rw [path]
    refine ⟨iff_of_false ?_ supported, fun r encoded => ?_, fun refusal refused => ?_, rfl⟩
    · rintro ⟨r, encoded⟩
      cases encoded
    · cases encoded
    · cases refused
      rfl

/-! ### Requests to connect -/

section Address

variable {env : Environment σ} {s : σ} {saved : Snapshot keptWords}

theorem toNat_address (saved : Snapshot keptWords) :
    (saved.word 6 + 4).toNat = socketAddress saved :=
  UInt32.toNat_add ..

theorem ofNat_socketAddress (saved : Snapshot keptWords) :
    UInt32.ofNat (socketAddress saved) = saved.word 6 + 4 := by
  rw [← toNat_address, UInt32.ofNat_toNat]

/-- The check is passed by the addresses in the memory of applications. -/
theorem accepted_iff : Span.Accepted (saved.word 6 + 4) 4 Region.application ↔
    InApplication (socketAddress saved) := by
  have address := toNat_address saved
  have length : (4 : UInt32).toNat = 4 := rfl
  constructor
  · intro accepted
    have above := accepted.region_start_le
    have below := accepted.stop_le_region_stop
    rw [address] at above below
    exact ⟨above, below⟩
  · rintro ⟨above, below⟩
    refine ⟨fun null => ?_, by omega, ?_, ?_⟩
    · rw [null] at address
      have zero : (0 : UInt32).toNat = 0 := rfl
      omega
    · rw [address]
      exact above
    · rw [address]
      exact below

/-- A sum that has wrapped around is too small to lie in the memory of applications. -/
theorem not_inApplication_of_wrapped (wrapped : 4294967296 ≤ (saved.word 6).toNat + 4) :
    ¬ InApplication (socketAddress saved) := by
  have below := (saved.word 6).toNat_lt
  rintro ⟨above, -⟩
  rw [socketAddress] at above
  omega

/-- The address is checked, and read where it is accepted. -/
theorem Request.address_course (env : Environment σ) (saved : Snapshot keptWords) (w : World σ) :
    Request.address (readMemory env) saved w =
      match Span.check (saved.word 6 + 4) 4 Region.application with
      | .error fault => (.error (.badAddress fault), w)
      | .ok range =>
        ((range.readWord (readMemory env) w).1.mapError .badAddress,
          (range.readWord (readMemory env) w).2) := by
  unfold Request.address
  cases Span.check (saved.word 6 + 4) 4 Region.application with
  | error fault => rfl
  | ok range => rfl

/-- An address that does not pass the check is refused for the first reason that there is. -/
theorem encodesAddress_of_rejected {fault : Fault}
    (rejected : Span.Rejected (saved.word 6 + 4) 4 Region.application fault) :
    EncodesAddress env s saved (.error (.badAddress fault)) [] := by
  have address := toNat_address saved
  have length : (4 : UInt32).toNat = 4 := rfl
  have unaccepted : ¬ InApplication (socketAddress saved) := by
    rw [← accepted_iff]
    intro accepted
    obtain ⟨range, passed, -⟩ := Span.check_of_accepted accepted
    rw [Span.check_of_rejected rejected] at passed
    cases passed
  -- There is one first reason only.
  have first (reason : Fault)
      (fails : Span.Rejected (saved.word 6 + 4) 4 Region.application reason) :
      (.error (.badAddress fault) : Except Refusal Request) = .error (.badAddress reason) := by
    have same := (Span.check_of_rejected rejected).symm.trans (Span.check_of_rejected fails)
    cases same
    rfl
  have start_ne_zero (start : socketAddress saved ≠ 0) : saved.word 6 + 4 ≠ 0 := by
    intro null
    rw [null] at address
    exact start address.symm
  constructor
  case encoded_iff =>
    refine iff_of_false ?_ fun accepted => unaccepted accepted.1
    rintro ⟨r, encoded⟩
    cases encoded
  case encoded =>
    intro r encoded
    cases encoded
  case null =>
    intro null
    exact first _ (.null (UInt32.toNat_inj.mp (address.trans null)))
  case overflow =>
    intro start past
    exact first _ (.overflow (start_ne_zero start) (by omega))
  case outside =>
    intro start stop out
    refine first _ (.outside (start_ne_zero start) (by omega) ?_)
    have low : Region.application.start.toNat = 0x06000000 := rfl
    have high : Region.application.stop.toNat = 0x08000000 := rfl
    rw [InApplication] at out
    omega
  case unreadable => exact fun accepted => absurd accepted unaccepted
  case read => exact fun accepted => absurd accepted unaccepted
  case unread => exact fun _ => rfl
  case wrapped => exact fun _ => rfl

/-- An address that passes the check is read, and whether it can be read decides. -/
theorem encodesAddress_of_accepted
    (accepted : Span.Accepted (saved.word 6 + 4) 4 Region.application)
    {answer : Except Fault (Vector UInt8 4)}
    (asked : env.readMemory (saved.word 6 + 4) 4 s = answer) :
    EncodesAddress env s saved
      (((answer.map Word.ofBytes).mapError .badAddress).map .socketConnect)
      [.read (saved.word 6 + 4) 4 answer.toBool] := by
  have inside := accepted_iff.mp accepted
  have ⟨above, below⟩ := inside
  rw [← ofNat_socketAddress] at asked ⊢
  constructor
  case encoded_iff =>
    rw [asked]
    cases answer with
    | ok bytes => exact iff_of_true ⟨_, rfl⟩ ⟨inside, bytes, rfl⟩
    | error fault =>
      refine iff_of_false ?_ ?_
      · rintro ⟨r, encoded⟩
        cases encoded
      · rintro ⟨-, bytes, mapped⟩
        cases mapped
  case encoded =>
    intro r encoded
    cases answer with
    | ok bytes =>
      cases encoded
      exact ⟨rfl, bytes, _, asked, rfl, Word.toNat_ofBytes_eq bytes⟩
    | error fault => cases encoded
  case null =>
    intro null
    omega
  case overflow =>
    intro _ past
    omega
  case outside => exact fun _ _ out => absurd inside out
  case unreadable =>
    intro _ fault unmapped
    cases asked.symm.trans unmapped
    rfl
  case read =>
    intro _
    cases answer with
    | ok bytes => rfl
    | error fault => rfl
  case unread => exact fun out => absurd inside out
  case wrapped => exact fun wrapped => absurd inside (not_inApplication_of_wrapped wrapped)

end Address

/-! ### All requests -/

/-- A saved request to delete something is encoded exactly if it has a path in UTF-16, and one to
the camera always is.  A saved request to connect is encoded exactly if the address that it points
to lies in the memory of applications and can be read there; otherwise it is refused with the first
reason that there is.  Memory is read once at most, and only after the address has been checked. -/
theorem encode_encodes (env : Environment σ) (operation : Watched) (saved : Snapshot keptWords)
    (w : World σ) :
    ∃ t, (Request.encode (readMemory env) operation saved w).2 =
        w.after ⟨w.registry, w.window, w.outside, t⟩ ∧
      Encodes env w.outside saved operation
        (Request.encode (readMemory env) operation saved w).1 t.accesses := by
  cases operation with
  | deleteFile =>
    exact ⟨[], (World.after_nothing w).symm,
      encodesPath_path saved (fun _ _ => rfl) fun _ _ => rfl⟩
  | deleteDirectory =>
    exact ⟨[], (World.after_nothing w).symm,
      encodesPath_path saved (fun _ _ => rfl) fun _ _ => rfl⟩
  | cameraCapture =>
    exact ⟨[], (World.after_nothing w).symm, ⟨_, rfl, rfl, rfl⟩, rfl⟩
  | socketConnect =>
    rw [Request.encode, bind_apply, Request.address_course]
    rcases Span.accepted_or_rejected (saved.word 6 + 4) 4 Region.application with
      accepted | ⟨fault, rejected⟩
    · obtain ⟨range, passed, start, length⟩ := Span.check_of_accepted accepted
      have enough : ¬ range.length.toNat < 4 := by
        rw [length]
        decide
      simp only [passed, Span.readWord_course, Span.read_course, if_neg enough, start]
      exact ⟨_, rfl, encodesAddress_of_accepted accepted rfl⟩
    · simp only [Span.check_of_rejected rejected]
      exact ⟨[], (World.after_nothing w).symm, encodesAddress_of_rejected rejected⟩

end Interception.Supervisor
