/-
Ways of asking the supervisor.

Before anything is asked the request is encoded, which may read one word of user memory, and a
handle is opened.  Only then is the window written, and the reply decides.

* `Supervisor.exists_encoded` — the ways of encoding a request;
* `Engine.exists_consulted` — the ways of asking the supervisor: it is absent, the request is
  refused, it cannot be reached, it leaves the request alone, or it answers it.
-/
import Interception.Proofs.Course.Basic

namespace Interception

variable {σ : Type}

namespace Supervisor

/-- The words of a request that are saved while the supervisor is asked. -/
abbrev saved (w : World σ) : Snapshot keptWords := w.window.snapshot keptWords

/-- The ways of encoding the request in the window for the supervisor: the answer, and the events
of reading user memory. -/
inductive Encoded (env : Environment σ) (w : World σ) :
    Watched → Except Refusal Request → Trace → Prop where
  | deleteFile :
      Encoded env w .deleteFile
        ((Request.path (saved w)).map fun p => .deleteFile p.1 p.2) []
  | deleteDirectory :
      Encoded env w .deleteDirectory
        ((Request.path (saved w)).map fun p => .deleteDirectory p.1 p.2) []
  | badAddress {fault : Fault}
      (rejected : Span.check ((saved w).word 6 + 4) 4 Region.application = .error fault) :
      Encoded env w .socketConnect (.error (.badAddress fault)) []
  | unreadable {range : Span} {fault : Fault}
      (accepted : Span.check ((saved w).word 6 + 4) 4 Region.application = .ok range)
      (read : env.readMemory range.start 4 w.outside = .error fault) :
      Encoded env w .socketConnect (.error (.badAddress fault)) [.read range.start 4 false]
  | socketConnect {range : Span} {bytes : Vector UInt8 4}
      (accepted : Span.check ((saved w).word 6 + 4) 4 Region.application = .ok range)
      (read : env.readMemory range.start 4 w.outside = .ok bytes) :
      Encoded env w .socketConnect (.ok (.socketConnect (Word.ofBytes bytes)))
        [.read range.start 4 true]
  | cameraCapture : Encoded env w .cameraCapture (.ok .cameraCapture) []

/-- The request is encoded in one way, and nothing but the trace changes. -/
theorem Encoded.encode_eq {env : Environment σ} {w : World σ} {operation : Watched}
    {answer : Except Refusal Request} {reads : Trace}
    (encoded : Encoded env w operation answer reads) :
    Request.encode (Engine.readMemory env) operation (saved w) w =
      (answer, w.after ⟨w.registry, w.window, w.outside, reads⟩) := by
  cases encoded with
  | deleteFile => simp [Request.encode]
  | deleteDirectory => simp [Request.encode]
  | badAddress rejected =>
    simp [Request.encode, Request.address, rejected, Except.map, -Window.word_snapshot]
  | @unreadable range fault accepted read =>
    have length : range.length = 4 := (Span.check_region accepted).2.1
    have refusal : (Except.error fault : Except Fault UInt32).mapError Refusal.badAddress =
        .error (.badAddress fault) := rfl
    simp [Request.encode, Request.address, accepted, Span.readWord, Span.read, length, read,
      refusal, Except.map, Except.toBool, -Window.word_snapshot]
  | @socketConnect range bytes accepted read =>
    have length : range.length = 4 := (Span.check_region accepted).2.1
    have address : (Except.ok (Word.ofBytes bytes) : Except Fault UInt32).mapError
        Refusal.badAddress = .ok (Word.ofBytes bytes) := rfl
    simp [Request.encode, Request.address, accepted, Span.readWord, Span.read, length, read,
      address, Except.map, Except.toBool, -Window.word_snapshot]
  | cameraCapture => simp [Request.encode]

/-- A request is encoded in one of these ways. -/
theorem exists_encoded (env : Environment σ) (operation : Watched) (w : World σ) :
    ∃ answer reads, Encoded env w operation answer reads := by
  cases operation with
  | deleteFile => exact ⟨_, _, .deleteFile⟩
  | deleteDirectory => exact ⟨_, _, .deleteDirectory⟩
  | cameraCapture => exact ⟨_, _, .cameraCapture⟩
  | socketConnect =>
    rcases checked : Span.check ((saved w).word 6 + 4) 4 Region.application with fault | range
    · exact ⟨_, _, .badAddress checked⟩
    · rcases read : env.readMemory range.start 4 w.outside with fault | bytes
      · exact ⟨_, _, .unreadable checked read⟩
      · exact ⟨_, _, .socketConnect checked read⟩

/-- Whether a reply of the supervisor says that the request was answered. -/
def isHandled (reply : Reply) : Bool :=
  reply.result.isSuccess && reply.window.word handledWord != 0

end Supervisor

namespace Engine

open Supervisor

/-- Putting a request to the supervisor: the reply says whether it was answered, and if not the
saved words are put back. -/
theorem askSupervisor_course {env : Environment σ} (operation : Watched) {request : Request}
    (kept : Snapshot keptWords) (route : Route) (w : World σ) {reply : Reply} {outside : σ}
    (sent : env.send route.handle (request.write (env.pid w.outside) w.window) w.outside =
      (reply, outside)) :
    askSupervisor env operation request kept route w =
      if isHandled reply then
        (.handled, w.after ⟨w.registry.changed reply.changes, reply.window, outside,
          reply.events route (request.write (env.pid w.outside) w.window) w.registry ++
            [.noted (.supervisorHandled operation (env.pid w.outside))]⟩)
      else
        (.declined, w.after ⟨w.registry.changed reply.changes, reply.window.restore kept, outside,
          reply.events route (request.write (env.pid w.outside) w.window) w.registry ++
            [.noted (.supervisorDeclined operation (env.pid w.outside) reply.result)]⟩) := by
  have written := send_course route (w.after ⟨w.registry,
    request.write (env.pid w.outside) w.window, w.outside, []⟩) sent
  simp only [World.registry_after, World.window_after, World.after_after,
    List.nil_append] at written
  cases success : reply.result.isSuccess with
  | false => simp [askSupervisor, isHandled, written, success]
  | true =>
    by_cases flag : reply.window.word handledWord = 0
    · simp [askSupervisor, isHandled, written, success, flag]
    · simp [askSupervisor, isHandled, written, success, flag]

/-- The ways of asking the supervisor about an operation. -/
inductive Consulted (env : Environment σ) (operation : Watched) (w : World σ) :
    Consultation → Course σ → Prop where
  | absent (unknown : w.registry.firstNamed service = none) :
      Consulted env operation w .unavailable
        ⟨w.registry, w.window, w.outside, [.noted (.supervisorAbsent operation)]⟩
  | refused {record : NamedSession} {refusal : Refusal} {reads : Trace}
      (known : w.registry.firstNamed service = some record)
      (encoded : Encoded env w operation (.error refusal) reads) :
      Consulted env operation w .unavailable
        ⟨w.registry, w.window, w.outside, reads ++ [.noted (.notEncoded operation refusal)]⟩
  | unreachable {record : NamedSession} {request : Request} {reads : Trace}
      {result : ResultCode} {outside : σ}
      (known : w.registry.firstNamed service = some record)
      (encoded : Encoded env w operation (.ok request) reads)
      (opened : env.openSession record.session w.outside = (.error result, outside)) :
      Consulted env operation w .unavailable
        ⟨w.registry, w.window, outside,
          reads ++ [.opened record.session (.error result),
            .noted (.supervisorUnreachable result)]⟩
  /-- The supervisor failed or declined: the saved words are put back. -/
  | declined {record : NamedSession} {request : Request} {reads : Trace} {handle : Handle}
      {reply : Reply} {before after : σ}
      (known : w.registry.firstNamed service = some record)
      (encoded : Encoded env w operation (.ok request) reads)
      (opened : env.openSession record.session w.outside = (.ok handle, before))
      (sent : env.send handle (request.write (env.pid before) w.window) before = (reply, after))
      (unhandled : isHandled reply = false) :
      Consulted env operation w .declined
        ⟨w.registry.changed reply.changes, reply.window.restore (saved w),
          env.closeHandle handle after,
          reads ++ .opened record.session (.ok handle) ::
            reply.events (.opened record.session handle)
              (request.write (env.pid before) w.window) w.registry ++
            [.noted (.supervisorDeclined operation (env.pid before) reply.result),
              .closed handle]⟩
  | handled {record : NamedSession} {request : Request} {reads : Trace} {handle : Handle}
      {reply : Reply} {before after : σ}
      (known : w.registry.firstNamed service = some record)
      (encoded : Encoded env w operation (.ok request) reads)
      (opened : env.openSession record.session w.outside = (.ok handle, before))
      (sent : env.send handle (request.write (env.pid before) w.window) before = (reply, after))
      (handled : isHandled reply = true) :
      Consulted env operation w .handled
        ⟨w.registry.changed reply.changes, reply.window, env.closeHandle handle after,
          reads ++ .opened record.session (.ok handle) ::
            reply.events (.opened record.session handle)
              (request.write (env.pid before) w.window) w.registry ++
            [.noted (.supervisorHandled operation (env.pid before)), .closed handle]⟩

/-- The supervisor is asked in one of these ways. -/
theorem exists_consulted (env : Environment σ) (operation : Watched) (w : World σ) :
    ∃ verdict c, Consulted env operation w verdict c ∧
      consult env operation w = (verdict, w.after c) := by
  cases known : w.registry.firstNamed service with
  | none => exact ⟨_, _, .absent known, by simp [consult, known]⟩
  | some record =>
    obtain ⟨answer, reads, encoded⟩ := exists_encoded env operation w
    have hencode := encoded.encode_eq
    cases answer with
    | error refusal =>
      exact ⟨_, _, .refused known encoded, by simp [consult, known, hencode]⟩
    | ok request =>
      rcases opened : env.openSession record.session w.outside with ⟨result | handle, before⟩
      · refine ⟨_, _, .unreachable known encoded opened, ?_⟩
        simp [consult, known, hencode, withOpened, opened]
      · rcases sent : env.send handle (request.write (env.pid before) w.window) before with
          ⟨reply, after⟩
        have asked := askSupervisor_course operation (saved w) (.opened record.session handle)
          (w.after ⟨w.registry, w.window, before,
            reads ++ [.opened record.session (.ok handle)]⟩) sent
        cases handled : isHandled reply with
        | true =>
          refine ⟨_, _, .handled known encoded opened sent handled, ?_⟩
          simp [consult, known, hencode, withOpened, opened, asked, handled]
        | false =>
          refine ⟨_, _, .declined known encoded opened sent handled, ?_⟩
          simp [consult, known, hencode, withOpened, opened, asked, handled]

end Engine

end Interception
