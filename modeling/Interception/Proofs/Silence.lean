/-
A supervisor that does not say whether it answered.

The third word of a reply says whether the supervisor answered the request.  A reply is written
over the request, though, and the third word of the request is the number of the operation.  So a
supervisor that only reports a result, and leaves the other words alone, is read as if it had
written that number: only the operation with the number zero, the deletion of a file, goes on to
its service as it should.  The other three are never sent, and their callers are told that they
succeeded.

* `Engine.Consulted.silent` — what a consultation makes of silence;
* `Engine.silent_supervisor` — what becomes of the request;
* `Engine.directoryDeletion_suppressed` — a deletion that nobody carries out.
-/
import Interception.Proofs.Course.Views
import Interception.Proofs.Forwarding
import Interception.Proofs.Request

namespace Interception

variable {σ : Type}

/-- Whether an event is a call on an opened handle that succeeds and whose reply leaves all words
but the first two as they were. -/
def Event.isSilentAnswer : Event → Bool
  | .sent (.opened _ _) request reply result =>
    result.isSuccess && reply == (request.set 0 (reply.word 0)).set 1 (reply.word 1)
  | _ => false

theorem Event.isSilentAnswer_isResourceView : IsResourceView (Option.guard isSilentAnswer) :=
  ⟨fun _ _ _ _ => rfl, fun _ _ _ => rfl, fun _ _ _ => rfl, fun _ => rfl, rfl, fun _ => rfl⟩

/-- Where the view of some events keeps nothing there are none. -/
theorem Trace.any_eq_false {p : Event → Bool} {t : Trace}
    (h : t.filterMap (Option.guard p) = []) : t.any p = false := by
  rw [List.filterMap_eq_nil_iff] at h
  rw [List.any_eq_false]
  intro e he
  simpa [Option.guard] using h e he

/-- Words that are not written stay. -/
theorem Window.word_of_eq_set {request reply : Window} {a b : UInt32}
    (h : reply = (request.set 0 a).set 1 b) {i : Nat} (hi : 1 < i) :
    reply.word i = request.word i := by
  have h₀ : ¬ 0 = i := by omega
  have h₁ : ¬ 1 = i := by omega
  rw [h, word_set, if_neg (fun c => h₁ c.1), word_set, if_neg (fun c => h₀ c.1)]

theorem Watched.number_eq_zero_iff (operation : Watched) :
    operation.number = 0 ↔ operation = .deleteFile :=
  ⟨fun h => number_injective h, fun h => by rw [h]; rfl⟩

namespace Supervisor

/-- In a reply that leaves the third word as it was, the number of the operation is taken for the
flag. -/
theorem isHandled_of_word_eq {request : Request} {pid : UInt32} {w : Window} {reply : Reply}
    (success : reply.result.isSuccess = true)
    (kept : reply.window.word handledWord = (request.write pid w).word handledWord) :
    isHandled reply = true ↔ request.operation ≠ .deleteFile := by
  rw [isHandled, success, kept, Request.word_write_handledWord, Bool.true_and, bne_iff_ne, ne_eq,
    Watched.number_eq_zero_iff]

/-- If the saved words are put back over a reply that wrote the first two words only, the window is
as it was before the request was written. -/
theorem restore_of_eq_set {request : Request} {pid : UInt32} {w : World σ} {reply : Window}
    {a b : UInt32} (h : reply = ((request.write pid w.window).set 0 a).set 1 b) :
    reply.restore (saved w) = w.window := by
  apply (Window.restore_snapshot_eq_iff reply w.window keptWords).mpr
  intro i after _
  rw [Window.word_of_eq_set h (Nat.lt_of_lt_of_le (by decide) after),
    Request.word_write_of_le request pid w.window after]

end Supervisor

namespace Engine

/-- What a consultation makes of silence: a request to delete a file is put back, and any other is
taken for answered. -/
structure Silenced (operation : Watched) (before : Window) (verdict : Consultation)
    (after : Window) : Prop where
  file : operation = .deleteFile → verdict = .declined ∧ after = before
  other : operation ≠ .deleteFile → verdict = .handled

theorem silent_events {reads : Trace} {session : SessionId} {handle : Handle} {request : Window}
    {reply : Reply} {registry : Registry} {notice : Notice}
    (quiet : reads.any Event.isSilentAnswer = false)
    (silent : (reads ++ Event.opened session (.ok handle) ::
      reply.events (.opened session handle) request registry ++
        [Event.noted notice, Event.closed handle]).any Event.isSilentAnswer = true) :
    reply.result.isSuccess = true ∧
      reply.window = (request.set 0 (reply.window.word 0)).set 1 (reply.window.word 1) := by
  simpa [quiet, Reply.events, Event.isSilentAnswer] using silent

theorem Consulted.silent {env : Environment σ} {operation : Watched} {w : World σ}
    {verdict : Consultation} {c : Course σ} (consulted : Consulted env operation w verdict c)
    (silent : c.events.any Event.isSilentAnswer = true) :
    Silenced operation w.window verdict c.window := by
  have quiet {answer : Except Supervisor.Refusal Supervisor.Request} {reads : Trace}
      (encoded : Supervisor.Encoded env w operation answer reads) :
      reads.any Event.isSilentAnswer = false := by
    cases encoded <;> rfl
  cases consulted with
  | absent unknown => cases silent
  | refused known encoded => simp [quiet encoded, Event.isSilentAnswer] at silent
  | unreachable known encoded opened => simp [quiet encoded, Event.isSilentAnswer] at silent
  | declined known encoded opened sent unhandled =>
    obtain ⟨success, kept⟩ := silent_events (quiet encoded) silent
    have flag := Supervisor.isHandled_of_word_eq success (Window.word_of_eq_set kept (by decide))
    rw [unhandled, encoded.operation_eq] at flag
    exact ⟨fun _ => ⟨rfl, Supervisor.restore_of_eq_set kept⟩,
      fun other => absurd (flag.mpr other) (by decide)⟩
  | handled known encoded opened sent handled =>
    obtain ⟨success, kept⟩ := silent_events (quiet encoded) silent
    have flag := Supervisor.isHandled_of_word_eq success (Window.word_of_eq_set kept (by decide))
    rw [handled, encoded.operation_eq] at flag
    exact ⟨fun file => absurd file (flag.mp rfl), fun _ => rfl⟩

/-- Only the supervisor is ever silent. -/
theorem Acted.silent {env : Environment σ} {handle : Handle} {w : World σ} {action : Action}
    {outcome : Outcome} {c : Course σ} (acted : Acted env handle w action outcome c)
    (silent : c.events.any Event.isSilentAnswer = true) :
    ∃ operation verdict, action = .consult operation ∧ outcome = verdict.outcome ∧
      consult env operation w = (verdict, w.after c) ∧
      Silenced operation w.window verdict c.window := by
  have view := Event.isSilentAnswer_isResourceView
  have unheard {t : Trace} (none : t.filterMap (Option.guard Event.isSilentAnswer) = [])
      (some : t.any Event.isSilentAnswer = true) : False := by
    rw [Trace.any_eq_false none] at some
    cases some
  cases acted with
  | consulted consulted took => exact ⟨_, _, rfl, rfl, took, consulted.silent silent⟩
  | learnt learnt =>
    exact (unheard (learnt.filterMap_events view (fun _ => rfl) fun _ _ => rfl) silent).elim
  | relayed relayed => exact (unheard (relayed.filterMap_events view) silent).elim
  | logoOpened opened took => exact (unheard (opened.filterMap_events view) silent).elim
  | _ => cases silent

/-- What becomes of a request about which the supervisor was silent. -/
structure SilentCourse (env : Environment σ) (handle : Handle) (w v : World σ)
    (operation : Watched) : Prop where
  /-- A request to delete a file goes on to its service as its caller wrote it. -/
  file : operation = .deleteFile →
    (consult env operation v).1 = .declined ∧ (consult env operation v).2.window = w.window ∧
      (examine env handle w).1 = .forward ∧ (examine env handle w).2.window = w.window ∧
      call env handle w = send env (.caller handle) (examine env handle w).2
  /-- Any other request is answered with success and never sent. -/
  other : operation ≠ .deleteFile →
    (consult env operation v).1 = .handled ∧ (examine env handle w).1 = .answered .success ∧
      call env handle w = (.success, (examine env handle w).2)

theorem Examined.silent {env : Environment σ} {handle : Handle} {w : World σ} {outcome : Outcome}
    {c : Course σ} (examined : Examined env handle w outcome c)
    (hexamine : examine env handle w = (outcome, w.after c))
    (silent : c.events.any Event.isSilentAnswer = true) :
    ∃ rule v operation, reached env handle w = some (rule, v) ∧
      rule.action = .consult operation ∧ SilentCourse env handle w v operation := by
  have unheard {s outside : σ} {resolution : Resolution} {looked : Trace}
      (resolved : Resolved env handle s resolution outside looked) :
      looked.any Event.isSilentAnswer = false :=
    Trace.any_eq_false (resolved.filterMap_looked (fun _ => rfl) fun _ _ => rfl)
  cases examined with
  | unresolved resolved => simp [unheard resolved, Event.isSilentAnswer] at silent
  | unruled resolved unruled => simp [unheard resolved, Event.isSilentAnswer] at silent
  | ruled resolved known chosen acted =>
    simp only [List.append_assoc, List.cons_append, List.any_append, unheard resolved,
      List.any_cons] at silent
    obtain ⟨operation, verdict, action, rfl, took, silenced⟩ :=
      acted.silent (by simpa [Event.isSilentAnswer] using silent)
    refine ⟨_, _, operation, resolved.reached_ruled known chosen, action, ?_, ?_⟩
    · intro file
      obtain ⟨rfl, window⟩ := silenced.file file
      simp [took, window, hexamine, call, Consultation.outcome]
    · intro other
      obtain rfl := silenced.other other
      simp [took, hexamine, call, Consultation.outcome]

/-- Where the supervisor succeeds and leaves all words but the first two as they were, a request to
delete a file is put back and goes on to its service, and no other request does. -/
theorem silent_supervisor (env : Environment σ) :
    (∀ (operation : Watched) (w : World σ),
      ((consult env operation w).2.trace.drop w.trace.length).any Event.isSilentAnswer = true →
        Silenced operation w.window (consult env operation w).1
          (consult env operation w).2.window) ∧
    ∀ (handle : Handle) (w : World σ),
      ((call env handle w).2.trace.drop w.trace.length).any Event.isSilentAnswer = true →
        ∃ rule v operation, reached env handle w = some (rule, v) ∧
          rule.action = .consult operation ∧ SilentCourse env handle w v operation := by
  constructor
  · intro operation w silent
    obtain ⟨verdict, c, consulted, took⟩ := exists_consulted env operation w
    rw [took] at silent ⊢
    exact consulted.silent (by simpa using silent)
  · intro handle w silent
    obtain ⟨outcome, c, examined, hexamine⟩ := exists_examined env handle w
    refine examined.silent hexamine ?_
    cases outcome with
    | answered result => simpa [call, hexamine] using silent
    | forward =>
      rcases sent : env.send handle c.window c.outside with ⟨reply, outside⟩
      -- The call on the handle of the caller is not one on an opened handle.
      have own := Trace.any_eq_false (filterMap_own_events Event.isSilentAnswer_isResourceView
        reply handle c.window c.registry)
      simpa [call_forward hexamine sent, own] using silent

open Simulation Scripted

/-- A request to delete a directory, where the supervisor replies with a result and nothing
else. -/
def silentDeletion : Stage :=
  supervised { ScriptedReply.quiet with edits := [(0, 0x00640040), (1, 0)] } directoryDeletion

/-- The directory is not deleted, and its caller is told that all went well. -/
theorem directoryDeletion_suppressed :
    (examine environment ⟨256⟩ silentDeletion).1 = .answered .success ∧
      call environment ⟨256⟩ silentDeletion =
        (.success, (examine environment ⟨256⟩ silentDeletion).2) := by
  obtain ⟨rule, v, operation, reached, action, course⟩ :=
    (silent_supervisor environment).2 ⟨256⟩ silentDeletion (by decide +kernel)
  have taken : (Engine.reached environment ⟨256⟩ silentDeletion).map (·.1.action) =
      some (.consult .deleteDirectory) := by decide +kernel
  have directory : operation = .deleteDirectory := by simpa [reached, action] using taken
  exact (course.other (by rw [directory]; decide)).2

/-- So a supervisor that does not say that it answered may still keep a request from its
service. -/
theorem not_forward_of_silent :
    ¬ ∀ (env : Environment Kernel) (handle : Handle) (w : Stage),
      ((call env handle w).2.trace.drop w.trace.length).any Event.isSilentAnswer = true →
        (examine env handle w).1 = .forward := by
  intro forwarded
  have becomes := forwarded environment ⟨256⟩ silentDeletion (by decide +kernel)
  revert becomes
  decide +kernel

end Engine

end Interception
