/-
The verdict on a watched request.

Asking the supervisor has three results.  It is unavailable if no session has its name, if the
request cannot be encoded, or if no handle can be opened; all this is found out before the window
is written and before anything is sent.  Otherwise one request is sent to it, and what comes back
decides: without a success and a flag in the reply the saved words are put back, and with both of
them the window stays as the reply left it.

* `Supervisor.Encoded.encoding_eq` — what the request is encoded as;
* `Engine.Consulted.judges` — the three results, and what each leaves;
* `Engine.consult_judges` — the same of the computation, and what becomes of the request then.
-/
import Interception.Proofs.Forwarding
import Interception.Proofs.Sendings

namespace Interception

variable {σ : Type}

namespace Supervisor

/-- What the request in the window is encoded as for the supervisor. -/
def encoding (env : Environment σ) (operation : Watched) (w : World σ) :
    Except Refusal Request :=
  (Request.encode (Engine.readMemory env) operation (saved w) w).1

theorem Encoded.encoding_eq {env : Environment σ} {operation : Watched} {w : World σ}
    {answer : Except Refusal Request} {reads : Trace}
    (encoded : Encoded env w operation answer reads) : encoding env operation w = answer := by
  rw [encoding, encoded.encode_eq]

/-- Why a request cannot be put to the supervisor. -/
inductive Unaskable (env : Environment σ) (operation : Watched) (w : World σ) : Prop where
  /-- No session has the name of the supervisor. -/
  | absent (unnamed : ∀ x ∈ w.registry.records, x.name.equals service = false)
  | refused {refusal : Refusal} (encoded : encoding env operation w = .error refusal)
  | unreachable {record : NamedSession} {result : ResultCode} {outside : σ}
      (known : w.registry.firstNamed service = some record)
      (opened : env.openSession record.session w.outside = (.error result, outside))

theorem unnamed_of_firstNamed_eq_none {r : Registry} {name : String}
    (unknown : r.firstNamed name = none) : ∀ x ∈ r.records, x.name.equals name = false := by
  intro x hx
  simpa using List.find?_eq_none.mp unknown x hx

/-- A request can be put to the supervisor if it is there, the request is encoded and a handle is
opened. -/
theorem not_unaskable {env : Environment σ} {operation : Watched} {w : World σ}
    {record : NamedSession} {request : Request} {reads : Trace} {handle : Handle} {outside : σ}
    (known : w.registry.firstNamed service = some record)
    (encoded : Encoded env w operation (.ok request) reads)
    (opened : env.openSession record.session w.outside = (.ok handle, outside)) :
    ¬ Unaskable env operation w := by
  rintro (unnamed | refused | ⟨known', unopened⟩)
  · have named := List.find?_some known
    rw [unnamed record (List.mem_of_find?_eq_some known)] at named
    cases named
  · rw [encoded.encoding_eq] at refused
    cases refused
  · cases known.symm.trans known'
    rw [opened] at unopened
    cases unopened

end Supervisor

namespace Engine

open Supervisor

/-- What was asked of the supervisor and what its reply decides, given the verdict, the window
after it and the calls that were made. -/
structure Asks (env : Environment σ) (operation : Watched) (w : World σ) (reply : Reply)
    (verdict : Consultation) (after : Window) (sendings : List Sending) : Prop where
  /-- The request was sent once, on a handle that was opened on the session of the supervisor in
  the first slot. -/
  asked : ∃ record request handle before last,
    w.registry.firstNamed service = some record ∧
    encoding env operation w = .ok request ∧
    env.openSession record.session w.outside = (.ok handle, before) ∧
    env.send handle (request.write (env.pid before) w.window) before = (reply, last) ∧
    sendings = [⟨.opened record.session handle, request.write (env.pid before) w.window,
      reply.result⟩]
  declined : reply.result.isFailure = true ∨ reply.window.word handledWord = 0 →
    verdict = .declined ∧ (∀ i, i < keptWords → after.word i = w.window.word i) ∧
      ∀ i, keptWords ≤ i → after.word i = reply.window.word i
  handled : reply.result.isFailure = false → reply.window.word handledWord ≠ 0 →
    verdict = .handled ∧ after = reply.window

/-- The verdict on a request, with the window after it and the calls that were made. -/
structure Judges (env : Environment σ) (operation : Watched) (w : World σ)
    (verdict : Consultation) (after : Window) (sendings : List Sending) : Prop where
  unavailable_iff : verdict = .unavailable ↔ Unaskable env operation w
  /-- If nothing can be asked, nothing was written or sent. -/
  untouched : verdict = .unavailable → after = w.window ∧ sendings = []
  asks : verdict ≠ .unavailable → ∃ reply, Asks env operation w reply verdict after sendings

theorem judges_unavailable {env : Environment σ} {operation : Watched} {w : World σ}
    {sendings : List Sending} (unaskable : Unaskable env operation w) (unsent : sendings = []) :
    Judges env operation w .unavailable w.window sendings where
  unavailable_iff := ⟨fun _ => unaskable, fun _ => rfl⟩
  untouched := fun _ => ⟨rfl, unsent⟩
  asks := fun h => absurd rfl h

theorem judges_asked {env : Environment σ} {operation : Watched} {w : World σ} {reply : Reply}
    {verdict : Consultation} {after : Window} {sendings : List Sending}
    (askable : ¬ Unaskable env operation w) (answered : verdict ≠ .unavailable)
    (asks : Asks env operation w reply verdict after sendings) :
    Judges env operation w verdict after sendings where
  unavailable_iff := ⟨fun h => absurd h answered, fun h => absurd h askable⟩
  untouched := fun h => absurd h answered
  asks := fun _ => ⟨reply, asks⟩

/-- The three results of asking the supervisor. -/
theorem Consulted.judges {env : Environment σ} {operation : Watched} {w : World σ}
    {verdict : Consultation} {c : Course σ} (consulted : Consulted env operation w verdict c) :
    Judges env operation w verdict c.window c.events.sendings := by
  cases consulted with
  | absent unknown =>
    exact judges_unavailable (.absent (unnamed_of_firstNamed_eq_none unknown)) rfl
  | refused known encoded =>
    exact judges_unavailable (.refused encoded.encoding_eq)
      (by simp [encoded.filterMap_reads])
  | unreachable known encoded opened =>
    exact judges_unavailable (.unreachable known opened)
      (by simp [encoded.filterMap_reads])
  | @declined record request _ handle reply before last known encoded opened sent unhandled =>
    refine judges_asked (not_unaskable known encoded opened) (by decide)
      ⟨⟨record, request, handle, before, last, known, encoded.encoding_eq, opened, sent,
        by simp [encoded.filterMap_reads]⟩, fun _ => ⟨rfl, ?_, ?_⟩, ?_⟩
    · intro i spared
      exact Window.word_restore_snapshot _ _ spared (Nat.lt_trans spared (by decide))
    · intro i after
      exact Window.word_restore_of_le _ _ after
    · intro succeeded flag
      rw [ResultCode.isFailure_eq_not_isSuccess, Bool.not_eq_false'] at succeeded
      simp [isHandled, succeeded, flag] at unhandled
  | @handled record request _ handle reply before last known encoded opened sent handled =>
    refine judges_asked (not_unaskable known encoded opened) (by decide)
      ⟨⟨record, request, handle, before, last, known, encoded.encoding_eq, opened, sent,
        by simp [encoded.filterMap_reads]⟩, ?_, fun _ _ => ⟨rfl, rfl⟩⟩
    rw [isHandled, Bool.and_eq_true, bne_iff_ne] at handled
    rintro (failed | unset)
    · rw [ResultCode.isFailure_eq_not_isSuccess, handled.1] at failed
      cases failed
    · exact absurd unset handled.2

/-- What becomes of a request for which the supervisor was asked in a world. -/
structure Follows (env : Environment σ) (operation : Watched) (handle : Handle) (w v : World σ) :
    Prop where
  /-- Nothing had been done to registry and window when it was asked. -/
  registry : v.registry = w.registry
  window : v.window = w.window
  /-- The window stays as the verdict left it. -/
  kept : (examine env handle w).2.window = (consult env operation v).2.window
  handled : (consult env operation v).1 = .handled → (examine env handle w).1 = .answered .success
  other : (consult env operation v).1 ≠ .handled → (examine env handle w).1 = .forward

theorem follows_of_reached {env : Environment σ} {operation : Watched} {handle : Handle}
    {w v : World σ} {rule : Rule} (hreached : reached env handle w = some (rule, v))
    (action : rule.action = .consult operation) : Follows env operation handle w v := by
  obtain ⟨_, _, rfl, outcome, c, object, acted, -, hexamine⟩ := exists_acted_of_reached hreached
  rw [action] at acted
  cases acted with
  | @consulted _ verdict _ consulted took =>
    refine ⟨rfl, rfl, by rw [hexamine, took]; rfl, ?_, ?_⟩
    · intro handled
      obtain rfl : verdict = .handled := by simpa [took] using handled
      rw [hexamine]
      rfl
    · intro other
      replace other : verdict ≠ .handled := by simpa [took] using other
      rw [hexamine]
      cases verdict with
      | handled => exact absurd rfl other
      | declined => rfl
      | unavailable => rfl

/-- The supervisor is unavailable exactly when it cannot be asked, and then nothing was written or
sent; otherwise the reply to one request decides.  A request that it answered is not sent, and any
other goes on to its service. -/
theorem consult_judges (env : Environment σ) (operation : Watched) :
    (∀ w : World σ, ∃ events, (consult env operation w).2.trace = w.trace ++ events ∧
      Judges env operation w (consult env operation w).1 (consult env operation w).2.window
        events.sendings) ∧
    ∀ (handle : Handle) (w v : World σ) (rule : Rule),
      reached env handle w = some (rule, v) → rule.action = .consult operation →
        Follows env operation handle w v := by
  refine ⟨fun w => ?_, fun handle w v rule => follows_of_reached⟩
  obtain ⟨verdict, c, consulted, took⟩ := exists_consulted env operation w
  rw [took]
  exact ⟨c.events, rfl, consulted.judges⟩

open Simulation.Scripted in
/-- Where the supervisor fails and writes over all words, a request to delete a directory goes on to
its service with its eight words. -/
theorem scribbledDeletion_declined :
    (examine environment ⟨256⟩ scribbled).1 = .forward ∧
      ∀ i, i < keptWords →
        (examine environment ⟨256⟩ scribbled).2.window.word i = scribbled.window.word i := by
  obtain ⟨⟨rule, v⟩, hreached⟩ := Option.isSome_iff_exists.mp
    (show (reached environment ⟨256⟩ scribbled).isSome = true by decide +kernel)
  have taken : (reached environment ⟨256⟩ scribbled).map (fun r =>
      (r.1.action, (consult environment .deleteDirectory r.2).1)) =
        some (.consult .deleteDirectory, .declined) := by decide +kernel
  obtain ⟨action, verdict⟩ : rule.action = .consult .deleteDirectory ∧
      (consult environment .deleteDirectory v).1 = .declined := by simpa [hreached] using taken
  have follows := (consult_judges environment .deleteDirectory).2 _ _ v rule hreached action
  obtain ⟨events, -, judges⟩ := (consult_judges environment .deleteDirectory).1 v
  obtain ⟨reply, asks⟩ := judges.asks (by rw [verdict]; decide)
  refine ⟨follows.other (by rw [verdict]; decide), fun i spared => ?_⟩
  have unhandled : reply.result.isFailure = true ∨ reply.window.word handledWord = 0 := by
    refine Decidable.byContradiction fun h => ?_
    rw [not_or, Bool.not_eq_true] at h
    have handled := (asks.handled h.1 h.2).1
    rw [verdict] at handled
    cases handled
  rw [follows.kept, (asks.declined unhandled).2.1 i spared, follows.window]

end Engine

end Interception
