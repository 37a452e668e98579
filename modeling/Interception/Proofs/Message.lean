/-
The message to the supervisor.

The supervisor is sent a message over a window that still holds the request of the caller.  The
header of the message declares how long it is, and the words are written one by one, so that it has
to be shown that the two agree: what the header declares is what was written, and nothing of the
caller's request is part of the message.

The words of a message can be read back (`Request.decode`).  So no two requests have the same words,
and the words depend on those parts of the request only that are encoded.

* `Supervisor.Request.decode_eq_some_iff` — what is read back is what was written;
* `Supervisor.Request.declared_write` — the header declares the words that were written;
* `Supervisor.encoding_eq_of_agree` — requests that agree on a few words are encoded alike;
* `Engine.consult_sends` — the message of a consultation.
-/
import Interception.Proofs.Request
import Interception.Proofs.Verdict

namespace Interception

variable {σ τ : Type}

namespace Watched

/-- How many arguments the request of an operation has. -/
def arity : Watched → Nat
  | deleteFile | deleteDirectory => 2
  | socketConnect => 1
  | cameraCapture => 0

/-- The operation that has a number. -/
def ofNumber? (number : UInt32) : Option Watched :=
  [deleteFile, deleteDirectory, socketConnect, cameraCapture].find? (·.number == number)

theorem ofNumber?_eq_some_iff {number : UInt32} {operation : Watched} :
    ofNumber? number = some operation ↔ operation.number = number := by
  constructor
  · intro found
    simpa using List.find?_some found
  · rintro rfl
    cases operation <;> rfl

end Watched

/-- The words that a header declares, as far as the window reaches. -/
def Window.declared (w : Window) : List UInt32 :=
  w.words.toList.take w.header.totalWords

theorem Window.getElem?_declared (w : Window) {i : Nat} (inside : i < w.header.totalWords)
    (reached : i < size) : w.declared[i]? = some (w.word i) := by
  rw [declared, List.getElem?_take_of_lt inside, word_of_lt w reached]
  simp [reached]

namespace Supervisor

namespace Request

/-! ### Reading a message back -/

/-- The request with given arguments, if they are as many as the operation has. -/
def ofArguments? : Watched → List UInt32 → Option Request
  | .deleteFile, [pointer, size] => some (deleteFile pointer size)
  | .deleteDirectory, [pointer, size] => some (deleteDirectory pointer size)
  | .socketConnect, [address] => some (socketConnect address)
  | .cameraCapture, [] => some cameraCapture
  | _, _ => none

/-- Reads the words of a message back: the request, and the process on behalf of which it is made.
A message with another header than that of its request is refused. -/
def decode : List UInt32 → Option (Request × UInt32)
  | header :: pid :: number :: arguments => do
    let operation ← Watched.ofNumber? number
    let request ← ofArguments? operation arguments
    if request.header.raw = header then some (request, pid) else none
  | _ => none

theorem length_arguments (r : Request) : r.arguments.length = r.operation.arity := by
  cases r <;> rfl

theorem ofArguments?_eq_some_iff {operation : Watched} {arguments : List UInt32} {r : Request} :
    ofArguments? operation arguments = some r ↔
      r.operation = operation ∧ r.arguments = arguments := by
  constructor
  · intro taken
    match operation, arguments, taken with
    | .deleteFile, [_, _], rfl => exact ⟨rfl, rfl⟩
    | .deleteDirectory, [_, _], rfl => exact ⟨rfl, rfl⟩
    | .socketConnect, [_], rfl => exact ⟨rfl, rfl⟩
    | .cameraCapture, [], rfl => exact ⟨rfl, rfl⟩
  · rintro ⟨rfl, rfl⟩
    cases r <;> rfl

/-- What is read back is what was written. -/
theorem decode_eq_some_iff {message : List UInt32} {r : Request} {pid : UInt32} :
    decode message = some (r, pid) ↔ message = r.words pid := by
  constructor
  · intro read
    match message with
    | header :: sender :: number :: arguments =>
      obtain ⟨operation, known, rest⟩ := Option.bind_eq_some_iff.mp read
      obtain ⟨request, taken, checked⟩ := Option.bind_eq_some_iff.mp rest
      obtain ⟨rfl, rfl⟩ := ofArguments?_eq_some_iff.mp taken
      obtain rfl := Watched.ofNumber?_eq_some_iff.mp known
      split at checked
      · rename_i declared
        cases checked
        rw [words, declared]
      · cases checked
    | [] | [_] | [_, _] => cases read
  · rintro rfl
    have known := Watched.ofNumber?_eq_some_iff.mpr (rfl : r.operation.number = _)
    have taken := ofArguments?_eq_some_iff.mpr ⟨(rfl : r.operation = _), (rfl : r.arguments = _)⟩
    simp [words, decode, known, taken]

/-- Two messages with the same words are the same request on behalf of the same process. -/
theorem words_injective {r s : Request} {pid qid : UInt32} (same : r.words pid = s.words qid) :
    r = s ∧ pid = qid := by
  have read := decode_eq_some_iff.mpr same
  rw [decode_eq_some_iff.mpr rfl] at read
  cases read
  exact ⟨rfl, rfl⟩

/-! ### The message over the request of the caller -/

theorem totalWords_header (r : Request) : r.header.totalWords = 3 + r.operation.arity := by
  rw [header, Header.totalWords, Header.normalWords_make, Header.translateWords_make,
    length_arguments]
  cases r.operation <;> rfl

theorem length_words (r : Request) (pid : UInt32) :
    (r.words pid).length = 3 + r.operation.arity := by
  rw [words, List.length_cons, List.length_cons, List.length_cons, length_arguments]
  omega

theorem header_write (r : Request) (pid : UInt32) (w : Window) :
    (r.write pid w).header = r.header := by
  rw [Window.header, word_write]
  rfl

/-- The header declares the words that were written and no others. -/
theorem declared_write (r : Request) (pid : UInt32) (w : Window) :
    (r.write pid w).declared = r.words pid := by
  have total : (r.write pid w).header.totalWords = (r.words pid).length := by
    rw [header_write, totalWords_header, length_words]
  have short := r.length_words_le pid
  have size : Window.size = 64 := rfl
  apply List.ext_getElem?
  intro i
  by_cases inside : i < (r.words pid).length
  · rw [Window.getElem?_declared _ (by omega) (by omega), word_write,
      List.getElem?_eq_getElem inside, Option.getD_some]
  · have cut : (r.write pid w).declared.length ≤ (r.write pid w).header.totalWords :=
      List.length_take_le _ _
    rw [List.getElem?_eq_none (by omega), List.getElem?_eq_none (by omega)]

end Request

/-- A message to the supervisor, given what is asked, on behalf of which process, with which
arguments, and the window of the caller. -/
structure Carries (operation : Watched) (pid : UInt32) (arguments : List UInt32)
    (window message : Window) : Prop where
  header : message.word 0 = (Header.make 100 (2 + operation.arity) 0).raw
  sender : message.word 1 = pid
  number : message.word 2 = operation.number
  arity : arguments.length = operation.arity
  argument : ∀ i (h : i < arguments.length), message.word (3 + i) = arguments[i]
  /-- All that the header declares are these words. -/
  declared : message.declared =
    (Header.make 100 (2 + operation.arity) 0).raw :: pid :: operation.number :: arguments
  /-- What stands behind them is what the caller has left there. -/
  kept : ∀ i, 3 + operation.arity ≤ i → message.word i = window.word i

theorem Request.carries_write (r : Request) (pid : UInt32) (w : Window) :
    Carries r.operation pid r.arguments w (r.write pid w) := by
  have header : r.header = Header.make 100 (2 + r.operation.arity) 0 := by
    rw [Request.header, length_arguments]
    rfl
  refine ⟨?_, ?_, ?_, r.length_arguments, fun i inside => ?_, ?_, fun i behind => ?_⟩
  · rw [word_write, ← header]; rfl
  · rw [word_write]; rfl
  · rw [word_write]; rfl
  · have later : (r.words pid)[3 + i]? = r.arguments[i]? := by
      rw [Nat.add_comm]
      rfl
    rw [word_write, later, List.getElem?_eq_getElem inside, Option.getD_some]
  · rw [declared_write, words, header]
  · have length : (r.words pid).length = 3 + r.operation.arity := r.length_words pid
    rw [word_write, List.getElem?_eq_none (by omega), Option.getD_none]

/-! ### What a message depends on -/

theorem word_saved (w : World σ) {i : Nat} (kept : i < keptWords) :
    (saved w).word i = w.window.word i := by
  rw [Window.word_snapshot, if_pos kept]

theorem encoding_socketConnect (env : Environment σ) (w : World σ) :
    encoding env .socketConnect w =
      match Span.check (w.window.word 6 + 4) 4 Region.application with
      | .error fault => .error (.badAddress fault)
      | .ok _ =>
        match env.readMemory (w.window.word 6 + 4) 4 w.outside with
        | .error fault => .error (.badAddress fault)
        | .ok bytes => .ok (.socketConnect (Word.ofBytes bytes)) := by
  have word : (saved w).word 6 = w.window.word 6 := word_saved w (by decide)
  obtain ⟨answer, reads, encoded⟩ := exists_encoded env .socketConnect w
  rw [encoded.encoding_eq]
  cases encoded with
  | badAddress rejected =>
    rw [word] at rejected
    rw [rejected]
  | unreadable accepted read =>
    rw [(Span.check_region accepted).1] at read
    rw [word] at accepted read
    rw [accepted]
    simp only [read]
  | socketConnect accepted read =>
    rw [(Span.check_region accepted).1] at read
    rw [word] at accepted read
    rw [accepted]
    simp only [read]

/-- Whether two requests agree on what is encoded of them. -/
def Agree (env : Environment σ) (env' : Environment τ) (w : World σ) (w' : World τ) :
    Watched → Prop
  | .deleteFile | .deleteDirectory =>
    w.window.word 4 = w'.window.word 4 ∧ w.window.word 5 = w'.window.word 5 ∧
      w.window.word 7 = w'.window.word 7
  | .socketConnect =>
    w.window.word 6 = w'.window.word 6 ∧
      env.readMemory (w.window.word 6 + 4) 4 w.outside =
        env'.readMemory (w.window.word 6 + 4) 4 w'.outside
  | .cameraCapture => True

theorem path_saved (w : World σ) : Request.path (saved w) =
    if w.window.word 4 = utf16Path ∧ w.window.word 5 ≠ 0 ∧ w.window.word 7 ≠ 0 then
      .ok (w.window.word 7, w.window.word 5)
    else .error .badPath := by
  rw [Request.path, word_saved w (by decide : 4 < keptWords),
    word_saved w (by decide : 5 < keptWords), word_saved w (by decide : 7 < keptWords)]

/-- Requests that agree on this are encoded alike, and refused alike. -/
theorem encoding_eq_of_agree {env : Environment σ} {env' : Environment τ} {w : World σ}
    {w' : World τ} {operation : Watched} (agree : Agree env env' w w' operation) :
    encoding env operation w = encoding env' operation w' := by
  cases operation with
  | deleteFile =>
    obtain ⟨kind, size, pointer⟩ := agree
    rw [Encoded.deleteFile.encoding_eq, Encoded.deleteFile.encoding_eq, path_saved, path_saved,
      kind, size, pointer]
  | deleteDirectory =>
    obtain ⟨kind, size, pointer⟩ := agree
    rw [Encoded.deleteDirectory.encoding_eq, Encoded.deleteDirectory.encoding_eq, path_saved,
      path_saved, kind, size, pointer]
  | socketConnect =>
    obtain ⟨pointer, memory⟩ := agree
    rw [encoding_socketConnect, encoding_socketConnect, memory, pointer]
  | cameraCapture => rw [Encoded.cameraCapture.encoding_eq, Encoded.cameraCapture.encoding_eq]

end Supervisor

theorem Supervisor.operation_of_encoding {env : Environment σ} {operation : Watched} {w : World σ}
    {request : Request} (encoded : encoding env operation w = .ok request) :
    request.operation = operation := by
  obtain ⟨answer, reads, encodes⟩ := exists_encoded env operation w
  rw [encodes.encoding_eq] at encoded
  subst encoded
  exact encodes.operation_eq

namespace Engine

open Supervisor

/-! ### The message of a consultation -/

/-- The message that a consultation sends on behalf of a process: the only call that it makes, on
the handle that it has opened. -/
def Sends (env : Environment σ) (operation : Watched) (w : World σ) (pid : UInt32)
    (message : Window) : Prop :=
  ∃ record handle before result events,
    w.registry.firstNamed service = some record ∧
    env.openSession record.session w.outside = (.ok handle, before) ∧
    env.pid before = pid ∧
    (consult env operation w).2.trace = w.trace ++ events ∧
    events.sendings = [⟨.opened record.session handle, message, result⟩]

variable {env : Environment σ} {operation : Watched} {w : World σ} {pid : UInt32}
  {message : Window}

/-- A consultation that makes a call sends a request that was encoded. -/
theorem exists_sends {events : Trace}
    (trace : (consult env operation w).2.trace = w.trace ++ events) (sent : events.sendings ≠ []) :
    ∃ record request handle before result,
      w.registry.firstNamed service = some record ∧
      encoding env operation w = .ok request ∧
      env.openSession record.session w.outside = (.ok handle, before) ∧
      events.sendings = [⟨.opened record.session handle,
        request.write (env.pid before) w.window, result⟩] := by
  obtain ⟨verdict, c, consulted, took⟩ := exists_consulted env operation w
  rw [took, World.trace_after] at trace
  obtain rfl := List.append_cancel_left trace
  have judges := consulted.judges
  obtain ⟨reply, asks⟩ := judges.asks fun unavailable => sent (judges.untouched unavailable).2
  obtain ⟨record, request, handle, before, _, known, encoded, opened, -, sendings⟩ := asks.asked
  exact ⟨record, request, handle, before, reply.result, known, encoded, opened, sendings⟩

theorem Sends.exists_request (sends : Sends env operation w pid message) :
    ∃ request, encoding env operation w = .ok request ∧ message = request.write pid w.window := by
  obtain ⟨record, handle, before, result, events, known, opened, rfl, trace, sendings⟩ := sends
  obtain ⟨_, request, _, _, _, known', encoded, opened', sendings'⟩ :=
    exists_sends trace (by simp [sendings])
  cases known.symm.trans known'
  cases opened.symm.trans opened'
  rw [sendings] at sendings'
  cases sendings'
  exact ⟨request, encoded, rfl⟩

theorem exists_sends_of_opened {record : NamedSession} {request : Request} {handle : Handle}
    {before : σ} (known : w.registry.firstNamed service = some record)
    (encoded : encoding env operation w = .ok request)
    (opened : env.openSession record.session w.outside = (.ok handle, before)) :
    ∃ message, Sends env operation w (env.pid before) message := by
  obtain ⟨answer, reads, encodes⟩ := exists_encoded env operation w
  obtain rfl : answer = .ok request := encodes.encoding_eq.symm.trans encoded
  obtain ⟨verdict, c, consulted, took⟩ := exists_consulted env operation w
  have judges := consulted.judges
  have askable := not_unaskable known encodes opened
  obtain ⟨reply, asks⟩ := judges.asks fun unavailable =>
    askable (judges.unavailable_iff.mp unavailable)
  obtain ⟨_, _, _, _, _, known', -, opened', -, sendings⟩ := asks.asked
  cases known.symm.trans known'
  cases opened.symm.trans opened'
  exact ⟨_, record, handle, before, reply.result, c.events, known, opened, rfl,
    by rw [took, World.trace_after], sendings⟩

theorem exists_sends_of_mem {events : Trace} {s : Sending}
    (trace : (consult env operation w).2.trace = w.trace ++ events) (sent : s ∈ events.sendings) :
    ∃ pid, Sends env operation w pid s.request := by
  obtain ⟨record, request, handle, before, result, known, -, opened, sendings⟩ :=
    exists_sends trace (List.ne_nil_of_mem sent)
  rw [sendings, List.mem_singleton] at sent
  subst sent
  exact ⟨_, record, handle, before, result, events, known, opened, rfl, trace, sendings⟩

/-- The account of a message to the supervisor. -/
structure Delegates (env : Environment σ) (operation : Watched) (w : World σ) (pid : UInt32)
    (message : Window) : Prop where
  /-- It carries what the request was encoded as, and that is read back from it. -/
  carries : ∃ request, encoding env operation w = .ok request ∧ request.operation = operation ∧
    Carries operation pid request.arguments w.window message ∧
    Request.decode message.declared = some (request, pid)
  /-- Another message with the same declared words is about the same operation with the same
  arguments, on behalf of the same process. -/
  unforgeable : ∀ {τ : Type} (env' : Environment τ) (operation' : Watched) (w' : World τ)
    (pid' : UInt32) (message' : Window), Sends env' operation' w' pid' message' →
      message.declared = message'.declared →
        operation = operation' ∧ pid = pid' ∧
          encoding env operation w = encoding env' operation' w'
  /-- The declared words depend on nothing but the process and what is encoded of the request. -/
  independent : ∀ {τ : Type} (env' : Environment τ) (w' : World τ) (message' : Window),
    Sends env' operation w' pid message' → Agree env env' w w' operation →
      message.declared = message'.declared

theorem Sends.delegates (sends : Sends env operation w pid message) :
    Delegates env operation w pid message := by
  obtain ⟨request, encoded, rfl⟩ := sends.exists_request
  obtain rfl := operation_of_encoding encoded
  refine ⟨⟨request, encoded, rfl, request.carries_write pid w.window, ?_⟩, ?_, ?_⟩
  · rw [request.declared_write, Request.decode_eq_some_iff]
  · intro τ env' operation' w' pid' message' sends' same
    obtain ⟨request', encoded', rfl⟩ := sends'.exists_request
    obtain rfl := operation_of_encoding encoded'
    rw [request.declared_write, request'.declared_write] at same
    obtain ⟨rfl, rfl⟩ := Request.words_injective same
    exact ⟨rfl, rfl, encoded.trans encoded'.symm⟩
  · intro τ env' w' message' sends' agree
    obtain ⟨request', encoded', rfl⟩ := sends'.exists_request
    rw [encoding_eq_of_agree agree, encoded'] at encoded
    cases encoded
    rw [request.declared_write, request.declared_write]

/-- A request that can be encoded and put to the supervisor is sent to it, and every message that a
consultation sends is complete: its header declares what was written, what was written can be read
back, and it depends on nothing else. -/
theorem consult_sends (env : Environment σ) (operation : Watched) (w : World σ) :
    (∀ record request handle before, w.registry.firstNamed service = some record →
      encoding env operation w = .ok request →
      env.openSession record.session w.outside = (.ok handle, before) →
        ∃ message, Sends env operation w (env.pid before) message) ∧
    (∀ events s, (consult env operation w).2.trace = w.trace ++ events → s ∈ events.sendings →
      ∃ pid, Sends env operation w pid s.request) ∧
    ∀ pid message, Sends env operation w pid message → Delegates env operation w pid message := by
  refine ⟨?_, ?_, ?_⟩
  · intro record request handle before known encoded opened
    exact exists_sends_of_opened known encoded opened
  · intro events s trace sent
    exact exists_sends_of_mem trace sent
  · intro pid message sends
    exact sends.delegates

open Simulation.Scripted in
/-- The supervisor is asked about a directory by its path and the size of that, and the words behind
the message are those of the caller. -/
theorem scribbledDeletion_sent :
    ∃ message, Sends environment .deleteDirectory scribbled 48 message ∧
      message.declared = [0x00640100, 48, 1, 0x08001000, 64] ∧
      ∀ i, 5 ≤ i → message.word i = scribbled.window.word i := by
  obtain ⟨record, known⟩ := Option.isSome_iff_exists.mp
    (show (scribbled.registry.firstNamed service).isSome = true by decide +kernel)
  have encoded : encoding environment .deleteDirectory scribbled =
      .ok (.deleteDirectory 0x08001000 64) := by
    obtain ⟨kind, size, pointer⟩ : scribbled.window.word 4 = 4 ∧ scribbled.window.word 5 = 64 ∧
        scribbled.window.word 7 = 0x08001000 := by decide +kernel
    rw [Encoded.deleteDirectory.encoding_eq, path_saved, kind, size, pointer]
    rfl
  have sends := consult_sends environment .deleteDirectory scribbled
  obtain ⟨message, sent⟩ := sends.1 record _ ⟨32768⟩ _ known encoded rfl
  obtain ⟨request, encoded', -, carries, -⟩ := (sends.2.2 48 message sent).carries
  cases encoded.symm.trans encoded'
  exact ⟨message, sent, carries.declared, carries.kept⟩

end Engine

end Interception
