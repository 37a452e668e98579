/-
The words of a request to the supervisor.

A request is written over the leading words of the window, and the words after it stay.

* `Window.word_setAll_zipIdx` — writing successive words;
* `Supervisor.Request.word_write` — the words of the window after a request was written;
* `Supervisor.Encoded.operation_eq` — what is encoded is the operation that is asked about.
-/
import Interception.Proofs.Course.Consult

namespace Interception

variable {σ : Type}

/-- Writing successive words from some word on. -/
theorem Window.word_setAll_zipIdx (w : Window) (words : List UInt32) (start i : Nat) :
    (w.setAll ((words.zipIdx start).map fun entry => (entry.2, entry.1))).word i =
      if start ≤ i ∧ i < size then (words[i - start]?).getD (w.word i) else w.word i := by
  induction words generalizing w start with
  | nil => simp [setAll]
  | cons v rest ih =>
    -- After the first word the others are written from the next word on.
    have step : w.setAll (((v :: rest).zipIdx start).map fun entry => (entry.2, entry.1)) =
        (w.set start v).setAll ((rest.zipIdx (start + 1)).map fun entry => (entry.2, entry.1)) := by
      simp [setAll, List.zipIdx_cons]
    rw [step, ih, word_set]
    rcases Nat.lt_trichotomy i start with before | rfl | after
    · have h : ¬ start + 1 ≤ i := by omega
      have h' : ¬ start ≤ i := by omega
      have h'' : start ≠ i := by omega
      simp [h, h', h'']
    · have h : ¬ i + 1 ≤ i := by omega
      by_cases inside : i < size <;> simp [h, inside]
    · have h : start + 1 ≤ i := by omega
      have h' : start ≤ i := by omega
      have h'' : start ≠ i := by omega
      obtain ⟨k, hk⟩ : ∃ k, i - start = k + 1 := ⟨i - start - 1, by omega⟩
      have hk' : i - (start + 1) = k := by omega
      simp [h, h', h'', hk, hk']

namespace Supervisor

namespace Request

theorem length_words_le (r : Request) (pid : UInt32) : (r.words pid).length ≤ 5 := by
  cases r <;> simp [words, arguments]

/-- The window after a request was written: its words, and then the words that were there. -/
theorem word_write (r : Request) (pid : UInt32) (w : Window) (i : Nat) :
    (r.write pid w).word i = ((r.words pid)[i]?).getD (w.word i) := by
  rw [write, Window.word_setAll_zipIdx]
  by_cases inside : i < Window.size
  · simp [inside]
  -- No request reaches to the end of the window.
  · have short : (r.words pid).length ≤ Window.size :=
      Nat.le_trans (r.length_words_le pid) (by decide)
    have none : (r.words pid)[i]? = none :=
      List.getElem?_eq_none (Nat.le_trans short (Nat.not_lt.mp inside))
    simp [inside, none]

/-- The word that is read as the flag of a reply holds the number of the operation in the
request. -/
theorem word_write_handledWord (r : Request) (pid : UInt32) (w : Window) :
    (r.write pid w).word handledWord = r.operation.number := by
  rw [word_write]
  cases r <;> simp [words, handledWord]

/-- The words that are not saved are not written. -/
theorem word_write_of_le (r : Request) (pid : UInt32) (w : Window) {i : Nat}
    (after : keptWords ≤ i) : (r.write pid w).word i = w.word i := by
  have short : (r.words pid).length ≤ keptWords := Nat.le_trans (r.length_words_le pid) (by decide)
  have none : (r.words pid)[i]? = none := List.getElem?_eq_none (Nat.le_trans short after)
  rw [word_write, none, Option.getD_none]

end Request

/-- What is encoded is the operation that is asked about. -/
theorem Encoded.operation_eq {env : Environment σ} {w : World σ} {operation : Watched}
    {request : Request} {reads : Trace}
    (encoded : Encoded env w operation (.ok request) reads) : request.operation = operation := by
  generalize answer : Except.ok request = encodes at encoded
  cases encoded with
  | deleteFile =>
    cases path : Request.path (saved w) with
    | ok p => simp_all [Except.map, Request.operation]
    | error refusal => simp_all [Except.map]
  | deleteDirectory =>
    cases path : Request.path (saved w) with
    | ok p => simp_all [Except.map, Request.operation]
    | error refusal => simp_all [Except.map]
  | socketConnect accepted read =>
    cases answer
    rfl
  | cameraCapture =>
    cases answer
    rfl
  | _ => cases answer

end Supervisor

end Interception
