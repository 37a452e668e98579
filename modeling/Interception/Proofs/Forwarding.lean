/-
A forwarded request is the request of its caller.

Two actions write over the request before they may let it go on: asking the supervisor, and trying
the boot logo on removable storage.  Both put a number of leading words back, which is fixed, while
the length of a message stands in its header.  A row of the table is for one header only, so the
two can be compared row by row (`Rule.totalWords_le_spares`): no message is longer than what its
action puts back, whatever a reply has written over the window.

Language emulation and the handler of fatal errors may write what they like.  What they leave is
sent.

* `Engine.Acted.word_eq` — the words that an action leaves as they were;
* `Engine.Examined.forwards` — the window when the real call is made;
* `Engine.call_forwards` — the real call is made with that window.
-/
import Interception.Proofs.Course.Call
import Interception.Simulation.Scenario

namespace Interception

variable {σ : Type}

namespace Action

/-- How many leading words an action leaves as they were, or puts back, if it lets the request go
on. -/
def spares : Action → Nat
  | consult _ => Supervisor.keptWords
  | openLogo => Logo.requestWords
  | _ => Window.size

/-- Whether an action lets a side feature write over the request. -/
def asksSideFeature : Action → Bool
  | askLanguage | showThrow => true
  | _ => false

end Action

/-- In every row of the table the message is no longer than what the action leaves as it was. -/
theorem Rule.totalWords_le_spares {r : Rule} (h : r ∈ table) :
    r.header.totalWords ≤ r.action.spares := by
  have rows : ∀ r ∈ table, r.header.totalWords ≤ r.action.spares := by decide
  exact rows r h

theorem Rule.totalWords_le_spares_of_select {name : Option ServiceName} {w : Window} {pid : UInt32}
    {host : Host} {r : Rule} (chosen : select name w pid host = some r) :
    w.header.totalWords ≤ r.action.spares := by
  obtain ⟨row, n, -, passes⟩ := applies_of_select chosen
  obtain ⟨header, -⟩ := r.applies_iff.mp passes
  rw [← header]
  exact totalWords_le_spares row

namespace Engine

/-! ### What an action leaves of the request -/

/-- The supervisor may have written anything: if the request goes on, its first words are back. -/
theorem Consulted.word_eq {env : Environment σ} {operation : Watched} {w : World σ}
    {verdict : Consultation} {c : Course σ} (consulted : Consulted env operation w verdict c)
    (forward : verdict.outcome = .forward) {i : Nat} (spared : i < Supervisor.keptWords)
    (inside : i < Window.size) : c.window.word i = w.window.word i := by
  cases consulted with
  | absent unknown => rfl
  | refused known encoded => rfl
  | unreachable known encoded opened => rfl
  | declined known encoded opened sent unhandled =>
    exact Window.word_restore_snapshot _ _ spared inside
  | handled known encoded opened sent handled => cases forward

theorem LogoOpened.word_eq {env : Environment σ} {handle : Handle} {w : World σ} {c : Course σ}
    (opened : LogoOpened env handle w .forward c) {i : Nat} (spared : i < Logo.requestWords)
    (inside : i < Window.size) : c.window.word i = w.window.word i := by
  cases opened with
  | unreadable read => rfl
  | otherFile read other => rfl
  | readOnly read logo wrote => rfl
  | fellBack read logo wrote sent unserved restored =>
    exact Window.word_restore_snapshot _ _ spared inside

/-- An action that asks no side feature and lets the request go on leaves its first words as they
were. -/
theorem Acted.word_eq {env : Environment σ} {handle : Handle} {w : World σ} {action : Action}
    {c : Course σ} (acted : Acted env handle w action .forward c)
    (plain : action.asksSideFeature = false) {i : Nat} (spared : i < action.spares)
    (inside : i < Window.size) : c.window.word i = w.window.word i := by
  generalize outcome : Outcome.forward = becomes at acted
  cases acted with
  | languageDeclined asked => cases plain
  | throwIgnored shown => cases plain
  | logoOpened opened took => exact LogoOpened.word_eq (outcome ▸ opened) spared inside
  | consulted consulted took => exact consulted.word_eq outcome.symm spared inside
  | learnt learnt => cases learnt <;> cases outcome
  | relayed relayed => cases relayed <;> cases outcome
  | _ => cases outcome

/-- What becomes of a request that language emulation leaves to the real call. -/
theorem Acted.window_eq_asked {env : Environment σ} {handle : Handle} {w : World σ} {c : Course σ}
    (acted : Acted env handle w .askLanguage .forward c) :
    c.window = (env.askLanguage w.window w.outside).1.2 := by
  cases acted with
  | languageDeclined asked => rw [asked]

/-- What becomes of a fatal error that its handler does not consume. -/
theorem Acted.window_eq_shown {env : Environment σ} {handle : Handle} {w : World σ} {c : Course σ}
    (acted : Acted env handle w .showThrow .forward c) :
    c.window = (env.showThrow w.window w.outside).1.2 := by
  cases acted with
  | throwIgnored shown => rw [shown]

/-! ### What is sent -/

/-- What a request is when it goes on to its service. -/
structure Forwards (env : Environment σ) (handle : Handle) (w : World σ) (request : Window) :
    Prop where
  /-- Unless a side feature was asked, the message is that of the caller. -/
  message : (∀ rule v, reached env handle w = some (rule, v) →
      rule.action.asksSideFeature = false) →
    ∀ i, i < w.window.header.totalWords → i < Window.size → request.word i = w.window.word i
  /-- Otherwise the window is what the side feature left. -/
  asked : ∀ rule v, reached env handle w = some (rule, v) → rule.action = .askLanguage →
    request = (env.askLanguage w.window v.outside).1.2
  shown : ∀ rule v, reached env handle w = some (rule, v) → rule.action = .showThrow →
    request = (env.showThrow w.window v.outside).1.2
  /-- Without side features the whole window is that of the caller. -/
  bare : ∀ rule v, reached env handle w = some (rule, v) → rule.action.asksSideFeature = true →
    ∀ kernel : Environment σ, env = kernel.withoutSideFeatures → request = w.window

/-- A request for which there is no rule goes on as it is. -/
theorem forwards_of_unreached {env : Environment σ} {handle : Handle} {w : World σ}
    (unreached : reached env handle w = none) : Forwards env handle w w.window where
  message := fun _ _ _ _ => rfl
  asked := fun _ _ h => by simp [unreached] at h
  shown := fun _ _ h => by simp [unreached] at h
  bare := fun _ _ h => by simp [unreached] at h

/-- A request goes on as the action of its rule has left it. -/
theorem forwards_of_reached {env : Environment σ} {handle : Handle} {w v : World σ} {rule : Rule}
    {c : Course σ} (reached : reached env handle w = some (rule, v)) (window : v.window = w.window)
    (acted : Acted env handle v rule.action .forward c)
    (short : w.window.header.totalWords ≤ rule.action.spares) :
    Forwards env handle w c.window := by
  have asked (h : rule.action = .askLanguage) :
      c.window = (env.askLanguage w.window v.outside).1.2 := by
    rw [h] at acted
    rw [acted.window_eq_asked, window]
  have shown (h : rule.action = .showThrow) :
      c.window = (env.showThrow w.window v.outside).1.2 := by
    rw [h] at acted
    rw [acted.window_eq_shown, window]
  refine ⟨?_, ?_, ?_, ?_⟩
  · intro plain i declared inside
    rw [acted.word_eq (plain rule v reached) (Nat.lt_of_lt_of_le declared short) inside, window]
  · intro _ _ other h
    cases reached.symm.trans other
    exact asked h
  · intro _ _ other h
    cases reached.symm.trans other
    exact shown h
  · rintro _ _ other side kernel rfl
    cases reached.symm.trans other
    cases action : rule.action with
    | askLanguage => exact asked action
    | showThrow => exact shown action
    | _ => simp [action, Action.asksSideFeature] at side

/-- The window when the real call is made. -/
theorem Examined.forwards {env : Environment σ} {handle : Handle} {w : World σ} {c : Course σ}
    (examined : Examined env handle w .forward c) : Forwards env handle w c.window := by
  cases examined with
  | unresolved resolved => exact forwards_of_unreached resolved.reached_error
  | unruled resolved unruled => exact forwards_of_unreached (resolved.reached_unruled unruled)
  | ruled resolved known chosen acted =>
    have forwards := forwards_of_reached (resolved.reached_ruled known chosen) rfl acted
      (Rule.totalWords_le_spares_of_select chosen)
    exact forwards

/-- A request that is not answered is sent to its service: the message as its caller wrote it, or
the window as a side feature left it. -/
theorem call_forwards (env : Environment σ) (handle : Handle) (w : World σ)
    (forwarded : (examine env handle w).1 = .forward) :
    ∃ (examined : Trace) (request reply : Window) (result : ResultCode) (notices : List Notice),
      (examine env handle w).2.trace = w.trace ++ examined ∧
      (call env handle w).2.trace = w.trace ++
        (examined ++ .sent (.caller handle) request reply result :: notices.map .noted) ∧
      Forwards env handle w request := by
  obtain ⟨outcome, c, examined, hexamine⟩ := exists_examined env handle w
  obtain rfl : outcome = .forward := by rw [← forwarded, hexamine]
  rcases sent : env.send handle c.window c.outside with ⟨reply, outside⟩
  exact ⟨c.events, c.window, reply.window, reply.result, c.registry.notices reply.changes,
    by simp [hexamine], by simp [call_forward hexamine sent, Reply.events], examined.forwards⟩

end Engine

namespace Simulation.Scripted

/-- The stage of a process with a session of the file service at handle 256, beside a supervisor
that gives one reply to whatever it is asked. -/
def supervised (reply : ScriptedReply) (words : List UInt32) : Stage :=
  let file : ServiceName :=
    ⟨[0x66, 0x73, 0x3A, 0x55, 0x53, 0x45, 0x52], by simp, by simp, by simp⟩
  let supervisor : ServiceName :=
    ⟨[0x70, 0x6C, 0x67, 0x3A, 0x6C, 0x64, 0x72], by simp, by simp, by simp⟩
  let kernel : Kernel := {
    pid := 48
    objects := [.clientSession ⟨4096⟩]
    counts := [1]
    handles := [(⟨256⟩, 0)]
    opened := []
    nextOpened := 32768
    refusal := none
    scripts := [⟨.session ⟨40960⟩, [reply]⟩]
    memory := .empty
    side := ⟨none, .none⟩ }
  { stage kernel Host.boot [⟨⟨4096⟩, file⟩, ⟨⟨40960⟩, supervisor⟩] with
    window := Window.ofList words }

/-- A request to delete a directory. -/
def directoryDeletion : List UInt32 :=
  [0x08070142, 0, 17, 34, 4, 64, 0x00010002, 0x08001000]

/-- A request to delete a directory, where the supervisor fails and writes over all words. -/
def scribbled : Stage :=
  supervised { ScriptedReply.quiet with fill := some 7, result := ⟨-1⟩ } directoryDeletion

end Simulation.Scripted

open Simulation.Scripted in
/-- The supervisor fails and writes over all words: the request that goes on has its eight words
back. -/
theorem Engine.call_forwards_scribbled :
    ∃ (examined : Trace) (request reply : Window) (result : ResultCode) (notices : List Notice),
      (call environment ⟨256⟩ scribbled).2.trace =
        examined ++ .sent (.caller ⟨256⟩) request reply result :: notices.map .noted ∧
      ∀ i, i < 8 → request.word i = scribbled.window.word i := by
  obtain ⟨examined, request, reply, result, notices, -, called, forwards⟩ :=
    call_forwards environment ⟨256⟩ scribbled (by decide +kernel)
  refine ⟨examined, request, reply, result, notices, called, fun i hi => ?_⟩
  have taken : (reached environment ⟨256⟩ scribbled).map (·.1.action) =
      some (.consult .deleteDirectory) := by decide +kernel
  have length : scribbled.window.header.totalWords = 8 := by decide +kernel
  refine forwards.message (fun rule v reached => ?_) i (by omega) (Nat.lt_trans hi (by decide))
  have action : rule.action = .consult .deleteDirectory := by simpa [reached] using taken
  rw [action]
  rfl

end Interception
