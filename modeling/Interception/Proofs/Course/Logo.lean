/-
Ways of opening the boot logo.

The path is read first.  Only for the path of the boot logo are the words and the path replaced,
and only when the path could be replaced is a call made.  If that call does not serve the logo, the
words are put back, and then the path.

* `Window.restore_redirect` — putting the words back undoes the redirection;
* `Engine.exists_pathRead` — the ways of reading the path of a file;
* `Engine.exists_logoOpened` — the ways of opening a file that may be the boot logo.
-/
import Interception.Proofs.Course.Basic
import Interception.Proofs.Window

namespace Interception

variable {σ : Type}

/-- Putting the saved words back undoes the redirection. -/
theorem Window.restore_redirect (w : Window) :
    (Logo.redirect w).restore (w.snapshot Logo.requestWords) = w := by
  let writes : List Write :=
    [.word 2 Logo.storageArchive, .word 3 Logo.emptyPath, .word 5 Logo.textPath]
  have covered : ∀ x ∈ writes, x.IsCovered Logo.requestWords := by decide
  show (w.performAll writes).restore (w.snapshot Logo.requestWords) = w
  rw [restore_performAll w _ covered, restore_snapshot]

namespace Logo

/-- The pointer to the path of the file that is to be opened. -/
abbrev pointer (w : Window) : UInt32 := w.word pointerWord

/-- Whether a reply says that the logo was opened on removable storage. -/
def isServed (reply : Reply) : Bool :=
  reply.result.isSuccess && reply.window.word 1 == 0

/-- What there is to tell about putting the path back. -/
def restoring (pointer : UInt32) : Except Fault Unit → Trace
  | .ok _ => []
  | .error fault => [.noted (.pathNotRestored pointer fault)]

end Logo

namespace Engine

/-- The ways of reading the path of the file that is to be opened: the answer, and the events of
reading user memory. -/
inductive PathRead (env : Environment σ) (w : World σ) :
    Except Fault (Vector UInt8 Logo.pathLength) → Trace → Prop where
  | badPointer {fault : Fault}
      (rejected : Span.checkPointer (Logo.pointer w.window) (UInt32.ofNat Logo.pathLength) =
        .error fault) :
      PathRead env w (.error fault) []
  | read {range : Span}
      (accepted : Span.checkPointer (Logo.pointer w.window) (UInt32.ofNat Logo.pathLength) =
        .ok range) :
      PathRead env w (env.readMemory range.start Logo.pathLength w.outside)
        [.read range.start Logo.pathLength
          (env.readMemory range.start Logo.pathLength w.outside).toBool]

/-- The path is read in one way, and nothing but the trace changes. -/
theorem PathRead.readPath_eq {env : Environment σ} {w : World σ}
    {answer : Except Fault (Vector UInt8 Logo.pathLength)} {reads : Trace}
    (read : PathRead env w answer reads) :
    readPath env (Logo.pointer w.window) w =
      (answer, w.after ⟨w.registry, w.window, w.outside, reads⟩) := by
  cases read with
  | badPointer rejected => simp [readPath, rejected]
  | @read range accepted =>
    have length : range.length = UInt32.ofNat Logo.pathLength := (Span.check_region accepted).2.1
    have enough : ¬ range.length.toNat < Logo.pathLength := by
      rw [length]
      decide
    simp [readPath, accepted, Span.read, enough]

/-- The path is read in one of these ways. -/
theorem exists_pathRead (env : Environment σ) (w : World σ) :
    ∃ answer reads, PathRead env w answer reads := by
  rcases checked : Span.checkPointer (Logo.pointer w.window) (UInt32.ofNat Logo.pathLength) with
    fault | range
  · exact ⟨_, _, .badPointer checked⟩
  · exact ⟨_, _, .read checked⟩

/-- The ways of opening a file that may be the boot logo. -/
inductive LogoOpened (env : Environment σ) (handle : Handle) (w : World σ) :
    Outcome → Course σ → Prop where
  | unreadable {fault : Fault} {reads : Trace} (read : PathRead env w (.error fault) reads) :
      LogoOpened env handle w .forward ⟨w.registry, w.window, w.outside,
        reads ++ [.noted (.pathUnreadable (Logo.pointer w.window) fault)]⟩
  | otherFile {path : Vector UInt8 Logo.pathLength} {reads : Trace}
      (read : PathRead env w (.ok path) reads) (other : Logo.isLogoPath path = false) :
      LogoOpened env handle w .forward ⟨w.registry, w.window, w.outside, reads⟩
  /-- The path could not be replaced: the words are put back at once. -/
  | readOnly {path : Vector UInt8 Logo.pathLength} {reads : Trace} {fault : Fault} {outside : σ}
      (read : PathRead env w (.ok path) reads) (logo : Logo.isLogoPath path = true)
      (wrote : env.writeMemory (Logo.pointer w.window) Logo.storagePath w.outside =
        (.error fault, outside)) :
      LogoOpened env handle w .forward ⟨w.registry, w.window, outside,
        reads ++ [.wrote (Logo.pointer w.window) Logo.storagePath false,
          .noted (.pathNotReplaced (Logo.pointer w.window) fault)]⟩
  | served {path : Vector UInt8 Logo.pathLength} {reads : Trace} {reply : Reply}
      {before after : σ}
      (read : PathRead env w (.ok path) reads) (logo : Logo.isLogoPath path = true)
      (wrote : env.writeMemory (Logo.pointer w.window) Logo.storagePath w.outside =
        (.ok (), before))
      (sent : env.send handle (Logo.redirect w.window) before = (reply, after))
      (served : Logo.isServed reply = true) :
      LogoOpened env handle w (.answered reply.result)
        ⟨w.registry.changed reply.changes, reply.window, after,
          reads ++ .wrote (Logo.pointer w.window) Logo.storagePath true ::
            reply.events (.caller handle) (Logo.redirect w.window) w.registry ++
            [.noted .logoServed]⟩
  /-- The logo is not there: the words are put back, and then the path. -/
  | fellBack {path : Vector UInt8 Logo.pathLength} {reads : Trace} {reply : Reply}
      {before after last : σ} {answer : Except Fault Unit}
      (read : PathRead env w (.ok path) reads) (logo : Logo.isLogoPath path = true)
      (wrote : env.writeMemory (Logo.pointer w.window) Logo.storagePath w.outside =
        (.ok (), before))
      (sent : env.send handle (Logo.redirect w.window) before = (reply, after))
      (unserved : Logo.isServed reply = false)
      (restored : env.writeMemory (Logo.pointer w.window) path.toList after = (answer, last)) :
      LogoOpened env handle w .forward
        ⟨w.registry.changed reply.changes,
          reply.window.restore (w.window.snapshot Logo.requestWords), last,
          reads ++ .wrote (Logo.pointer w.window) Logo.storagePath true ::
            reply.events (.caller handle) (Logo.redirect w.window) w.registry ++
            .wrote (Logo.pointer w.window) path.toList answer.toBool ::
            Logo.restoring (Logo.pointer w.window) answer⟩

/-- Putting the words of the request and then its path back. -/
theorem undoRedirect_course {env : Environment σ} {pointer : UInt32}
    {path : Vector UInt8 Logo.pathLength} (saved : Snapshot Logo.requestWords) (w : World σ)
    {answer : Except Fault Unit} {outside : σ}
    (restored : env.writeMemory pointer path.toList w.outside = (answer, outside)) :
    undoRedirect env pointer path saved w =
      ((), w.after ⟨w.registry, w.window.restore saved, outside,
        .wrote pointer path.toList answer.toBool :: Logo.restoring pointer answer⟩) := by
  cases answer with
  | ok _ => simp [undoRedirect, restored, Logo.restoring]
  | error fault => simp [undoRedirect, restored, Logo.restoring]

/-- A file that may be the boot logo is opened in one of these ways. -/
theorem exists_logoOpened (env : Environment σ) (handle : Handle) (w : World σ) :
    ∃ outcome c, LogoOpened env handle w outcome c ∧
      openLogo env handle w = (outcome, w.after c) := by
  obtain ⟨answer, reads, read⟩ := exists_pathRead env w
  have hread := read.readPath_eq
  rcases answer with fault | path
  · exact ⟨_, _, .unreadable read, by simp [openLogo, hread]⟩
  cases logo : Logo.isLogoPath path with
  | false => exact ⟨_, _, .otherFile read logo, by simp [openLogo, hread, logo]⟩
  | true =>
    rcases wrote : env.writeMemory (Logo.pointer w.window) Logo.storagePath w.outside with
      ⟨fault | _, before⟩
    · refine ⟨_, _, .readOnly read logo wrote, ?_⟩
      simp [openLogo, hread, logo, tryStorage, wrote, Window.restore_redirect, Except.toBool]
    rcases sent : env.send handle (Logo.redirect w.window) before with ⟨reply, after⟩
    have tried := send_course (.caller handle) (w.after ⟨w.registry, Logo.redirect w.window, before,
      reads ++ [.wrote (Logo.pointer w.window) Logo.storagePath true]⟩) sent
    cases served : Logo.isServed reply with
    | true =>
      refine ⟨_, _, .served read logo wrote sent served, ?_⟩
      have success : reply.result.isSuccess = true ∧ reply.window.word 1 = 0 := by
        simpa [Logo.isServed] using served
      simp [openLogo, hread, logo, tryStorage, wrote, Except.toBool, tried, success]
    | false =>
      rcases restored : env.writeMemory (Logo.pointer w.window) path.toList after with
        ⟨answer, last⟩
      refine ⟨_, _, .fellBack read logo wrote sent served restored, ?_⟩
      have undone := undoRedirect_course (w.window.snapshot Logo.requestWords)
        (w.after ⟨w.registry.changed reply.changes, reply.window, after,
          reads ++ .wrote (Logo.pointer w.window) Logo.storagePath true ::
            reply.events (.caller handle) (Logo.redirect w.window) w.registry⟩) restored
      cases success : reply.result.isSuccess with
      | false =>
        simp [openLogo, hread, logo, tryStorage, wrote, Except.toBool, tried, success, undone]
      | true =>
        have flag : ¬ reply.window.word 1 = 0 := by simpa [Logo.isServed, success] using served
        simp [openLogo, hread, logo, tryStorage, wrote, Except.toBool, tried, success, flag,
          undone]

end Engine

end Interception
