/-
What becomes of a request that is tried on removable storage.

A request to open the boot logo is tried on removable storage if its path could be written over.
Exactly one call is made for that, and its reply decides: either the logo was there, and the reply
goes to the caller as it is, or the words of the request are put back, and the request goes on.

A request to open a file is a message of thirteen words, and these are the words that are put back.
The window has more of them.  What a reply has written behind the message is not undone, and it is
still there when the request is sent.

* `Engine.LogoOpened.fellBack_of_isTried` — what an attempt in vain leaves behind;
* `Engine.fallback_resends` — the calls of a request that is tried in vain.
-/
import Interception.Proofs.Memory.Fallback

namespace Interception

variable {σ : Type}

/-- A reply says that the logo is not there by its result or by its first word. -/
theorem Logo.isServed_eq_false_iff {reply : Reply} :
    isServed reply = false ↔ reply.result.isFailure = true ∨ reply.window.word 1 ≠ 0 := by
  rw [isServed, ResultCode.isFailure_eq_not_isSuccess, Bool.and_eq_false_iff, beq_eq_false_iff_ne,
    Bool.not_eq_true']

namespace Engine

/-! ### Trying a request on removable storage -/

variable {env : Environment σ} {handle : Handle} {w : World σ} {outcome : Outcome} {c : Course σ}

/-- If an attempt on removable storage is in vain, it was the only call, and putting the words of
the request back is all that is done to the reply. -/
theorem LogoOpened.fellBack_of_isTried (opened : LogoOpened env handle w outcome c)
    (tried : Logo.isTried env w = true) {reply : Reply} {after : σ}
    (sent : env.send handle (Logo.redirect w.window)
      (env.writeMemory (Logo.pointer w.window) Logo.storagePath w.outside).2 = (reply, after))
    (unserved : Logo.isServed reply = false) :
    outcome = .forward ∧
      c.window = reply.window.restore (w.window.snapshot Logo.requestWords) ∧
      c.events.sendings = [⟨.caller handle, Logo.redirect w.window, reply.result⟩] := by
  cases opened with
  | unreadable read => simp [Logo.isTried, read.readPath_eq] at tried
  | otherFile read other => simp [Logo.isTried, read.readPath_eq, other] at tried
  | readOnly read logo wrote =>
    simp [Logo.isTried, read.readPath_eq, wrote, Except.toBool] at tried
  | served read logo wrote sent' served =>
    rw [wrote] at sent
    obtain ⟨rfl, rfl⟩ := Prod.mk.inj (sent'.symm.trans sent)
    cases served.symm.trans unserved
  | fellBack read logo wrote sent' unserved' restored =>
    rw [wrote] at sent
    obtain ⟨rfl, rfl⟩ := Prod.mk.inj (sent'.symm.trans sent)
    exact ⟨rfl, rfl, by simp [read.filterMap_reads]⟩

/-! ### Sending a request after an attempt -/

/-- Where the action of a rule lets the request go on, it is sent as the action has left it. -/
theorem exists_call_of_act_forward {v : World σ} {rule : Rule}
    (hreached : reached env handle w = some (rule, v))
    (hact : act env handle rule.action v = (.forward, v.after c)) :
    (examine env handle w).1 = .forward ∧
      ∃ t, (call env handle w).2.trace = w.trace ++ t ∧
        t.sendings = c.events.sendings ++
          [⟨.caller handle, c.window, (call env handle w).1⟩] := by
  obtain ⟨_, _, -, -, -, rfl⟩ := exists_of_reached hreached
  obtain ⟨_, _, -, outcome, d, object, -, hact', hexamine⟩ := exists_acted_of_reached hreached
  rw [hact] at hact'
  obtain ⟨rfl, same⟩ := Prod.mk.inj hact'
  obtain rfl := World.after_injective _ same
  rw [World.after_after] at hexamine
  rcases sent : env.send handle c.window (env.release object c.outside) with ⟨reply, outside⟩
  rw [call_forward hexamine sent, hexamine]
  exact ⟨rfl, _, rfl, by simp⟩

/-- Whether a request is going to be tried on removable storage. -/
def isTrying (env : Environment σ) (handle : Handle) (w : World σ) : Bool :=
  (reached env handle w).any fun r => decide (r.1.action = .openLogo) && Logo.isTried env r.2

/-- The request that is sent after an attempt in vain, given the window of the caller and the one in
the reply to the attempt. -/
structure Resent (window reply request : Window) : Prop where
  /-- The message is that of the caller. -/
  message : ∀ i, i < Logo.requestWords → request.word i = window.word i
  /-- Behind it stands what the reply has left there. -/
  behind : ∀ i, Logo.requestWords ≤ i → request.word i = reply.word i
  /-- So the whole window is that of the caller exactly if the reply has left this part alone. -/
  whole_iff : request = window ↔
    ∀ i, Logo.requestWords ≤ i → i < Window.size → reply.word i = window.word i

theorem resent_restore (window reply : Window) :
    Resent window reply (reply.restore (window.snapshot Logo.requestWords)) where
  message i covered := reply.word_restore_snapshot window covered
    (Nat.lt_trans covered (by decide))
  behind i above := reply.word_restore_of_le _ above
  whole_iff := reply.restore_snapshot_eq_iff window Logo.requestWords

/-- If the attempt on removable storage reports that the logo is not there, the request goes on.
Its message is that of the caller, and behind the message stands what the reply to the attempt has
left there. -/
theorem fallback_resends (env : Environment σ) (handle : Handle) (w : World σ)
    (trying : isTrying env handle w = true) (reply : Reply) (after : σ)
    (sent : env.send handle (Logo.redirect w.window) (rewritten env handle w) = (reply, after))
    (unserved : reply.result.isFailure = true ∨ reply.window.word 1 ≠ 0) :
    (examine env handle w).1 = .forward ∧
      ∃ t request, (call env handle w).2.trace = w.trace ++ t ∧
        t.sendings = [⟨.caller handle, Logo.redirect w.window, reply.result⟩,
          ⟨.caller handle, request, (call env handle w).1⟩] ∧
        Resent w.window reply.window request := by
  cases hreached : reached env handle w with
  | none => simp [isTrying, hreached] at trying
  | some r =>
    obtain ⟨rule, v⟩ := r
    rw [isTrying, hreached, Option.any_some, Bool.and_eq_true, decide_eq_true_eq] at trying
    obtain ⟨action, tried⟩ := trying
    obtain ⟨_, _, -, -, -, entering⟩ := exists_of_reached hreached
    have window : v.window = w.window := by rw [entering, World.window_after]
    have outside : v.outside = (env.lookUp handle w.outside).2 := by
      rw [entering, World.outside_after]
    rw [rewritten, ← window, ← outside] at sent
    obtain ⟨outcome, c, opened, took⟩ := exists_logoOpened env handle v
    obtain ⟨rfl, left, made⟩ := opened.fellBack_of_isTried tried sent
      (Logo.isServed_eq_false_iff.mpr unserved)
    have hact : act env handle rule.action v = (.forward, v.after c) := by
      rw [action]
      exact took
    obtain ⟨forward, t, trace, sendings⟩ := exists_call_of_act_forward hreached hact
    rw [made, window, left, window] at sendings
    exact ⟨forward, t, _, trace, sendings, resent_restore w.window reply.window⟩

open Simulation Scripted

/-- A caller opens the boot logo, and the reply to the attempt on removable storage also writes the
word behind the message. -/
def overlongReply : Stage :=
  let reply : ScriptedReply := { ScriptedReply.quiet with
    edits := [(0, 0x08030040), (1, 0xC8804478), (13, 7)] }
  { guardedPath with
    outside := { guardedPath.outside with scripts := [⟨.handle ⟨256⟩, [reply, .quiet]⟩] } }

theorem overlongReply_trying : isTrying environment ⟨256⟩ overlongReply = true := by
  decide +kernel

/-- The reply to the attempt. -/
def overlongReply.reply : Reply :=
  (environment.send ⟨256⟩ (Logo.redirect overlongReply.window)
    (rewritten environment ⟨256⟩ overlongReply)).1

theorem overlongReply_unserved : overlongReply.reply.window.word 1 ≠ 0 := by
  decide +kernel

/-- The request goes on with its message and with the word that the reply has written. -/
theorem overlongReply_resent :
    (examine environment ⟨256⟩ overlongReply).1 = .forward ∧
      ∃ t request, (call environment ⟨256⟩ overlongReply).2.trace = overlongReply.trace ++ t ∧
        t.sendings = [⟨.caller ⟨256⟩, Logo.redirect overlongReply.window, .success⟩,
          ⟨.caller ⟨256⟩, request, .success⟩] ∧
        (∀ i, i < 13 → request.word i = overlongReply.window.word i) ∧ request.word 13 = 7 := by
  obtain ⟨forward, t, request, trace, sendings, resent⟩ := fallback_resends environment ⟨256⟩
    overlongReply overlongReply_trying overlongReply.reply _ rfl (.inr overlongReply_unserved)
  refine ⟨forward, t, request, trace, ?_, resent.message, ?_⟩
  · have attempt : overlongReply.reply.result = .success := by decide +kernel
    have result : (call environment ⟨256⟩ overlongReply).1 = .success := by decide +kernel
    rw [sendings, attempt, result]
  · rw [resent.behind 13 (by decide)]
    decide +kernel

/-- So the request that goes on need not be the window of the caller. -/
theorem not_request_eq_of_isTrying :
    ¬ ∀ (env : Environment Kernel) (handle : Handle) (w : Stage),
      isTrying env handle w = true → ∀ (reply : Reply) (after : Kernel),
        env.send handle (Logo.redirect w.window) (rewritten env handle w) = (reply, after) →
          reply.result.isFailure = true ∨ reply.window.word 1 ≠ 0 →
            ∃ t first result, (call env handle w).2.trace = w.trace ++ t ∧
              t.sendings = [first, ⟨.caller handle, w.window, result⟩] := by
  intro whole
  obtain ⟨t, first, result, trace, sendings⟩ := whole environment ⟨256⟩ overlongReply
    overlongReply_trying overlongReply.reply _ rfl (.inr overlongReply_unserved)
  have last : ((call environment ⟨256⟩ overlongReply).2.trace.sendings.getLast?).map
      (·.request.word 13) = some 7 := by
    decide +kernel
  have unchanged : overlongReply.window.word 13 = 0 := by decide +kernel
  simp [trace, sendings, unchanged] at last

end Engine

end Interception
