/-
Who gets registered by a call.

Others may change the registry while a call waits.  If they leave it alone, one call adds one record
at most: the session that a connection has brought, under the name that its caller has asked for.
The name is taken from the request as it was before it was sent, and the handle from the reply; both
stand in the same window.  Every record that was there stays in its slot.

* `Slots.exists_of_fill` — what is filled is the first free slot;
* `Engine.Acted.gains` — what an action does to the registry;
* `Engine.call_enrols` — what a call does to the registry.
-/
import Interception.Proofs.Run.Names

namespace Interception

variable {σ : Type}

/-! ### The first free slot -/

namespace Slots

/-- A free slot behind slots that are all taken. -/
def IsFirstFree (slots : Slots) (i : Nat) : Prop :=
  slots[i]? = some none ∧ ∀ j, j < i → ∃ x, slots[j]? = some (some x)

theorem isFirstFree_zero (rest : Slots) : IsFirstFree (none :: rest) 0 := by
  constructor
  · rfl
  · intro j before
    omega

theorem IsFirstFree.succ {rest : Slots} {i : Nat} (first : IsFirstFree rest i)
    (taken : NamedSession) : IsFirstFree (some taken :: rest) (i + 1) := by
  obtain ⟨free, before⟩ := first
  constructor
  · simpa using free
  · intro j hj
    rcases j with _ | j
    · exact ⟨taken, rfl⟩
    · obtain ⟨x, hx⟩ := before j (by omega)
      exact ⟨x, by simpa using hx⟩

/-- What is filled is the first free slot. -/
theorem exists_of_fill {record : NamedSession} {slots filled : Slots}
    (h : fill record slots = some filled) :
    ∃ i, slots.IsFirstFree i ∧ filled = slots.set i (some record) := by
  induction slots generalizing filled with
  | nil => cases h
  | cons slot rest ih =>
    cases slot with
    | none =>
      cases h
      exact ⟨0, isFirstFree_zero rest, rfl⟩
    | some taken =>
      obtain ⟨tail, htail, rfl⟩ := Option.map_eq_some_iff.mp h
      obtain ⟨i, first, rfl⟩ := ih htail
      exact ⟨i + 1, first.succ taken, rfl⟩

end Slots

/-! ### One record more -/

/-- A registry gains one admitted record at most: the record of a session that was not known, in the
first free slot. -/
inductive Registry.Gains (r : Registry) (admitted : NamedSession → Prop) : Registry → Prop where
  | nothing : Gains r admitted r
  | record {s : Registry} {x : NamedSession} {i : Nat} (admits : admitted x)
      (unknown : r.nameOf? x.session = none) (first : r.slots.IsFirstFree i)
      (slots_eq : s.slots = r.slots.set i (some x)) : Gains r admitted s

namespace Registry

variable {r s : Registry} {admitted : NamedSession → Prop}

theorem gains_insert {session : SessionId} {name : ServiceName}
    (admits : admitted ⟨session, name⟩) : r.Gains admitted (r.insert session name).2 := by
  have ways := r.inserted session name
  generalize (r.insert session name).1 = outcome, (r.insert session name).2 = after at ways
  cases ways with
  | known known => exact .nothing
  | full unknown full => exact .nothing
  | added unknown room filled =>
    obtain ⟨i, first, slots_eq⟩ := Slots.exists_of_fill filled
    exact .record admits unknown first slots_eq

theorem Gains.imp {admitted' : NamedSession → Prop} (gains : r.Gains admitted s)
    (imp : ∀ x, admitted x → admitted' x) : r.Gains admitted' s := by
  cases gains with
  | nothing => exact .nothing
  | record admits unknown first slots_eq => exact .record (imp _ admits) unknown first slots_eq

/-- The records that were there stay in their slots. -/
theorem Gains.slot_eq (gains : r.Gains admitted s) {i : Nat} {x : NamedSession}
    (taken : r.slots[i]? = some (some x)) : s.slots[i]? = some (some x) := by
  cases gains with
  | nothing => exact taken
  | @record _ _ j admits unknown first slots_eq =>
    have apart : j ≠ i := by
      rintro rfl
      rw [first.1] at taken
      cases taken
    rw [slots_eq, List.getElem?_set_ne apart, taken]

end Registry

/-! ### Kernels that leave the registry alone -/

namespace Environment

/-- Nobody changes the registry while a call waits. -/
def LeavesRegistry (env : Environment σ) : Prop :=
  ∀ handle window s, (env.send handle window s).1.changes = []

theorem LeavesRegistry.changed_eq {env : Environment σ} (alone : env.LeavesRegistry)
    {handle : Handle} {window : Window} {s after : σ} {reply : Reply}
    (sent : env.send handle window s = (reply, after)) (r : Registry) :
    r.changed reply.changes = r := by
  have unchanged := alone handle window s
  rw [sent] at unchanged
  rw [unchanged]
  rfl

theorem LeavesRegistry.gains {env : Environment σ} (alone : env.LeavesRegistry) {handle : Handle}
    {window : Window} {s after : σ} {reply : Reply}
    (sent : env.send handle window s = (reply, after)) {r : Registry}
    {admitted : NamedSession → Prop} : r.Gains admitted (r.changed reply.changes) := by
  rw [alone.changed_eq sent]
  exact .nothing

/-- The same environment in which nobody else changes the registry. -/
def alone (env : Environment σ) : Environment σ :=
  { env with
    send := fun handle window s =>
      ({ (env.send handle window s).1 with changes := [] }, (env.send handle window s).2) }

theorem leavesRegistry_alone (env : Environment σ) : env.alone.LeavesRegistry :=
  fun _ _ _ => rfl

end Environment

namespace Engine

/-- The record of a connection that is made with a request: the call does not fail, the session is
behind word 3 of the reply, and the name stands in the first two payload words of the request. -/
def IsConnection (env : Environment σ) (handle : Handle) (request : Window) (s : σ)
    (x : NamedSession) : Prop :=
  ∃ reply outside, env.send handle request s = (reply, outside) ∧
    reply.result.isFailure = false ∧
    sessionBehind env ⟨reply.window.word 3⟩ outside = some x.session ∧
    x.name.bytes = (request.bytes 1 8).toList.takeWhile (· != 0)

/-- The record of a connection that is made by a call: the rule for its request is the one for
connections, and the request is sent as the caller wrote it. -/
def IsEnrolled (env : Environment σ) (handle : Handle) (w : World σ) (x : NamedSession) : Prop :=
  ∃ rule v, reached env handle w = some (rule, v) ∧ rule.action = .learnConnection ∧
    IsConnection env handle w.window v.outside x

/-- What a call does to the registry and to the host. -/
structure Enrols (env : Environment σ) (handle : Handle) (w after : World σ) : Prop where
  host : after.host = w.host
  registry : w.registry.Gains (IsEnrolled env handle w) after.registry
  /-- No record is removed, renamed or moved. -/
  kept : ∀ (i : Nat) (x : NamedSession), w.registry.slots[i]? = some (some x) →
    after.registry.slots[i]? = some (some x)

/-- The bytes of the name that a request to connect asks for. -/
theorem bytes_of_requestedName {window : Window} {name : ServiceName}
    (requested : requestedName window = some name) :
    name.bytes = (window.bytes 1 8).toList.takeWhile (· != 0) := by
  have cut := ServiceName.bytes_of_ofBytes requested
  rwa [ServiceName.cut, List.take_of_length_le (by simp)] at cut

section Gains

variable {env : Environment σ} (alone : env.LeavesRegistry) {handle : Handle} {w : World σ}

include alone

theorem Learnt.gains {outcome : Outcome} {c : Course σ}
    (learnt : Learnt env handle w outcome c) :
    w.registry.Gains (IsConnection env handle w.window w.outside) c.registry := by
  cases learnt with
  | failed sent failed => exact alone.gains sent
  | @connected reply before _ _ _ _ _ sent connected resolved learnt =>
    rw [alone.changed_eq sent] at learnt
    generalize requested : requestedName w.window = name at learnt
    have behind := resolved.sessionBehind_eq
    cases learnt with
    | nameless => exact .nothing
    | unusable => exact .nothing
    | registered =>
      exact Registry.gains_insert
        ⟨reply, before, sent, connected, behind, bytes_of_requestedName requested⟩

/-- What an action does to the registry. -/
theorem Acted.gains {action : Action} {outcome : Outcome} {c : Course σ}
    (acted : Acted env handle w action outcome c) :
    w.registry.Gains
      (fun x => action = .learnConnection ∧ IsConnection env handle w.window w.outside x)
      c.registry := by
  cases acted with
  | learnt learnt => exact (learnt.gains alone).imp fun x connection => ⟨rfl, connection⟩
  | relayed relayed =>
    cases relayed with
    | failed sent _ | ignored sent _ _ | woken sent _ _ => exact alone.gains sent
  | logoOpened opened took =>
    cases opened with
    | served read logo wrote sent served => exact alone.gains sent
    | fellBack read logo wrote sent unserved restored => exact alone.gains sent
    | _ => exact .nothing
  | consulted consulted took =>
    cases consulted with
    | declined known encoded opened sent unhandled => exact alone.gains sent
    | handled known encoded opened sent handled => exact alone.gains sent
    | _ => exact .nothing
  | _ => exact .nothing

theorem Examined.gains {outcome : Outcome} {c : Course σ}
    (examined : Examined env handle w outcome c) :
    w.registry.Gains (IsEnrolled env handle w) c.registry := by
  cases examined with
  | unresolved resolved => exact .nothing
  | unruled resolved unruled => exact .nothing
  | @ruled _ _ outside looked name rule _ _ resolved known chosen acted =>
    have hreached := resolved.reached_ruled known chosen
    exact (acted.gains alone).imp fun x ⟨action, connection⟩ =>
      ⟨rule, entered env w outside looked name rule, hreached, action, connection⟩

end Gains

/-- If others leave the registry alone, a call changes it by one record at most, that of the session
that a connection has brought. -/
theorem call_enrols (env : Environment σ) (alone : env.LeavesRegistry) (handle : Handle)
    (w : World σ) : Enrols env handle w (call env handle w).2 := by
  obtain ⟨result, c, called, hcall⟩ := exists_called env handle w
  have gains : w.registry.Gains (IsEnrolled env handle w) c.registry := by
    cases called with
    | answered examined => exact examined.gains alone
    | forwarded examined sent =>
      rw [alone.changed_eq sent]
      exact examined.gains alone
  rw [hcall]
  exact ⟨rfl, gains, fun i x taken => gains.slot_eq taken⟩

open Simulation Scripted

/-- A caller that asks for a service gets its session registered, in the slot behind that of the
service manager. -/
theorem connecting_enrolled :
    Enrols environment.alone ⟨256⟩ connecting (call environment.alone ⟨256⟩ connecting).2 ∧
      (requestedName connecting.window).isSome = true ∧
      (call environment.alone ⟨256⟩ connecting).2.registry.slots[1]? =
        some ((requestedName connecting.window).map (⟨⟨8192⟩, ·⟩)) := by
  have enrols := call_enrols environment.alone environment.leavesRegistry_alone ⟨256⟩ connecting
  exact ⟨enrols, by decide +kernel, by decide +kernel⟩

end Engine

end Interception
