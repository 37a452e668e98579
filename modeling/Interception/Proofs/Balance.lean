/-
Every reference is given back and every handle is closed.

A call takes references on kernel objects and opens handles, and whatever the kernel answers it
gives all of them back.  The order matters as much as the numbers: a reference is given back only
after it was taken, everything is settled before the real call is made, and a handle that was
opened for the supervisor lives exactly as long as the one call on it.

A trace is `Balanced` when at no point an object was given back more often than it was taken, and
at the end it was given back as often as it was taken.  Balanced traces can be joined
(`Balanced.append`), and what stands between taking an object and giving it back may be any
balanced trace (`Balanced.enclose`), which may take the same object again.

* `Engine.Examined.balanced` — what happens before the real call is balanced;
* `Engine.Examined.handles` — handles that are opened before it are closed before it;
* `Engine.call_settles` — the account of a whole call.
-/
import Interception.Proofs.Course.Views

namespace Interception

variable {σ : Type}

/-! ### Balanced traces -/

namespace Event

def takes (object : Object) : Event → Bool
  | .lookedUp _ (some found) => found == object
  | _ => false

def returns (object : Object) : Event → Bool
  | .released other => other == object
  | _ => false

/-- The object whose count an event changes. -/
abbrev counted : Event → Option Object
  | .lookedUp _ found => found
  | .released object => some object
  | _ => none

end Event

namespace Trace

/-- How many references on an object a trace takes. -/
def taken (t : Trace) (object : Object) : Nat :=
  t.countP (Event.takes object)

/-- How many references on an object a trace gives back. -/
def givenBack (t : Trace) (object : Object) : Nat :=
  t.countP (Event.returns object)

/-- A trace that gives back what it takes, and nothing that it did not take before. -/
structure Balanced (t : Trace) : Prop where
  covered : ∀ (object : Object) (n : Nat),
    givenBack (t.take n) object ≤ taken (t.take n) object
  settled : ∀ object : Object, t.givenBack object = t.taken object

@[simp]
theorem taken_nil (object : Object) : taken [] object = 0 := rfl

@[simp]
theorem givenBack_nil (object : Object) : givenBack [] object = 0 := rfl

theorem taken_append (t u : Trace) (object : Object) :
    (t ++ u).taken object = t.taken object + u.taken object := by
  simp [taken]

theorem givenBack_append (t u : Trace) (object : Object) :
    (t ++ u).givenBack object = t.givenBack object + u.givenBack object := by
  simp [givenBack]

theorem taken_lookedUp (handle : Handle) (found object : Object) :
    taken [.lookedUp handle (some found)] object = if found = object then 1 else 0 := by
  by_cases h : found = object <;> simp [taken, Event.takes, h]

theorem givenBack_lookedUp (handle : Handle) (found : Option Object) (object : Object) :
    givenBack [.lookedUp handle found] object = 0 := by
  simp [givenBack, Event.returns]

theorem taken_released (released object : Object) : taken [.released released] object = 0 := by
  simp [taken, Event.takes]

theorem givenBack_released (released object : Object) :
    givenBack [.released released] object = if released = object then 1 else 0 := by
  by_cases h : released = object <;> simp [givenBack, Event.returns, h]

namespace Balanced

/-- A trace that changes no count is balanced. -/
theorem of_uncounted {t : Trace} (h : t.filterMap Event.counted = []) : Balanced t := by
  rw [List.filterMap_eq_nil_iff] at h
  have takes (object : Object) : ∀ e ∈ t, ¬ e.takes object = true := by
    intro e he taking
    have uncounted := h e he
    unfold Event.takes at taking
    split at taking <;> simp_all [Event.counted]
  have returns (object : Object) : ∀ e ∈ t, ¬ e.returns object = true := by
    intro e he returning
    have uncounted := h e he
    unfold Event.returns at returning
    split at returning <;> simp_all [Event.counted]
  constructor
  · intro object n
    have none : givenBack (t.take n) object = 0 :=
      List.countP_eq_zero.mpr fun e he => returns object e (List.mem_of_mem_take he)
    rw [none]
    exact Nat.zero_le _
  · intro object
    rw [givenBack, taken, List.countP_eq_zero.mpr (returns object),
      List.countP_eq_zero.mpr (takes object)]

/-- One balanced trace after another is balanced. -/
theorem append {t u : Trace} (ht : Balanced t) (hu : Balanced u) : Balanced (t ++ u) where
  covered := by
    intro object n
    rw [List.take_append, givenBack_append, taken_append]
    rcases Nat.le_total n t.length with inside | outside
    · rw [Nat.sub_eq_zero_of_le inside]
      exact Nat.add_le_add_right (ht.covered object n) _
    · rw [List.take_of_length_le outside, ht.settled]
      exact Nat.add_le_add_left (hu.covered object _) _
  settled := by
    intro object
    rw [givenBack_append, taken_append, ht.settled, hu.settled]

/-- An object may be taken before a balanced trace and given back after it. -/
theorem enclose {t : Trace} (ht : Balanced t) (handle : Handle) (object : Object) :
    Balanced ([.lookedUp handle (some object)] ++ t ++ [.released object]) where
  covered := by
    intro other n
    cases n with
    | zero => simp
    | succ n =>
      simp only [List.cons_append, List.nil_append, List.take_succ_cons, List.take_append]
      rw [← List.singleton_append]
      simp only [givenBack_append, taken_append, givenBack_lookedUp, taken_lookedUp]
      rcases Nat.le_total n t.length with inside | outside
      · have := ht.covered other n
        simp only [Nat.sub_eq_zero_of_le inside, List.take_zero, givenBack_nil, taken_nil]
        omega
      -- The release at the end is covered by the reference that was taken at the start.
      · have last : givenBack (List.take (n - t.length) [.released object]) other ≤
            givenBack [.released object] other := (List.take_sublist ..).countP_le
        rw [givenBack_released] at last
        rw [List.take_of_length_le outside, ht.settled]
        omega
  settled := by
    intro other
    simp only [givenBack_append, taken_append, givenBack_lookedUp, taken_lookedUp,
      givenBack_released, taken_released, ht.settled]
    omega

end Balanced

end Trace

/-! ### The life of a handle -/

/-- The events of handles that are opened for a request alone. -/
abbrev Event.ofOpened : Event → Option Event
  | .opened session answer => some (.opened session answer)
  | .closed handle => some (.closed handle)
  | .sent (.opened session handle) request reply result =>
    some (.sent (.opened session handle) request reply result)
  | _ => none

theorem Event.counted_isResourceView : IsResourceView counted :=
  ⟨fun _ _ _ _ => rfl, fun _ _ _ => rfl, fun _ _ _ => rfl, fun _ => rfl, rfl, fun _ => rfl⟩

theorem Event.ofOpened_isResourceView : IsResourceView ofOpened :=
  ⟨fun _ _ _ _ => rfl, fun _ _ _ => rfl, fun _ _ _ => rfl, fun _ => rfl, rfl, fun _ => rfl⟩

namespace HandleLife

theorem uncounted {life : Trace} (h : HandleLife life) : life.filterMap Event.counted = [] := by
  cases h <;> rfl

theorem filterMap_ofOpened {life : Trace} (h : HandleLife life) :
    life.filterMap Event.ofOpened = life := by
  cases h <;> rfl

end HandleLife

namespace Engine

/-! ### The account of each computation -/

/-- What a handle leads to is given back after a balanced trace. -/
theorem Resolved.balanced {env : Environment σ} {handle : Handle} {s outside : σ}
    {resolution : Resolution} {looked t : Trace}
    (resolved : Resolved env handle s resolution outside looked) (ht : t.Balanced) :
    (looked ++ t ++ resolution.givenUp).Balanced := by
  cases resolved with
  | null isNull => simpa using ht
  | unknown notNull lookedUp =>
    have missed : Trace.Balanced [.lookedUp handle none] := .of_uncounted rfl
    simpa using missed.append ht
  | @otherKind object _ notNull lookedUp kind =>
    have nothing : Trace.Balanced [] := .of_uncounted rfl
    simpa using (nothing.enclose handle object).append ht
  | client notNull lookedUp kind => exact ht.enclose handle _

theorem balanced_events (reply : Reply) (route : Route) (request : Window)
    (registry : Registry) : (reply.events route request registry).Balanced :=
  .of_uncounted (by simp)

theorem Learnt.balanced {env : Environment σ} {handle : Handle} {w : World σ} {outcome : Outcome}
    {c : Course σ} (learnt : Learnt env handle w outcome c) : c.events.Balanced := by
  cases learnt with
  | failed sent failed => exact balanced_events ..
  | @connected _ _ _ _ _ _ notices sent connected resolved learnt =>
    have told : Trace.Balanced (notices.map Event.noted) := .of_uncounted (by simp)
    exact (balanced_events ..).append (resolved.balanced told)

/-- Whatever action is taken, what happens meanwhile is balanced. -/
theorem Acted.balanced {env : Environment σ} {handle : Handle} {w : World σ} {action : Action}
    {outcome : Outcome} {c : Course σ} (acted : Acted env handle w action outcome c) :
    c.events.Balanced := by
  cases acted with
  | succeeded => exact .of_uncounted rfl
  | applicationWoken => exact .of_uncounted rfl
  | languageAnswered asked => exact .of_uncounted rfl
  | languageDeclined asked => exact .of_uncounted rfl
  | throwConsumed shown => exact .of_uncounted rfl
  | throwIgnored shown => exact .of_uncounted rfl
  | learnt learnt => exact learnt.balanced
  | relayed relayed =>
    exact .of_uncounted (relayed.filterMap_events Event.counted_isResourceView)
  | logoOpened opened took =>
    exact .of_uncounted (opened.filterMap_events Event.counted_isResourceView)
  | consulted consulted took =>
    obtain ⟨life, hlife, kept⟩ := consulted.exists_life Event.counted_isResourceView
    exact .of_uncounted (kept.trans hlife.uncounted)

/-- What happens before the real call is balanced. -/
theorem Examined.balanced {env : Environment σ} {handle : Handle} {w : World σ}
    {outcome : Outcome} {c : Course σ} (examined : Examined env handle w outcome c) :
    c.events.Balanced := by
  cases examined with
  | @unresolved error _ _ resolved =>
    have told : Trace.Balanced [.noted (.passedThrough handle error)] := .of_uncounted rfl
    simpa using resolved.balanced told
  | unruled resolved unruled =>
    have nothing : Trace.Balanced [] := .of_uncounted rfl
    simpa using resolved.balanced nothing
  | @ruled _ _ outside _ name rule _ _ resolved known chosen acted =>
    have told : Trace.Balanced
        [.noted (.ruleApplied (env.pid outside) w.window.header name rule.action)] :=
      .of_uncounted rfl
    -- The action is taken while the reference on the object of the caller is held.
    simpa using resolved.balanced (told.append acted.balanced)

/-! ### Opened handles -/

theorem Acted.handles {env : Environment σ} {handle : Handle} {w : World σ} {action : Action}
    {outcome : Outcome} {c : Course σ} (acted : Acted env handle w action outcome c) :
    HandleLife (c.events.filterMap Event.ofOpened) := by
  cases acted with
  | succeeded => exact .unopened
  | applicationWoken => exact .unopened
  | languageAnswered asked => exact .unopened
  | languageDeclined asked => exact .unopened
  | throwConsumed shown => exact .unopened
  | throwIgnored shown => exact .unopened
  | learnt learnt =>
    rw [learnt.filterMap_events Event.ofOpened_isResourceView (fun _ => rfl) fun _ _ => rfl]
    exact .unopened
  | relayed relayed =>
    rw [relayed.filterMap_events Event.ofOpened_isResourceView]
    exact .unopened
  | logoOpened opened took =>
    rw [opened.filterMap_events Event.ofOpened_isResourceView]
    exact .unopened
  | consulted consulted took =>
    obtain ⟨life, hlife, kept⟩ := consulted.exists_life Event.ofOpened_isResourceView
    rw [kept, hlife.filterMap_ofOpened]
    exact hlife

/-- Handles that are opened before the real call are closed before it. -/
theorem Examined.handles {env : Environment σ} {handle : Handle} {w : World σ}
    {outcome : Outcome} {c : Course σ} (examined : Examined env handle w outcome c) :
    HandleLife (c.events.filterMap Event.ofOpened) := by
  cases examined with
  | unresolved resolved =>
    rw [List.filterMap_append, resolved.filterMap_looked (fun _ => rfl) fun _ _ => rfl]
    exact .unopened
  | unruled resolved unruled =>
    rw [List.filterMap_append, resolved.filterMap_looked (fun _ => rfl) fun _ _ => rfl]
    exact .unopened
  | @ruled object _ _ _ _ _ _ _ resolved known chosen acted =>
    have kept : List.filterMap Event.ofOpened [.released object] = [] := rfl
    rw [List.append_assoc, List.filterMap_append,
      resolved.filterMap_looked (fun _ => rfl) fun _ _ => rfl, List.cons_append,
      List.filterMap_cons, List.filterMap_append, kept, List.append_nil]
    exact acted.handles

/-! ### The account of a call -/

/-- The account of the events of a call: those until it is decided what becomes of the request,
and those of the real call, if it is made. -/
structure Settles (handle : Handle) (outcome : Outcome) (examined sent : Trace) : Prop where
  /-- No object is given back before it was taken, and every object taken is given back before the
  real call is made. -/
  examined_balanced : examined.Balanced
  balanced : (examined ++ sent).Balanced
  /-- A handle that is opened is closed once, after the one call on it and before the real call
  is made; if opening fails nothing is closed. -/
  handles : HandleLife (examined.filterMap Event.ofOpened)
  unopened : sent.filterMap Event.ofOpened = []
  /-- The real call is made if and only if the request was not answered. -/
  forwarded : outcome = .forward → ∃ (request reply : Window) (result : ResultCode)
    (notices : List Notice),
    sent = .sent (.caller handle) request reply result :: notices.map .noted
  answered : outcome ≠ .forward → sent = []

/-- Whatever the environment answers, a call gives every reference back and closes every handle,
and both before the real call is made. -/
theorem call_settles (env : Environment σ) (handle : Handle) (w : World σ) :
    ∃ examined sent : Trace,
      (examine env handle w).2.trace = w.trace ++ examined ∧
      (call env handle w).2.trace = w.trace ++ (examined ++ sent) ∧
      Settles handle (examine env handle w).1 examined sent := by
  obtain ⟨outcome, c, examined, hexamine⟩ := exists_examined env handle w
  cases outcome with
  | answered result =>
    refine ⟨c.events, [], by simp [hexamine], by simp [call, hexamine], ?_⟩
    rw [hexamine]
    exact {
      examined_balanced := examined.balanced
      balanced := by simpa using examined.balanced
      handles := examined.handles
      unopened := rfl
      forwarded := fun h => by cases h
      answered := fun _ => rfl }
  | forward =>
    rcases sent : env.send handle c.window c.outside with ⟨reply, outside⟩
    refine ⟨c.events, reply.events (.caller handle) c.window c.registry, by simp [hexamine],
      by simp [call_forward hexamine sent], ?_⟩
    rw [hexamine]
    exact {
      examined_balanced := examined.balanced
      balanced := examined.balanced.append (balanced_events ..)
      handles := examined.handles
      unopened := filterMap_own_events Event.ofOpened_isResourceView ..
      forwarded := fun _ => ⟨_, _, _, _, rfl⟩
      answered := fun h => absurd rfl h }

end Engine

end Interception
