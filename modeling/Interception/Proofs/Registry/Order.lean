/-
The order of registration.

A look-up by name takes the first slot that fits, and a new session takes the first slot that is
free.  As long as nothing is erased the slots are filled in order, and the session that is found is
the one that was registered first.  An erased session leaves a gap, though, and whoever fills the
gap stands in front of all sessions in later slots, however long these have been there.

A session overtakes another one (`Registry.Overtook`) when it is registered into a slot in front of
it; this lasts until one of the two is erased.  Slots and registration disagree about two sessions
exactly if one has overtaken the other, and so a look-up finds the earliest session of a name
exactly if no other session of that name has overtaken it.

* `Registry.overtook_iff` — overtaking is all that the slots change in the order of registration;
* `Registry.ordered` — look-ups by name after a history;
* `Registry.firstNamed_eq_earliest_of_unerased` — look-ups as long as nothing is erased;
* `Engine.Consulted.openings_eq` — the session that is opened to ask the supervisor;
* `Engine.opens_earliest_iff` — both together.
-/
import Mathlib.Data.List.Induction
import Interception.Proofs.Registry.Records
import Interception.Proofs.Verdict

namespace Interception

variable {σ : Type}

namespace Registry

variable {r : Registry}

/-! ### The order of a list -/

/-- Whether a record stands before another one. -/
def Precedes (records : List NamedSession) (x y : NamedSession) : Prop :=
  [x, y].Sublist records

section Precedes

variable {k l : List NamedSession} {x y : NamedSession}

theorem Precedes.mem_left (h : Precedes l x y) : x ∈ l :=
  h.subset (by simp)

theorem Precedes.mem_right (h : Precedes l x y) : y ∈ l :=
  h.subset (by simp)

theorem not_precedes_nil : ¬ Precedes [] x y :=
  fun h => List.not_mem_nil h.mem_left

theorem precedes_cons {z : NamedSession} :
    Precedes (z :: l) x y ↔ Precedes l x y ∨ x = z ∧ y ∈ l := by
  rw [Precedes, List.sublist_cons_iff, Precedes]
  simp

theorem precedes_append :
    Precedes (k ++ l) x y ↔ Precedes k x y ∨ x ∈ k ∧ y ∈ l ∨ Precedes l x y := by
  induction k with
  | nil => simp [not_precedes_nil]
  | cons z k ih =>
    rw [List.cons_append, precedes_cons, ih, precedes_cons, List.mem_append, List.mem_cons]
    grind

theorem precedes_filter {p : NamedSession → Bool} :
    Precedes (l.filter p) x y ↔ Precedes l x y ∧ p x = true ∧ p y = true := by
  constructor
  · intro h
    exact ⟨h.trans List.filter_sublist, (List.mem_filter.mp h.mem_left).2,
      (List.mem_filter.mp h.mem_right).2⟩
  · rintro ⟨h, hx, hy⟩
    simpa [Precedes, hx, hy] using List.Sublist.filter p h

/-- What is found stands before all else that could have been found. -/
theorem precedes_of_find? {p : NamedSession → Bool} (found : l.find? p = some x) (hy : y ∈ l)
    (fits : p y = true) (other : y ≠ x) : Precedes l x y := by
  obtain ⟨-, before, after, rfl, unfit⟩ := List.find?_eq_some_iff_append.mp found
  rw [precedes_append, precedes_cons]
  rcases List.mem_append.mp hy with skipped | later
  · simpa [fits] using unfit y skipped
  · exact .inr (.inr (.inr ⟨rfl, (List.mem_cons.mp later).resolve_left other⟩))

theorem not_precedes_of_find? {p : NamedSession → Bool} (nodup : l.Nodup)
    (found : l.find? p = some x) (fits : p y = true) : ¬ Precedes l y x := by
  obtain ⟨-, before, after, rfl, unfit⟩ := List.find?_eq_some_iff_append.mp found
  have skipped : y ∉ before := fun h => by simpa [fits] using unfit y h
  have once : x ∉ after := (List.nodup_cons.mp (List.nodup_append.mp nodup).2.1).1
  rw [precedes_append, precedes_cons]
  rintro (h | h | h | h)
  · exact skipped h.mem_left
  · exact skipped h.1
  · exact once h.mem_right
  · exact once h.2

end Precedes

/-! ### The order of registration -/

/-- What a change does to the records in the order of their registration: a session that is unknown
comes last, if there is room for it. -/
def enroll (roll : List NamedSession) : RegistryChange → List NamedSession
  | .insert session name =>
    if session ∈ roll.map (·.session) ∨ roll.length = capacity then roll
    else roll ++ [⟨session, name⟩]
  | .erase session => roll.filter (·.session != session)

/-- The sessions that are registered after a history, in the order in which they were. -/
def roll (history : List RegistryChange) : List NamedSession :=
  history.foldl enroll []

/-- The session of a name that was registered first. -/
def earliest (history : List RegistryChange) (name : String) : Option NamedSession :=
  (roll history).find? (·.name.equals name)

/-- Whether one session was registered into a slot in front of another one, and neither of them has
been erased since. -/
def Overtook (history : List RegistryChange) (x y : NamedSession) : Prop :=
  ∃ earlier later, history = earlier ++ .insert x.session x.name :: later ∧
    ((empty.changed earlier).insert x.session x.name).1 = .added ∧
    y ∈ (empty.changed earlier).behind ∧ .erase x.session ∉ later ∧ .erase y.session ∉ later

/-- Whether the earliest session of a name was overtaken by another one of that name. -/
def Overtaken (history : List RegistryChange) (name : String) : Prop :=
  ∃ x y, earliest history name = some y ∧ x.name.equals name = true ∧ Overtook history x y

@[simp]
theorem roll_concat (history : List RegistryChange) (change : RegistryChange) :
    roll (history ++ [change]) = enroll (roll history) change := by
  simp [roll]

@[simp]
theorem changed_concat (r : Registry) (history : List RegistryChange) (change : RegistryChange) :
    r.changed (history ++ [change]) = (r.changed history).change change := by
  simp [changed]

/-- The last change may be an overtaking, or end an earlier one. -/
theorem overtook_concat (history : List RegistryChange) (change : RegistryChange)
    (x y : NamedSession) :
    Overtook (history ++ [change]) x y ↔
      (Overtook history x y ∧ change ≠ .erase x.session ∧ change ≠ .erase y.session) ∨
      ∃ session name, change = .insert session name ∧ x = ⟨session, name⟩ ∧
        ((empty.changed history).insert session name).1 = .added ∧
        y ∈ (empty.changed history).behind := by
  constructor
  · rintro ⟨earlier, later, split, added, behind, hx, hy⟩
    cases later using List.reverseRecOn with
    | nil =>
      obtain ⟨rfl, last⟩ := List.append_inj' split rfl
      exact .inr ⟨x.session, x.name, List.singleton_inj.mp last, rfl, added, behind⟩
    | append_singleton later last =>
      rw [← List.cons_append, ← List.append_assoc] at split
      obtain ⟨rfl, last⟩ := List.append_inj' split rfl
      obtain rfl := List.singleton_inj.mp last
      rw [List.mem_append, List.mem_singleton, not_or] at hx hy
      exact .inl ⟨⟨earlier, later, rfl, added, behind, hx.1, hy.1⟩, Ne.symm hx.2, Ne.symm hy.2⟩
  · rintro (⟨⟨earlier, later, rfl, added, behind, hx, hy⟩, hx', hy'⟩ |
      ⟨session, name, rfl, rfl, added, behind⟩)
    · refine ⟨earlier, later ++ [change], by simp, added, behind, ?_, ?_⟩
      · simp [hx, Ne.symm hx']
      · simp [hy, Ne.symm hy']
    · exact ⟨history, [], rfl, added, behind, by simp, by simp⟩

/-! ### Slots and the order of registration -/

theorem enroll_insert {roll : List NamedSession} (same : r.records.Perm roll)
    (session : SessionId) (name : ServiceName) :
    enroll roll (.insert session name) =
      if (r.insert session name).1 = .added then roll ++ [⟨session, name⟩] else roll := by
  have refused : (session ∈ roll.map (·.session) ∨ roll.length = capacity) ↔
      (r.insert session name).1 ≠ .added := by
    rw [insert_ne_added_iff, nameOf?_ne_none_iff, sessions, size,
      (same.map (·.session)).mem_iff, same.length_eq]
  rw [enroll]
  by_cases added : (r.insert session name).1 = .added
  · rw [if_pos added, if_neg (fun c => refused.mp c added)]
  · rw [if_neg added, if_pos (refused.mpr added)]

/-- A change does the same to both orders, but for where it puts a new session. -/
theorem Distinct.change_perm (distinct : r.Distinct) {roll : List NamedSession}
    (same : r.records.Perm roll) (change : RegistryChange) :
    (r.change change).records.Perm (enroll roll change) := by
  cases change with
  | insert session name =>
    rw [Registry.change, enroll_insert same]
    have ways := r.inserted session name
    generalize (r.insert session name).1 = outcome, (r.insert session name).2 = after at ways
    cases ways with
    | known known => exact same
    | full unknown full => exact same
    | added unknown room filled =>
      rw [if_pos rfl, records_of_filled filled]
      rw [r.records_eq_append] at same
      exact List.perm_middle.trans ((same.cons _).trans (List.perm_append_singleton _ _).symm)
  | erase session =>
    rw [Registry.change, distinct.records_erase]
    exact same.filter _

theorem records_perm (history : List RegistryChange) :
    (empty.changed history).records.Perm (roll history) := by
  induction history using List.reverseRecOn with
  | nil => simp [changed, roll]
  | append_singleton history change ih =>
    rw [changed_concat, roll_concat]
    exact (distinct_empty.changed history).change_perm ih change

/-- A new session comes last in the one order and, in the other, before those that it overtakes. -/
theorem precedes_new {z x y : NamedSession} {ahead behind roll : List NamedSession}
    (same : (ahead ++ behind).Perm roll) (new : z ∉ ahead ++ behind) :
    (Precedes (ahead ++ z :: behind) x y ∧ Precedes (roll ++ [z]) y x) ↔
      (Precedes (ahead ++ behind) x y ∧ Precedes roll y x) ∨ (x = z ∧ y ∈ behind) := by
  have new' : z ∉ roll := fun h => new (same.mem_iff.mpr h)
  have slots : Precedes (ahead ++ z :: behind) x y ↔
      Precedes (ahead ++ behind) x y ∨ (x ∈ ahead ∧ y = z) ∨ (x = z ∧ y ∈ behind) := by
    rw [precedes_append, precedes_append, precedes_cons, List.mem_cons]
    grind
  have last : Precedes (roll ++ [z]) y x ↔ Precedes roll y x ∨ (y ∈ roll ∧ x = z) := by
    rw [precedes_append, precedes_cons, List.mem_singleton]
    simp [not_precedes_nil]
  rw [slots, last]
  constructor
  · rintro ⟨before | ⟨here, rfl⟩ | overtaking, after | ⟨there, rfl⟩⟩
    · exact .inl ⟨before, after⟩
    · exact absurd before.mem_left new
    · exact absurd after.mem_left new'
    · exact absurd there new'
    · exact .inr overtaking
    · exact .inr overtaking
  · rintro (⟨before, after⟩ | ⟨rfl, here⟩)
    · exact ⟨.inl before, .inl after⟩
    · exact ⟨.inr (.inr ⟨rfl, here⟩),
        .inr ⟨same.mem_iff.mp (List.mem_append_right _ here), rfl⟩⟩

/-- The order of the slots differs from the order of registration by what has overtaken what. -/
theorem overtook_iff (history : List RegistryChange) (x y : NamedSession) :
    Overtook history x y ↔
      Precedes (empty.changed history).records x y ∧ Precedes (roll history) y x := by
  -- Induction on the history from its end, where the last change is added to what holds before.
  induction history using List.reverseRecOn with
  | nil => simp [Overtook, roll, not_precedes_nil]
  | append_singleton history change ih =>
    have distinct := distinct_empty.changed history
    have same := records_perm history
    rw [overtook_concat, changed_concat, roll_concat, ih]
    generalize empty.changed history = r at *
    generalize roll history = roll at *
    cases change with
    | erase session =>
      rw [Registry.change, distinct.records_erase, enroll, precedes_filter, precedes_filter]
      simp only [ne_eq, RegistryChange.erase.injEq, bne_iff_ne, reduceCtorEq, false_and]
      grind
    | insert session name =>
      rw [Registry.change, enroll_insert same]
      simp only [ne_eq, reduceCtorEq, not_false_eq_true, and_true, RegistryChange.insert.injEq,
        and_assoc, exists_and_left, exists_eq_left']
      have ways := r.inserted session name
      generalize (r.insert session name).1 = outcome, (r.insert session name).2 = after at ways
      cases ways with
      | known known => simp
      | full unknown full => simp
      | added unknown room filled =>
        rw [nameOf?_eq_none_iff] at unknown
        have new : (⟨session, name⟩ : NamedSession) ∉ r.ahead ++ r.behind := by
          rw [← r.records_eq_append]
          exact fun known => unknown (List.mem_map_of_mem known)
        rw [r.records_eq_append] at same
        rw [records_of_filled filled, if_pos rfl, precedes_new same new, r.records_eq_append]
        simp

/-! ### Look-ups by name -/

theorem mem_records_iff (history : List RegistryChange) (x : NamedSession) :
    x ∈ (empty.changed history).records ↔ x ∈ roll history :=
  (records_perm history).mem_iff

/-- A look-up by name finds the earliest session of the name unless another one has overtaken
it. -/
theorem firstNamed_eq_earliest_iff (history : List RegistryChange) (name : String) :
    (empty.changed history).firstNamed name = earliest history name ↔
      ¬ Overtaken history name := by
  have nodup : (empty.changed history).records.Nodup :=
    .of_map _ ((distinct_iff _).mp (distinct_empty.changed history))
  constructor
  · rintro found ⟨x, y, early, named, overtook⟩
    rw [early] at found
    exact not_precedes_of_find? nodup found named ((overtook_iff history x y).mp overtook).1
  · intro untaken
    cases early : earliest history name with
    | none =>
      refine List.find?_eq_none.mpr fun x hx => ?_
      exact List.find?_eq_none.mp early x ((mem_records_iff history x).mp hx)
    | some y =>
      have live := (mem_records_iff history y).mpr (List.mem_of_find?_eq_some early)
      have named := List.find?_some early
      obtain ⟨x, found⟩ : ∃ x, (empty.changed history).firstNamed name = some x :=
        Option.isSome_iff_exists.mp (List.find?_isSome.mpr ⟨y, live, named⟩)
      -- Whatever else is found stands in front of the earliest one, and so has overtaken it.
      have named' := List.find?_some found
      have enrolled := (mem_records_iff history x).mp (List.mem_of_find?_eq_some found)
      rw [found]
      refine Decidable.byContradiction fun other => untaken ⟨x, y, early, named', ?_⟩
      replace other : x ≠ y := fun same => other (by rw [same])
      exact (overtook_iff history x y).mpr
        ⟨precedes_of_find? found live named other.symm,
          precedes_of_find? early enrolled named' other⟩

/-- As long as nothing is erased, the slots are filled in order. -/
theorem behind_changed {history : List RegistryChange}
    (unerased : ∀ session, .erase session ∉ history) : (empty.changed history).behind = [] := by
  induction history using List.reverseRecOn with
  | nil =>
    have packed := empty.records_eq_append
    rw [records_empty, eq_comm, List.append_eq_nil_iff] at packed
    exact packed.2
  | append_singleton history change ih =>
    have packed := ih fun session h => unerased session (List.mem_append_left _ h)
    rw [changed_concat]
    generalize empty.changed history = r at *
    cases change with
    | erase session =>
      exact absurd (List.mem_append_right _ (List.mem_singleton_self _)) (unerased session)
    | insert session name =>
      rw [Registry.change]
      have ways := r.inserted session name
      generalize (r.insert session name).1 = outcome, (r.insert session name).2 = after at ways
      cases ways with
      | known known => exact packed
      | full unknown full => exact packed
      | added unknown room filled => exact Slots.behind_fill filled packed

theorem firstNamed_eq_earliest_of_unerased {history : List RegistryChange}
    (unerased : ∀ session, .erase session ∉ history) (name : String) :
    (empty.changed history).firstNamed name = earliest history name := by
  rw [firstNamed_eq_earliest_iff]
  rintro ⟨x, y, -, -, earlier, later, rfl, -, behind, -⟩
  rw [behind_changed fun session h => unerased session (List.mem_append_left _ h)] at behind
  cases behind

/-- Its session is enough to tell the earliest record of a name from others. -/
theorem firstNamed_session_eq_iff (history : List RegistryChange) (name : String) :
    ((empty.changed history).firstNamed name).map (·.session) =
        (earliest history name).map (·.session) ↔ ¬ Overtaken history name := by
  rw [← firstNamed_eq_earliest_iff]
  refine ⟨fun same => ?_, fun same => by rw [same]⟩
  have nodup := (distinct_iff _).mp (distinct_empty.changed history)
  cases found : (empty.changed history).firstNamed name with
  | none =>
    rw [found, Option.map_none, eq_comm, Option.map_eq_none_iff] at same
    exact same.symm
  | some x =>
    rw [found, Option.map_some, eq_comm, Option.map_eq_some_iff] at same
    obtain ⟨y, early, same⟩ := same
    have live := (mem_records_iff history y).mpr (List.mem_of_find?_eq_some early)
    rw [early, List.inj_on_of_nodup_map nodup live (List.mem_of_find?_eq_some found) same]

/-- How the records of a registry are ordered after a history. -/
structure Ordered (history : List RegistryChange) (r : Registry) : Prop where
  records_perm : r.records.Perm (roll history)
  /-- The session of a name in the first slot is the earliest one unless that was overtaken. -/
  firstNamed_iff : ∀ name, r.firstNamed name = earliest history name ↔ ¬ Overtaken history name

theorem ordered (history : List RegistryChange) : Ordered history (empty.changed history) where
  records_perm := records_perm history
  firstNamed_iff := firstNamed_eq_earliest_iff history

end Registry

/-! ### The session of the supervisor -/

/-- The session that is to be opened by an event. -/
abbrev Event.openedSession : Event → Option SessionId
  | .opened session _ => some session
  | _ => none

/-- The sessions that are to be opened, in the order of their events. -/
abbrev Trace.openings (t : Trace) : List SessionId :=
  t.filterMap Event.openedSession

namespace Engine

open Registry Supervisor

/-- To ask about a request that can be encoded, the session of the supervisor in the first slot is
opened. -/
theorem Consulted.openings_eq {env : Environment σ} {operation : Watched} {w : World σ}
    {verdict : Consultation} {c : Course σ} (consulted : Consulted env operation w verdict c)
    {request : Request} (encodes : encoding env operation w = .ok request) :
    c.events.openings = ((w.registry.firstNamed service).map (·.session)).toList := by
  cases consulted with
  | absent unknown => simp [unknown]
  | refused known encoded =>
    rw [encoded.encoding_eq] at encodes
    cases encodes
  | unreachable known encoded opened => simp [known, encoded.filterMap_reads]
  | declined known encoded opened sent unhandled => simp [known, encoded.filterMap_reads]
  | handled known encoded opened sent handled => simp [known, encoded.filterMap_reads]

/-- After any history the session of a name in the first slot is the earliest one unless another one
has overtaken it, and so is the session that is opened to ask the supervisor. -/
theorem opens_earliest_iff :
    (∀ history, Ordered history (empty.changed history)) ∧
    ∀ (env : Environment σ) (operation : Watched) (w : World σ) (history : List RegistryChange)
      (request : Request), w.registry = empty.changed history →
        encoding env operation w = .ok request →
          ∃ events, (consult env operation w).2.trace = w.trace ++ events ∧
            (events.openings = ((earliest history service).map (·.session)).toList ↔
              ¬ Overtaken history service) := by
  refine ⟨ordered, fun env operation w history request after encodes => ?_⟩
  obtain ⟨verdict, c, consulted, took⟩ := exists_consulted env operation w
  refine ⟨c.events, by rw [took]; rfl, ?_⟩
  have toList_injective : Function.Injective (Option.toList (α := SessionId)) :=
    Function.LeftInverse.injective fun _ => Option.head?_toList
  rw [consulted.openings_eq encodes, after, toList_injective.eq_iff, firstNamed_session_eq_iff]

/-! ### A session that was overtaken -/

/-- A session is erased and leaves its slot in front of the supervisor to a later session of the
same name. -/
def overtaking : List RegistryChange :=
  let config := (ServiceName.ofText "cfg:u").get rfl
  let supervisor := (ServiceName.ofText service).get rfl
  [.insert ⟨1⟩ config, .insert ⟨2⟩ supervisor, .erase ⟨1⟩, .insert ⟨3⟩ supervisor]

open Simulation Scripted

/-- A stage with a request to delete a directory after this history. -/
def overtaken : Stage :=
  { scribbled with registry := empty.changed overtaking }

/-- The earlier one of two supervisors is passed over. -/
theorem earlierSupervisor_unopened :
    ∃ events, (consult environment .deleteDirectory overtaken).2.trace = events ∧
      events.openings ≠ [⟨2⟩] := by
  obtain ⟨ordered, opens⟩ := @opens_earliest_iff Kernel
  have missed : (empty.changed overtaking).firstNamed service ≠ earliest overtaking service := by
    decide +kernel
  rw [ne_eq, (ordered overtaking).firstNamed_iff, not_not] at missed
  have early : (earliest overtaking service).map (·.session) = some ⟨2⟩ := by decide +kernel
  obtain ⟨request, encodes⟩ : ∃ request,
      encoding environment .deleteDirectory overtaken = .ok request := by
    have encodes : (encoding environment .deleteDirectory overtaken).toBool = true := by
      decide +kernel
    cases encoded : encoding environment .deleteDirectory overtaken with
    | error refusal =>
      rw [encoded] at encodes
      cases encodes
    | ok request => exact ⟨request, rfl⟩
  obtain ⟨events, trace, opened⟩ :=
    opens environment .deleteDirectory overtaken overtaking request rfl encodes
  refine ⟨events, trace, fun passed => opened.mp ?_ missed⟩
  rw [passed, early]
  rfl

/-- So a look-up by name does not always find the session that was registered first. -/
theorem not_firstNamed_eq_earliest :
    ¬ ∀ (history : List RegistryChange) (name : String),
      (empty.changed history).firstNamed name = earliest history name := by
  intro first
  have found := first overtaking service
  revert found
  decide +kernel

end Engine

end Interception
