/-
The records of a registry.

What can be asked of a registry depends on its records and their order alone.  A session that is
registered goes between the records in front of the first free slot and those behind it, whatever
slot that is, and a session that is erased leaves the other records in their order.

As long as no two slots hold the same session (`Registry.Distinct`), which every registration and
every removal preserves, a registry says one thing about each session.

* `Registry.inserted` — the ways of registering a session;
* `Registry.Distinct.change` — no two slots come to hold the same session;
* `Registry.nameOf?_insert`, `Registry.nameOf?_erase` — what is known after a change;
* `Registry.Distinct.insert_erase_of_full` — in a full registry the slot of an erased session goes
  to the next one.
-/
import Mathlib.Data.List.Nodup
import Interception.Proofs.Course.Basic

namespace Interception

/-! ### Slots and records -/

namespace Slots

@[simp]
theorem records_nil : records [] = [] := rfl

@[simp]
theorem records_free (rest : Slots) : records (none :: rest) = records rest := rfl

@[simp]
theorem records_taken (x : NamedSession) (rest : Slots) :
    records (some x :: rest) = x :: records rest := rfl

/-- The records in front of the first free slot. -/
def ahead (slots : Slots) : List NamedSession :=
  records (slots.takeWhile Option.isSome)

/-- The records behind the first free slot. -/
def behind (slots : Slots) : List NamedSession :=
  records (slots.dropWhile Option.isSome)

theorem records_eq_append (slots : Slots) : records slots = ahead slots ++ behind slots := by
  rw [ahead, behind, records, records, records, ← List.filterMap_append,
    List.takeWhile_append_dropWhile]

theorem records_fill {record : NamedSession} {slots filled : Slots}
    (h : fill record slots = some filled) :
    records filled = ahead slots ++ record :: behind slots := by
  induction slots generalizing filled with
  | nil => cases h
  | cons slot rest ih =>
    cases slot with
    | none =>
      cases h
      simp [ahead, behind]
    | some taken =>
      obtain ⟨tail, htail, rfl⟩ := Option.map_eq_some_iff.mp h
      simpa [ahead, behind] using ih htail

/-- Where no record stands behind the first free slot, none stands behind the next one. -/
theorem behind_fill {record : NamedSession} {slots filled : Slots}
    (h : fill record slots = some filled) (packed : behind slots = []) : behind filled = [] := by
  induction slots generalizing filled with
  | nil => cases h
  | cons slot rest ih =>
    cases slot with
    | none =>
      cases h
      have free : records rest = [] := packed
      rw [records_eq_append, List.append_eq_nil_iff] at free
      exact free.2
    | some taken =>
      obtain ⟨tail, htail, rfl⟩ := Option.map_eq_some_iff.mp h
      simpa [behind] using ih htail packed

/-- Where no slot is free there are as many records as slots. -/
theorem fill_eq_none_iff (record : NamedSession) (slots : Slots) :
    fill record slots = none ↔ (records slots).length = slots.length := by
  induction slots with
  | nil => simp [fill]
  | cons slot rest ih =>
    cases slot with
    | none =>
      have fewer : (records rest).length ≤ rest.length := List.length_filterMap_le ..
      rw [fill, records_free, List.length_cons]
      constructor
      · intro h
        cases h
      · intro h
        omega
    | some taken =>
      rw [fill, Option.map_eq_none_iff, ih, records_taken, List.length_cons, List.length_cons]
      omega

theorem records_vacate (session : SessionId) (slots : Slots) :
    records (vacate session slots) = (records slots).eraseP (·.session == session) := by
  induction slots with
  | nil => rfl
  | cons slot rest ih =>
    cases slot with
    | none => simpa [vacate] using ih
    | some taken =>
      by_cases h : taken.session = session
      · simp [vacate, h]
      · simpa [vacate, h] using ih

/-- Where no slot is free, the first slot of a session is the one that is filled after it was
freed. -/
theorem fill_vacate_of_full {record taken : NamedSession} {slots : Slots} {i : Nat}
    (full : fill record slots = none) (here : slots[i]? = some (some taken))
    (first : ∀ j x, j < i → slots[j]? = some (some x) → x.session ≠ taken.session) :
    fill record (vacate taken.session slots) = some (slots.set i (some record)) := by
  induction slots generalizing i with
  | nil => cases here
  | cons slot rest ih =>
    cases slot with
    | none => cases full
    | some head =>
      cases i with
      | zero =>
        cases here
        simp [vacate, fill]
      | succ i =>
        have other : head.session ≠ taken.session := first 0 head (Nat.succ_pos i) rfl
        have later := ih (Option.map_eq_none_iff.mp full) here
          fun j x hj hx => first (j + 1) x (Nat.succ_lt_succ hj) hx
        simp [vacate, other, fill, later]

end Slots

namespace Registry

variable {r s : Registry}

/-! ### Registering and erasing -/

/-- The registered sessions, in the order of their slots. -/
def sessions (r : Registry) : List SessionId :=
  r.records.map (·.session)

/-- The records in front of the first free slot. -/
def ahead (r : Registry) : List NamedSession :=
  r.slots.ahead

/-- The records behind the first free slot. -/
def behind (r : Registry) : List NamedSession :=
  r.slots.behind

theorem records_eq_append (r : Registry) : r.records = r.ahead ++ r.behind :=
  Slots.records_eq_append r.slots

@[simp]
theorem records_empty : empty.records = [] := by
  simp [records, Slots.records, empty]

theorem size_le (r : Registry) : r.size ≤ capacity := by
  rw [← r.length_slots]
  exact List.length_filterMap_le ..

theorem nameOf?_eq_none_iff (r : Registry) (session : SessionId) :
    r.nameOf? session = none ↔ session ∉ r.sessions := by
  simp only [nameOf?, find?, Option.map_eq_none_iff, List.find?_eq_none, sessions, List.mem_map,
    beq_iff_eq, not_exists, not_and]

theorem nameOf?_ne_none_iff (r : Registry) (session : SessionId) :
    r.nameOf? session ≠ none ↔ session ∈ r.sessions := by
  rw [ne_eq, nameOf?_eq_none_iff, not_not]

/-- A new record goes between those in front of the first free slot and those behind it. -/
theorem records_of_filled {record : NamedSession}
    (filled : Slots.fill record r.slots = some s.slots) :
    s.records = r.ahead ++ record :: r.behind :=
  Slots.records_fill filled

/-- The ways of registering a session: what became of it, and the registry then. -/
inductive Inserted (r : Registry) (session : SessionId) (name : ServiceName) :
    Registration → Registry → Prop where
  | known {existing : ServiceName} (known : r.nameOf? session = some existing) :
      Inserted r session name (.known existing) r
  | full (unknown : r.nameOf? session = none) (full : r.size = capacity) :
      Inserted r session name .full r
  | added {s : Registry} (unknown : r.nameOf? session = none) (room : r.size < capacity)
      (filled : Slots.fill ⟨session, name⟩ r.slots = some s.slots) :
      Inserted r session name .added s

/-- A session is registered in one of these ways. -/
theorem inserted (r : Registry) (session : SessionId) (name : ServiceName) :
    Inserted r session name (r.insert session name).1 (r.insert session name).2 := by
  cases known : r.nameOf? session with
  | some existing =>
    rw [insert_known known]
    exact .known known
  | none =>
    have size : r.size = (Slots.records r.slots).length := rfl
    unfold insert
    rw [known]
    split
    · contradiction
    · split
      · rename_i slots filled
        have room : ¬ (Slots.records r.slots).length = r.slots.length := by
          rw [← Slots.fill_eq_none_iff ⟨session, name⟩, filled]
          simp
        have := r.size_le
        rw [r.length_slots] at room
        exact .added known (by omega) filled
      · rename_i filled
        rw [Slots.fill_eq_none_iff, r.length_slots] at filled
        exact .full known filled

/-- A session is added exactly when it is unknown and a slot is free. -/
theorem insert_eq_added_iff (r : Registry) (session : SessionId) (name : ServiceName) :
    (r.insert session name).1 = .added ↔ r.nameOf? session = none ∧ r.size < capacity := by
  have ways := r.inserted session name
  generalize (r.insert session name).1 = outcome, (r.insert session name).2 = after at ways
  cases ways with
  | known known => simp [known]
  | full unknown full => simp [full]
  | added unknown room filled => simp [unknown, room]

theorem insert_ne_added_iff (r : Registry) (session : SessionId) (name : ServiceName) :
    (r.insert session name).1 ≠ .added ↔ r.nameOf? session ≠ none ∨ r.size = capacity := by
  have room := r.size_le
  have full : ¬ r.size < capacity ↔ r.size = capacity := by omega
  rw [ne_eq, insert_eq_added_iff, not_and_or, full]

/-- Only an added session changes the registry. -/
theorem insert_eq_self_iff (r : Registry) (session : SessionId) (name : ServiceName) :
    (r.insert session name).2 = r ↔ (r.insert session name).1 ≠ .added := by
  have ways := r.inserted session name
  generalize (r.insert session name).1 = outcome, (r.insert session name).2 = after at ways
  cases ways with
  | known known => simp
  | full unknown full => simp
  | added unknown room filled =>
    have grown : after.records.length = r.records.length + 1 := by
      rw [records_of_filled filled, r.records_eq_append, List.length_append, List.length_append,
        List.length_cons]
      omega
    simp only [ne_eq, not_true_eq_false, iff_false]
    rintro rfl
    omega

theorem records_erase (r : Registry) (session : SessionId) :
    (r.erase session).2.records = r.records.eraseP (·.session == session) :=
  Slots.records_vacate session r.slots

theorem size_erase_lt (r : Registry) {session : SessionId} (known : r.nameOf? session ≠ none) :
    (r.erase session).2.size < r.size := by
  rw [nameOf?_ne_none_iff, sessions] at known
  obtain ⟨x, hx, rfl⟩ := List.mem_map.mp known
  have shorter : (r.records.eraseP (·.session == x.session)).length + 1 = r.records.length :=
    List.length_eraseP_add_one hx (beq_self_eq_true _)
  rw [size, records_erase, size]
  omega

/-! ### No two slots hold the same session -/

/-- No two slots hold the same session. -/
def Distinct (r : Registry) : Prop :=
  r.slots.Pairwise fun a b => ∀ x ∈ a, ∀ y ∈ b, x.session ≠ y.session

theorem distinct_iff (r : Registry) : r.Distinct ↔ r.sessions.Nodup := by
  rw [sessions, List.Nodup, List.pairwise_map, records, Slots.records, List.pairwise_filterMap]
  rfl

theorem distinct_empty : empty.Distinct := by
  simp [distinct_iff, sessions]

theorem sessions_of_filled {record : NamedSession}
    (filled : Slots.fill record r.slots = some s.slots) :
    s.sessions.Perm (record.session :: r.sessions) := by
  rw [sessions, sessions, records_of_filled filled, r.records_eq_append]
  exact List.perm_middle.map _

theorem Distinct.insert (distinct : r.Distinct) (session : SessionId) (name : ServiceName) :
    (r.insert session name).2.Distinct := by
  have ways := r.inserted session name
  generalize (r.insert session name).1 = outcome, (r.insert session name).2 = after at ways
  cases ways with
  | known known => exact distinct
  | full unknown full => exact distinct
  | added unknown room filled =>
    rw [distinct_iff] at distinct ⊢
    rw [(sessions_of_filled filled).nodup_iff, List.nodup_cons]
    exact ⟨(r.nameOf?_eq_none_iff session).mp unknown, distinct⟩

theorem Distinct.erase (distinct : r.Distinct) (session : SessionId) :
    (r.erase session).2.Distinct := by
  rw [distinct_iff] at distinct ⊢
  rw [sessions, records_erase]
  exact distinct.sublist (List.eraseP_sublist.map _)

theorem Distinct.change (distinct : r.Distinct) (change : RegistryChange) :
    (r.change change).Distinct := by
  cases change with
  | insert session name => exact distinct.insert session name
  | erase session => exact distinct.erase session

theorem Distinct.changed (distinct : r.Distinct) (changes : List RegistryChange) :
    (r.changed changes).Distinct := by
  induction changes generalizing r with
  | nil => exact distinct
  | cons change rest ih => exact ih (distinct.change change)

theorem Distinct.slot_eq (distinct : r.Distinct) {i j : Nat} {x y : NamedSession}
    (hi : r.slots[i]? = some (some x)) (hj : r.slots[j]? = some (some y))
    (same : x.session = y.session) : i = j := by
  obtain ⟨hi', hi⟩ := List.getElem?_eq_some_iff.mp hi
  obtain ⟨hj', hj⟩ := List.getElem?_eq_some_iff.mp hj
  have apart := List.pairwise_iff_getElem.mp distinct
  rcases Nat.lt_trichotomy i j with before | here | after
  · exact absurd same (apart i j hi' hj' before x hi y hj)
  · exact here
  · exact absurd same.symm (apart j i hj' hi' after y hj x hi)

/-- What is known of a session is its one record. -/
theorem Distinct.mem_records_iff (distinct : r.Distinct) (x : NamedSession) :
    x ∈ r.records ↔ r.nameOf? x.session = some x.name := by
  have nodup := (distinct_iff r).mp distinct
  rw [nameOf?, find?, Option.map_eq_some_iff]
  constructor
  · intro hx
    obtain ⟨y, hy⟩ : ∃ y, r.records.find? (·.session == x.session) = some y := by
      rw [← Option.isSome_iff_exists, List.find?_isSome]
      exact ⟨x, hx, beq_self_eq_true _⟩
    have same : y.session = x.session := by simpa using List.find?_some hy
    have one : y = x := List.inj_on_of_nodup_map nodup (List.mem_of_find?_eq_some hy) hx same
    exact ⟨y, hy, by rw [one]⟩
  · rintro ⟨⟨session, name⟩, hy, rfl⟩
    obtain rfl : session = x.session := by simpa using List.find?_some hy
    exact List.mem_of_find?_eq_some hy

/-- What is left when a session is erased are the records of all others. -/
theorem Distinct.records_erase (distinct : r.Distinct) (session : SessionId) :
    (r.erase session).2.records = r.records.filter (·.session != session) := by
  have nodup := (distinct_iff r).mp distinct
  rw [Registry.records_erase]
  rw [sessions] at nodup
  generalize r.records = records at nodup
  induction records with
  | nil => rfl
  | cons x rest ih =>
    rw [List.map_cons, List.nodup_cons] at nodup
    by_cases h : x.session = session
    · have others : rest.filter (·.session != session) = rest := by
        rw [List.filter_eq_self]
        intro y hy
        have apart : y.session ≠ session := by
          rintro same
          exact nodup.1 (List.mem_map.mpr ⟨y, hy, same.trans h.symm⟩)
        simpa using apart
      simp [h, others]
    · simp [h, ih nodup.2]

/-! ### What is known after a change -/

theorem nameOf?_insert (r : Registry) (session other : SessionId) (name : ServiceName) :
    (r.insert session name).2.nameOf? other =
      if other = session ∧ (r.insert session name).1 = .added then some name
      else r.nameOf? other := by
  have ways := r.inserted session name
  generalize (r.insert session name).1 = outcome, (r.insert session name).2 = after at ways
  cases ways with
  | known known => simp
  | full unknown full => simp
  | added unknown room filled =>
    rw [nameOf?, find?, Option.map_eq_none_iff, r.records_eq_append, List.find?_append,
      Option.or_eq_none_iff] at unknown
    rw [nameOf?, find?, records_of_filled filled, nameOf?, find?, r.records_eq_append,
      List.find?_append, List.find?_append, List.find?_cons]
    by_cases h : other = session
    · subst h
      simp [unknown]
    · have h' : (session == other) = false := by simpa using Ne.symm h
      simp [h, h']

theorem Distinct.nameOf?_erase (distinct : r.Distinct) (session other : SessionId) :
    (r.erase session).2.nameOf? other = if other = session then none else r.nameOf? other := by
  rw [nameOf?, find?, distinct.records_erase, List.find?_filter]
  by_cases h : other = session
  · subst h
    simp
  · have same : (fun x : NamedSession => decide (((x.session != session) = true) ∧
        (x.session == other) = true)) = fun x => x.session == other := by
      funext x
      by_cases hx : x.session = other
      · simp [hx, h]
      · simp [hx]
    rw [if_neg h, same]
    rfl

theorem slots_insert {session : SessionId} {name : ServiceName} {slots : Slots}
    (unknown : r.nameOf? session = none)
    (filled : Slots.fill ⟨session, name⟩ r.slots = some slots) :
    (r.insert session name).2.slots = slots := by
  have ways := r.inserted session name
  generalize (r.insert session name).1 = outcome, (r.insert session name).2 = after at ways
  cases ways with
  | known known =>
    rw [unknown] at known
    cases known
  | full unknown full =>
    rw [size, records, ← r.length_slots, ← Slots.fill_eq_none_iff, filled] at full
    cases full
  | added unknown room filled' => exact Option.some.inj (filled'.symm.trans filled)

/-- In a full registry the slot of an erased session goes to the next one. -/
theorem Distinct.insert_erase_of_full (distinct : r.Distinct) (full : r.size = capacity) {i : Nat}
    {x : NamedSession} (here : r.slots[i]? = some (some x)) {session : SessionId}
    (unknown : (r.erase x.session).2.nameOf? session = none) (name : ServiceName) :
    ((r.erase x.session).2.insert session name).2.slots =
      r.slots.set i (some ⟨session, name⟩) := by
  refine slots_insert unknown (Slots.fill_vacate_of_full ?_ here ?_)
  · rw [Slots.fill_eq_none_iff, r.length_slots]
    exact full
  · intro j y hj hy same
    exact absurd (distinct.slot_eq hy here same) (Nat.ne_of_lt hj)

end Registry

end Interception
