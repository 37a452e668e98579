/-
The registry of named sessions.

The registry has a fixed number of slots.  A new session goes into the first free slot, a
session that is removed leaves its slot free, and a look-up takes the first slot that fits.  So a
session that is registered later may take a slot before the others of its name, and among several
sessions of one name the slots decide, not the order of registration.

* `Registry.insert_known` — the first name of a session stays.
-/
import Interception.ServiceName
import Interception.Object

namespace Interception

/-- How many sessions a registry holds. -/
abbrev Registry.capacity : Nat := 256

/-- A session and the service at its other end. -/
structure NamedSession where
  session : SessionId
  name : ServiceName
deriving DecidableEq

/-- The slots of a registry, each free or taken by a named session. -/
abbrev Slots : Type := List (Option NamedSession)

namespace Slots

/-- The sessions in the slots, in the order of the slots. -/
def records (slots : Slots) : List NamedSession :=
  slots.filterMap id

/-- Puts a session into the first free slot; none if no slot is free. -/
def fill (record : NamedSession) : Slots → Option Slots
  | [] => none
  | none :: rest => some (some record :: rest)
  | some taken :: rest => (fill record rest).map (some taken :: ·)

/-- Frees the first slot that holds the session. -/
def vacate (session : SessionId) : Slots → Slots
  | [] => []
  | none :: rest => none :: vacate session rest
  | some taken :: rest =>
    if taken.session = session then none :: rest else some taken :: vacate session rest

theorem length_fill {record : NamedSession} {slots filled : Slots}
    (h : fill record slots = some filled) : filled.length = slots.length := by
  induction slots generalizing filled with
  | nil => cases h
  | cons slot rest ih =>
    cases slot with
    | none =>
      cases h
      rfl
    | some taken =>
      obtain ⟨tail, htail, rfl⟩ := Option.map_eq_some_iff.mp h
      simp [ih htail]

theorem length_vacate (session : SessionId) (slots : Slots) :
    (vacate session slots).length = slots.length := by
  induction slots with
  | nil => rfl
  | cons slot rest ih =>
    cases slot with
    | none => simp [vacate, ih]
    | some taken =>
      by_cases h : taken.session = session <;> simp [vacate, h, ih]

end Slots

/-- The sessions whose service is known, in a fixed number of slots. -/
structure Registry where
  slots : Slots
  length_slots : slots.length = Registry.capacity

/-- What became of a session that was to be registered. -/
inductive Registration where
  /-- It took the first free slot. -/
  | added
  /-- It was registered before, under this name, which stays. -/
  | known (name : ServiceName)
  /-- No slot was free. -/
  | full
deriving DecidableEq

namespace Registry

@[ext]
theorem ext {r s : Registry} (h : r.slots = s.slots) : r = s := by
  obtain ⟨_, _⟩ := r
  obtain ⟨_, _⟩ := s
  cases h
  rfl

/-- The registry without sessions. -/
def empty : Registry :=
  ⟨List.replicate capacity none, List.length_replicate⟩

instance : Inhabited Registry := ⟨empty⟩

/-- The registered sessions, in the order of their slots. -/
def records (r : Registry) : List NamedSession :=
  Slots.records r.slots

/-- The first record of a session. -/
def find? (r : Registry) (session : SessionId) : Option NamedSession :=
  r.records.find? (·.session == session)

/-- The service at the other end of a session, if it is known. -/
def nameOf? (r : Registry) (session : SessionId) : Option ServiceName :=
  (r.find? session).map (·.name)

/-- The session of a name in the first slot. -/
def firstNamed (r : Registry) (name : String) : Option NamedSession :=
  r.records.find? (·.name.equals name)

/-- How many sessions are registered. -/
def size (r : Registry) : Nat :=
  r.records.length

/-- Whether no session is registered. -/
def isEmpty (r : Registry) : Bool :=
  r.size == 0

/-- Registers a session.  A session that is known keeps its first name, and if no slot is free
the session stays unknown. -/
def insert (r : Registry) (session : SessionId) (name : ServiceName) : Registration × Registry :=
  match r.nameOf? session with
  -- A second name for a session would let whoever connects last change its rules.
  | some existing => (.known existing, r)
  | none =>
    match h : Slots.fill ⟨session, name⟩ r.slots with
    | some slots => (.added, ⟨slots, (Slots.length_fill h).trans r.length_slots⟩)
    | none => (.full, r)

/-- Forgets a session and returns its record. -/
def erase (r : Registry) (session : SessionId) : Option NamedSession × Registry :=
  (r.find? session,
    ⟨Slots.vacate session r.slots, (Slots.length_vacate session r.slots).trans r.length_slots⟩)

/-- The first name of a session stays. -/
theorem insert_known {r : Registry} {session : SessionId} {existing : ServiceName}
    (h : r.nameOf? session = some existing) (name : ServiceName) :
    r.insert session name = (.known existing, r) := by
  simp [insert, h]

end Registry

end Interception
