/-
A registry is a finite map with room for 256 sessions.

Whatever is done to a registry and asked of it, the answers are those of a finite map from sessions
to names that takes a new session only if it does not know it and has room for it.  Where the map
leaves a choice, among several sessions of one name, any of them will do.

A registry represents a map if no two of its slots hold the same session and both know the same
names (`Registry.Represents`).  Each operation preserves this, with an answer that the map admits
(`Registry.Represents.perform`), and so does every history (`Registry.Represents.performAll`).

* `Registry.Represents.size_eq` — they also know of equally many sessions;
* `Registry.performAll_refines` — the answers to a history that starts from nothing.
-/
import Mathlib.Data.Finmap
import Interception.Engine.Upkeep
import Interception.Proofs.Registry.Records

namespace Interception

variable {σ : Type}

/-! ### Operations -/

namespace Engine

@[simp]
theorem forget_apply (session : SessionId) (w : World σ) :
    forget session w = ((w.registry.erase session).1,
      w.after ⟨(w.registry.erase session).2, w.window, w.outside, []⟩) := by
  simp [forget, World.after]

/-- When a session is destroyed it is erased from the registry, and that is told if it was there. -/
theorem sessionDestroyed_apply (session : SessionId) (w : World σ) :
    sessionDestroyed session w =
      ((), w.after ⟨(w.registry.erase session).2, w.window, w.outside,
        (w.registry.erase session).1.toList.map (.noted <| .sessionDestroyed ·)⟩) := by
  cases erased : (w.registry.erase session).1 with
  | none => simp [sessionDestroyed, erased]
  | some record => simp [sessionDestroyed, erased]

end Engine

namespace Registry

/-- What is done to a registry, or asked of it. -/
inductive Operation where
  | insert (session : SessionId) (name : ServiceName)
  | erase (session : SessionId)
  /-- The session was destroyed. -/
  | destroy (session : SessionId)
  | nameOf (session : SessionId)
  | firstNamed (name : String)
  | size
  | isEmpty

/-- What an operation answers. -/
inductive Answer where
  | done
  | record (record : Option NamedSession)
  | name (name : Option ServiceName)
  | count (size : Nat)
  | truth (isEmpty : Bool)

/-- Carries out an operation. -/
def Operation.perform : Operation → Engine σ Answer
  | .insert session name => do
    Engine.register session name
    return .done
  | .erase session => return .record (← Engine.forget session)
  | .destroy session => do
    Engine.sessionDestroyed session
    return .done
  | .nameOf session => return .name ((← Engine.registry).nameOf? session)
  | .firstNamed name => return .record ((← Engine.registry).firstNamed name)
  | .size => return .count (← Engine.registry).size
  | .isEmpty => return .truth (← Engine.registry).isEmpty

/-- Carries out operations in order. -/
def performAll (history : List Operation) : Engine σ (List Answer) :=
  history.mapM Operation.perform

end Registry

/-! ### Finite maps with bounded room -/

/-- A finite map from sessions to the names of their services. -/
abbrev NameMap : Type :=
  Finmap fun _ : SessionId => ServiceName

namespace NameMap

/-- How many sessions the map knows. -/
def size (m : NameMap) : Nat :=
  m.keys.card

/-- The map after an operation: a session that it knows keeps its name, and one that it does not
know is added if there is room for it. -/
def after (m : NameMap) : Registry.Operation → NameMap
  | .insert session name =>
    if session ∈ m.keys ∨ m.size = Registry.capacity then m else m.insert session name
  | .erase session | .destroy session => m.erase session
  | .nameOf _ | .firstNamed _ | .size | .isEmpty => m

/-- The answers to an operation that the map admits. -/
inductive Admits (m : NameMap) : Registry.Operation → Registry.Answer → Prop where
  | insert (session : SessionId) (name : ServiceName) : Admits m (.insert session name) .done
  | erase (session : SessionId) :
      Admits m (.erase session) (.record ((m.lookup session).map fun name => ⟨session, name⟩))
  | destroy (session : SessionId) : Admits m (.destroy session) .done
  | nameOf (session : SessionId) : Admits m (.nameOf session) (.name (m.lookup session))
  /-- Any session of the name will do. -/
  | found {name : String} {x : NamedSession} (known : m.lookup x.session = some x.name)
      (named : x.name.equals name = true) : Admits m (.firstNamed name) (.record (some x))
  | notFound {name : String}
      (unnamed : ∀ session other, m.lookup session = some other → other.equals name = false) :
      Admits m (.firstNamed name) (.record none)
  | size : Admits m .size (.count m.size)
  | isEmpty : Admits m .isEmpty (.truth (m.size == 0))

/-- The answers to a history that a map admits, and the map after it. -/
inductive Answered : NameMap → List Registry.Operation → List Registry.Answer → NameMap → Prop where
  | nil (m : NameMap) : Answered m [] [] m
  | cons {m last : NameMap} {operation : Registry.Operation} {answer : Registry.Answer}
      {rest : List Registry.Operation} {answers : List Registry.Answer}
      (first : m.Admits operation answer) (later : Answered (m.after operation) rest answers last) :
      Answered m (operation :: rest) (answer :: answers) last

end NameMap

/-! ### Registries that represent maps -/

namespace Registry

variable {r : Registry} {m : NameMap}

/-- A registry and a map that know the same names. -/
structure Represents (r : Registry) (m : NameMap) : Prop where
  distinct : r.Distinct
  lookup_eq : ∀ session, m.lookup session = r.nameOf? session

theorem represents_empty : empty.Represents ∅ where
  distinct := distinct_empty
  lookup_eq := fun session => by
    rw [Finmap.lookup_empty, eq_comm, nameOf?_eq_none_iff]
    simp [sessions]

namespace Represents

variable (represents : r.Represents m)

include represents

theorem mem_keys_iff (session : SessionId) : session ∈ m.keys ↔ session ∈ r.sessions := by
  rw [Finmap.mem_keys, ← not_iff_not, ← Finmap.lookup_eq_none, represents.lookup_eq,
    nameOf?_eq_none_iff]

/-- A registry knows as many sessions as the map that it represents. -/
theorem size_eq : m.size = r.size := by
  have keys : m.keys = r.sessions.toFinset := by
    ext session
    rw [represents.mem_keys_iff, List.mem_toFinset]
  rw [NameMap.size, keys,
    List.toFinset_card_of_nodup ((distinct_iff r).mp represents.distinct)]
  exact List.length_map _

theorem mem_records_iff (x : NamedSession) :
    x ∈ r.records ↔ m.lookup x.session = some x.name := by
  rw [represents.distinct.mem_records_iff, represents.lookup_eq]

theorem insert (session : SessionId) (name : ServiceName) :
    (r.insert session name).2.Represents (m.after (.insert session name)) where
  distinct := represents.distinct.insert session name
  lookup_eq := fun other => by
    -- The map takes a session exactly when the registry does.
    have refused : (session ∈ m.keys ∨ m.size = capacity) ↔
        (r.insert session name).1 ≠ .added := by
      rw [insert_ne_added_iff, nameOf?_ne_none_iff, represents.mem_keys_iff, represents.size_eq]
    rw [nameOf?_insert, NameMap.after]
    by_cases added : (r.insert session name).1 = .added
    · rw [if_neg (fun c => refused.mp c added)]
      by_cases h : other = session
      · rw [if_pos ⟨h, added⟩, h, Finmap.lookup_insert]
      · rw [if_neg (fun c => h c.1), Finmap.lookup_insert_of_ne _ h, represents.lookup_eq]
    · rw [if_pos (refused.mpr added), if_neg (fun c => added c.2), represents.lookup_eq]

theorem erase (session : SessionId) : (r.erase session).2.Represents (m.erase session) where
  distinct := represents.distinct.erase session
  lookup_eq := fun other => by
    rw [represents.distinct.nameOf?_erase]
    by_cases h : other = session
    · rw [if_pos h, h, Finmap.lookup_erase]
    · rw [if_neg h, Finmap.lookup_erase_ne h, represents.lookup_eq]

theorem admits_erase (session : SessionId) :
    m.Admits (.erase session) (.record (r.erase session).1) := by
  have record : (r.erase session).1 = (m.lookup session).map fun name => ⟨session, name⟩ := by
    rw [represents.lookup_eq, nameOf?, Option.map_map]
    show r.find? session = _
    cases found : r.find? session with
    | none => rfl
    | some x =>
      obtain rfl : x.session = session := by simpa using List.find?_some found
      rfl
  rw [record]
  exact .erase session

theorem admits_firstNamed (name : String) :
    m.Admits (.firstNamed name) (.record (r.firstNamed name)) := by
  cases found : r.firstNamed name with
  | none =>
    refine .notFound fun session other known => ?_
    have unnamed := List.find?_eq_none.mp found ⟨session, other⟩
      ((represents.mem_records_iff ⟨session, other⟩).mpr known)
    simpa using unnamed
  | some x =>
    have named := List.find?_some found
    exact .found ((represents.mem_records_iff x).mp (List.mem_of_find?_eq_some found)) named

end Represents

/-- An operation gets an answer that the map admits, and leaves a registry that represents the map
after it. -/
theorem Represents.perform {w : World σ} (represents : w.registry.Represents m)
    (operation : Operation) :
    m.Admits operation (operation.perform w).1 ∧
      (operation.perform w).2.registry.Represents (m.after operation) := by
  cases operation with
  | insert session name => exact ⟨.insert session name, represents.insert session name⟩
  | erase session =>
    simpa [Operation.perform] using ⟨represents.admits_erase session, represents.erase session⟩
  | destroy session =>
    simpa [Operation.perform, Engine.sessionDestroyed_apply] using
      ⟨NameMap.Admits.destroy session, represents.erase session⟩
  | nameOf session =>
    refine ⟨?_, represents⟩
    simpa [Operation.perform, represents.lookup_eq] using NameMap.Admits.nameOf (m := m) session
  | firstNamed name => exact ⟨represents.admits_firstNamed name, represents⟩
  | size =>
    refine ⟨?_, represents⟩
    simpa [Operation.perform, represents.size_eq] using NameMap.Admits.size (m := m)
  | isEmpty =>
    refine ⟨?_, represents⟩
    simpa [Operation.perform, Registry.isEmpty, represents.size_eq] using
      NameMap.Admits.isEmpty (m := m)

theorem Represents.performAll {w : World σ} (represents : w.registry.Represents m)
    (history : List Operation) :
    ∃ answers v last, performAll history w = (answers, v) ∧
      m.Answered history answers last ∧ v.registry.Represents last := by
  induction history generalizing w m with
  | nil => exact ⟨[], w, m, rfl, .nil m, represents⟩
  | cons operation rest ih =>
    obtain ⟨admits, represents⟩ := represents.perform operation
    obtain ⟨answers, v, last, performed, answered, represents⟩ := ih represents
    refine ⟨(operation.perform w).1 :: answers, v, last, ?_, .cons admits answered, represents⟩
    rw [Registry.performAll] at performed
    simp [Registry.performAll, performed]

/-! ### Histories -/

/-- What can be relied on in a registry when a session is erased. -/
structure Reclaims (r : Registry) : Prop where
  /-- No session is left behind in a second slot. -/
  unknown : ∀ session, (r.erase session).2.nameOf? session = none
  /-- There is room for another session then, even if the registry was full. -/
  room : ∀ session other name, r.nameOf? session ≠ none →
    (r.erase session).2.nameOf? other = none →
    ((r.erase session).2.insert other name).1 = .added
  /-- If it was full, the other session takes the slot that was freed. -/
  slot : ∀ i x other name, r.size = capacity → r.slots[i]? = some (some x) →
    (r.erase x.session).2.nameOf? other = none →
    ((r.erase x.session).2.insert other name).2.slots = r.slots.set i (some ⟨other, name⟩)

theorem Distinct.reclaims (distinct : r.Distinct) : r.Reclaims where
  unknown := fun session => by rw [distinct.nameOf?_erase, if_pos rfl]
  room := fun session other name known unknown => by
    rw [insert_eq_added_iff]
    exact ⟨unknown, Nat.lt_of_lt_of_le (r.size_erase_lt known) r.size_le⟩
  slot := fun i x other name full here unknown =>
    distinct.insert_erase_of_full full here unknown name

/-- From nothing on, a registry answers every history of operations as a finite map with room for
256 sessions does, and no two of its slots ever hold the same session. -/
theorem performAll_refines (w : World σ) (history : List Operation) :
    ∃ answers v m, performAll history { w with registry := empty } = (answers, v) ∧
      NameMap.Answered ∅ history answers m ∧ v.registry.Represents m ∧ v.registry.Reclaims := by
  have nothing : ({ w with registry := empty } : World σ).registry.Represents ∅ := represents_empty
  obtain ⟨answers, v, m, performed, answered, represents⟩ := nothing.performAll history
  exact ⟨answers, v, m, performed, answered, represents, represents.distinct.reclaims⟩

end Registry

end Interception
