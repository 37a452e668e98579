/-
Rules that exclude each other.

Rows are tried in order and the first that applies is taken, but no request depends on the order.
Two rows are either for different headers, or for services of which no name fits both: one full name
against another, or a full name against a start that it does not have.  Whether two rows exclude
each other can be told from their texts, so that the table is checked once, pair by pair
(`Rule.pairwise_excludes_table`), and no name has to be looked at.

* `Pattern.not_fits_of_excludes` — no name fits two patterns that exclude each other;
* `Rule.not_applies_of_excludes` — no request has two rules that exclude each other;
* `Rule.filter_applies_table` — the rows that apply are the one that is chosen, if there is one;
* `Rule.table_unambiguous` — the rule of a request does not depend on the order of the rows.
-/
import Mathlib.Data.List.Perm.Basic
import Interception.Rule.Table

namespace Interception

/-! ### Patterns that no name fits together -/

namespace Pattern

/-- Whether the texts of two patterns rule out that a name fits both. -/
def excludes : Pattern → Pattern → Bool
  | exactly a, exactly b => Text.utf8 a != Text.utf8 b
  | exactly a, starting b => !(Text.utf8 b).isPrefixOf (Text.utf8 a)
  | starting a, exactly b => !(Text.utf8 a).isPrefixOf (Text.utf8 b)
  | starting a, starting b =>
    !(Text.utf8 a).isPrefixOf (Text.utf8 b) && !(Text.utf8 b).isPrefixOf (Text.utf8 a)

/-- A name that fits one of two patterns that exclude each other does not fit the other. -/
theorem not_fits_of_excludes {p q : Pattern} {n : ServiceName} (excludes : p.excludes q = true)
    (fits : p.fits n = true) : ¬ q.fits n = true := by
  intro fits'
  cases p with
  | exactly a =>
    have bytes : n.bytes = Text.utf8 a := by simpa [Pattern.fits, ServiceName.equals] using fits
    cases q with
    | exactly b =>
      have bytes' : n.bytes = Text.utf8 b := by simpa [Pattern.fits, ServiceName.equals] using fits'
      rw [Pattern.excludes, ← bytes, ← bytes', bne_self_eq_false] at excludes
      cases excludes
    | starting b =>
      have starts' : (Text.utf8 b).isPrefixOf n.bytes = true := fits'
      rw [Pattern.excludes, ← bytes, starts'] at excludes
      cases excludes
  | starting a =>
    have starts : (Text.utf8 a).isPrefixOf n.bytes = true := fits
    cases q with
    | exactly b =>
      have bytes' : n.bytes = Text.utf8 b := by simpa [Pattern.fits, ServiceName.equals] using fits'
      rw [Pattern.excludes, ← bytes', starts] at excludes
      cases excludes
    | starting b =>
      have starts' : (Text.utf8 b).isPrefixOf n.bytes = true := fits'
      rw [List.isPrefixOf_iff_prefix] at starts starts'
      -- Of two starts of one name the shorter is a start of the longer.
      rcases List.prefix_or_prefix_of_prefix starts starts' with before | before
      · rw [← List.isPrefixOf_iff_prefix] at before
        simp [Pattern.excludes, before] at excludes
      · rw [← List.isPrefixOf_iff_prefix] at before
        simp [Pattern.excludes, before] at excludes

end Pattern

/-! ### Rows that exclude each other -/

namespace Rule

/-- Whether header and patterns of two rows rule out that both apply to one request. -/
def excludes (r s : Rule) : Bool :=
  r.header != s.header || r.services.all fun p => s.services.all fun q => p.excludes q

variable {n : ServiceName} {w : Window} {pid : UInt32} {host : Host}

/-- No request has two rules that exclude each other. -/
theorem not_applies_of_excludes {r s : Rule} (excludes : r.excludes s = true) :
    ¬ (r.applies n w pid host = true ∧ s.applies n w pid host = true) := by
  rintro ⟨first, second⟩
  obtain ⟨header, covers, -, -⟩ := r.applies_iff.mp first
  obtain ⟨header', covers', -, -⟩ := s.applies_iff.mp second
  obtain ⟨p, hp, fits⟩ := List.any_eq_true.mp covers
  obtain ⟨q, hq, fits'⟩ := List.any_eq_true.mp covers'
  rw [Rule.excludes, header, header', bne_self_eq_false, Bool.false_or, List.all_eq_true]
    at excludes
  have apart : p.excludes q = true := List.all_eq_true.mp (excludes p hp) q hq
  exact Pattern.not_fits_of_excludes apart fits fits'

/-- Any two rows of the table exclude each other. -/
theorem pairwise_excludes_table : table.Pairwise fun r s => r.excludes s = true := by
  decide +kernel

/-! ### The rows that apply to a request -/

/-- Where no two entries of a list pass a test, those that pass are the first one. -/
private theorem filter_eq_toList_find? {α : Type} {p : α → Bool} {l : List α}
    (single : l.Pairwise fun a b => ¬ (p a = true ∧ p b = true)) :
    l.filter p = (l.find? p).toList := by
  induction l with
  | nil => rfl
  | cons a l ih =>
    rw [List.pairwise_cons] at single
    cases passes : p a with
    | false =>
      rw [List.filter_cons_of_neg (by simp [passes]), List.find?_cons_of_neg (by simp [passes])]
      exact ih single.2
    | true =>
      have others : l.filter p = [] := by
        rw [List.filter_eq_nil_iff]
        intro b hb passes'
        exact single.1 b hb ⟨passes, passes'⟩
      rw [List.filter_cons_of_pos passes, List.find?_cons_of_pos passes, others]
      rfl

/-- The rows that apply to a request are the one that is chosen, if there is one. -/
theorem filter_applies_table (n : ServiceName) (w : Window) (pid : UInt32) (host : Host) :
    (table.filter fun r => r.applies n w pid host) = (select (some n) w pid host).toList :=
  filter_eq_toList_find? (pairwise_excludes_table.imp fun excludes =>
    not_applies_of_excludes excludes)

/-- A row is chosen exactly when it applies. -/
theorem select_eq_some_iff {r : Rule} : select (some n) w pid host = some r ↔
    r ∈ table ∧ r.applies n w pid host = true := by
  have mem : r ∈ (table.filter fun r => r.applies n w pid host) ↔
      r ∈ table ∧ r.applies n w pid host = true := List.mem_filter
  rwa [filter_applies_table, Option.mem_toList] at mem

/-- The first of the rows that apply is the same in every order of the table. -/
theorem find?_eq_select {rows : List Rule} (perm : rows.Perm table) :
    (rows.find? fun r => r.applies n w pid host) = select (some n) w pid host := by
  have same := perm.filter fun r => r.applies n w pid host
  rw [filter_applies_table] at same
  rw [← List.head?_filter]
  cases chosen : select (some n) w pid host with
  | none =>
    rw [chosen, Option.toList_none, List.perm_nil] at same
    rw [same, List.head?_nil]
  | some r =>
    rw [chosen, Option.toList_some, List.perm_singleton] at same
    rw [same, List.head?_cons]

/-- Guards look at the first payload word and at no other. -/
theorem holds_congr (g : Guard) {v : Window} (first : v.word 1 = w.word 1) :
    g.holds v pid host = g.holds w pid host := by
  cases g with
  | firstWord value => rw [Guard.holds, Guard.holds, first]
  | _ => rfl

/-- The rule of a request depends on its first two words only. -/
theorem select_congr {v : Window} (header : v.word 0 = w.word 0) (first : v.word 1 = w.word 1) :
    select (some n) v pid host = select (some n) w pid host := by
  have same (r : Rule) : r.applies n v pid host = r.applies n w pid host := by
    rw [applies, applies, holds_congr r.guard first, Window.header, Window.header, header]
  rw [select, select, funext same]

/-- What it means that a request leaves the choice of its rule no room. -/
structure Unambiguous (n : ServiceName) (w : Window) (pid : UInt32) (host : Host) : Prop where
  /-- At most one row passes all four tests. -/
  single : (table.filter fun r => r.applies n w pid host).length ≤ 1
  chosen_iff : ∀ r, select (some n) w pid host = some r ↔
    r ∈ table ∧ r.header = w.header ∧ r.covers n = true ∧ r.guard.holds w pid host = true ∧
      r.isOn host = true
  /-- The same row is chosen whatever the order of the table. -/
  reordered : ∀ rows : List Rule, rows.Perm table →
    (rows.find? fun r => r.applies n w pid host) = select (some n) w pid host
  /-- Words behind the first two do not matter. -/
  words : ∀ v : Window, v.word 0 = w.word 0 → v.word 1 = w.word 1 →
    select (some n) v pid host = select (some n) w pid host

/-- No request has two rules, whatever the name of its service, the process and the host: the order
of the table decides nothing. -/
theorem table_unambiguous (n : ServiceName) (w : Window) (pid : UInt32) (host : Host) :
    Unambiguous n w pid host where
  single := by
    rw [filter_applies_table]
    exact Option.length_toList_le
  chosen_iff r := by
    rw [select_eq_some_iff, applies_iff]
  reordered rows perm := find?_eq_select perm
  words v header first := select_congr header first

end Rule

end Interception
