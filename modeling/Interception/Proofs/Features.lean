/-
Switching families of rules off.

A family is one bit of a word, and the word may have other bits, which mean nothing.  All rows of
the table for one header take the same action and so belong to one family: when the rule for a
request is off, no row behind it can step in.  Switching a family off therefore turns rules into
none, and never one rule into another.

A request whose rule is off passes through.  It cannot be told from a request on a session that
nobody has named, but for what there is to tell of others who change the registry meanwhile.

* `Host.allows_withFeatures`, `Host.allows_toggle` — which families are on;
* `Rule.action_eq_of_header_eq` — rows for one header take one action;
* `Rule.select_eq_filter` — the rule for a request is the one with all families on, if it is on;
* `Engine.features_restrict` — what switching families off does to rules and to calls.
-/
import Interception.Proofs.Passing

namespace Interception

/-! ### Which families are on -/

/-- The position of the bit of a family. -/
def Feature.index : Feature → Nat
  | language => 0
  | fatalErrors => 1
  | steadyNetwork => 2
  | bootLogo => 3
  | serviceNames => 4
  | supervision => 5
  | pluginWaking => 6

theorem Feature.toBitVec_mask (f : Feature) : f.mask.toBitVec = BitVec.twoPow 32 f.index := by
  cases f <;> rfl

theorem Feature.index_lt (f : Feature) : f.index < 32 := by
  cases f <;> decide

namespace FeatureSet

variable (s t : FeatureSet) (f g : Feature)

/-- A family is in a set if its bit is set. -/
theorem contains_single : s.contains (single f) = s.bits.toBitVec.getLsbD f.index := by
  have nonzero : (0#32 == BitVec.twoPow 32 f.index) = false := by cases f <;> rfl
  have same : s.contains (single f) =
      (s.bits.toBitVec &&& f.mask.toBitVec == f.mask.toBitVec) := by
    rw [Bool.eq_iff_iff, contains, single, beq_iff_eq, beq_iff_eq, ← UInt32.toBitVec_and,
      UInt32.toBitVec_inj]
  rw [same, f.toBitVec_mask, BitVec.and_twoPow]
  cases s.bits.toBitVec.getLsbD f.index with
  | false => simpa using nonzero
  | true => simp

/-- Bits that mean nothing do not matter for a family. -/
@[simp]
theorem contains_known : s.known.contains (single f) = s.contains (single f) := by
  have known : all.bits.toBitVec.getLsbD f.index = true := by cases f <;> rfl
  rw [contains_single, contains_single, FeatureSet.known, UInt32.toBitVec_and,
    BitVec.getLsbD_and, known, Bool.and_true]

theorem contains_toggle (on : Bool) : (s.toggle t on).contains (single f) =
    if t.contains (single f) then on else s.contains (single f) := by
  simp only [contains_single]
  cases on with
  | false =>
    have off : (s.toggle t false).bits.toBitVec.getLsbD f.index =
        (s.bits.toBitVec.getLsbD f.index && !t.bits.toBitVec.getLsbD f.index) := by
      simp [toggle, BitVec.getLsbD_eq_getElem f.index_lt]
    rw [off]
    cases t.bits.toBitVec.getLsbD f.index <;> simp
  | true =>
    have on : (s.toggle t true).bits.toBitVec.getLsbD f.index =
        (s.bits.toBitVec.getLsbD f.index || t.bits.toBitVec.getLsbD f.index) := by simp [toggle]
    rw [on]
    cases t.bits.toBitVec.getLsbD f.index <;> simp

@[simp]
theorem contains_single_single : (single f).contains (single g) = (f == g) := by
  cases f <;> cases g <;> rfl

@[simp]
theorem contains_all : all.contains (single f) = true := by
  cases f <;> rfl

end FeatureSet

namespace Host

variable (host : Host) (s t : FeatureSet) (f : Feature)

theorem allows_withFeatures :
    (host.withFeatures s).allows (.single f) = s.contains (.single f) :=
  s.contains_known f

theorem allows_toggle (on : Bool) : (host.toggle t on).allows (.single f) =
    if t.contains (.single f) then on else host.allows (.single f) := by
  simp only [allows, features, FeatureSet.contains_known]
  exact host.stored.contains_toggle t f on

end Host

/-! ### The rows for one header -/

namespace Rule

variable {n : ServiceName} {w : Window} {pid : UInt32} {host : Host}

/-- Rows of the table for one header take the same action. -/
theorem action_eq_of_header_eq {r s : Rule} (hr : r ∈ table) (hs : s ∈ table)
    (header : r.header = s.header) : r.action = s.action := by
  have rows : ∀ r ∈ table, ∀ s ∈ table, r.header = s.header → r.action = s.action := by decide
  exact rows r hr s hs header

theorem header_eq_of_applies {r : Rule} (applies : r.applies n w pid host = true) :
    r.header = w.header :=
  (r.applies_iff.mp applies).1

/-- The action of a row that applies is the one that is taken, also if an earlier row is chosen. -/
theorem select_action_iff {action : Action} :
    (∃ r, select (some n) w pid host = some r ∧ r.action = action) ↔
      ∃ r ∈ table, r.applies n w pid host = true ∧ r.action = action := by
  constructor
  · rintro ⟨r, chosen, action⟩
    obtain ⟨row, _, known, applies⟩ := applies_of_select chosen
    cases known
    exact ⟨r, row, applies, action⟩
  · rintro ⟨r, row, applies, rfl⟩
    obtain ⟨s, chosen⟩ : ∃ s, select (some n) w pid host = some s := by
      rw [← Option.ne_none_iff_exists', ne_eq, select_eq_none_iff]
      intro none
      rw [none r row] at applies
      cases applies
    obtain ⟨row', _, known, applies'⟩ := applies_of_select chosen
    cases known
    have header := (header_eq_of_applies applies').trans (header_eq_of_applies applies).symm
    exact ⟨s, chosen, action_eq_of_header_eq row' row header⟩

/-! ### Rules that are off -/

/-- What a rule asks for beyond its family does not depend on the features. -/
theorem applies_eq (r : Rule) :
    r.applies n w pid host =
      (r.applies n w pid (host.withFeatures .all) && r.isOn host) := by
  have guard : r.guard.holds w pid (host.withFeatures .all) = r.guard.holds w pid host := by
    cases r.guard <;> rfl
  have on : r.isOn (host.withFeatures .all) = true := by
    rw [isOn, Host.allows_withFeatures, FeatureSet.contains_all]
  rw [applies, applies, guard, on, Bool.and_true]

/-- If all that pass one test agree about another, the first that passes both is the first that
passes the one, or there is none. -/
private theorem find?_and {α : Type} {p q : α → Bool} {l : List α}
    (agree : ∀ a ∈ l, ∀ b ∈ l, p a = true → p b = true → q a = q b) :
    (l.find? fun a => p a && q a) = (l.find? p).filter q := by
  induction l with
  | nil => rfl
  | cons a l ih =>
    have tail := ih fun b hb c hc => agree b (.tail _ hb) c (.tail _ hc)
    cases hp : p a with
    | false => simp [hp, tail]
    | true =>
      cases hq : q a with
      | true => simp [hp, hq, Option.filter]
      -- The first that passes one test fails the other, and then so do all behind it.
      | false =>
        have fails : (l.find? fun b => p b && q b) = none := by
          rw [List.find?_eq_none]
          intro b hb
          cases hpb : p b with
          | false => simp
          | true => simp [← agree a (.head _) b (.tail _ hb) hp hpb, hq]
        simp [hp, hq, fails, Option.filter]

/-- The rule for a request is the one that it has with all families on, if that one is on. -/
theorem select_eq_filter (n : ServiceName) (w : Window) (pid : UInt32) (host : Host) :
    select (some n) w pid host =
      (select (some n) w pid (host.withFeatures .all)).filter (·.isOn host) := by
  simp only [select]
  rw [← find?_and]
  · exact congrArg table.find? (funext fun r => r.applies_eq)
  · intro r hr s hs applies applies'
    have header := (header_eq_of_applies applies).trans (header_eq_of_applies applies').symm
    rw [isOn, isOn, action_eq_of_header_eq hr hs header]

/-- Only the families that are on matter for the rule of a request. -/
theorem select_withFeatures_congr {s t : FeatureSet}
    (same : ∀ f, s.contains (.single f) = t.contains (.single f)) :
    select (some n) w pid (host.withFeatures s) = select (some n) w pid (host.withFeatures t) := by
  have on : (·.isOn (host.withFeatures s)) = fun r : Rule => r.isOn (host.withFeatures t) := by
    funext r
    rw [isOn, isOn, Host.allows_withFeatures, Host.allows_withFeatures, same]
  rw [select_eq_filter, select_eq_filter n w pid (host.withFeatures t), on]
  rfl

/-- Switching families off takes away the rules of these families and leaves all others. -/
theorem select_toggle_off (t : FeatureSet) :
    select (some n) w pid (host.toggle t false) =
      (select (some n) w pid host).filter fun r => !t.contains (.single r.action.feature) := by
  rw [select_eq_filter, select_eq_filter n w pid host, Option.filter_filter]
  refine congrArg₂ Option.filter (funext fun r => ?_) rfl
  rw [isOn, isOn, Host.allows_toggle]
  cases t.contains (.single r.action.feature) <;> simp

/-- What the features do to the rule of a request. -/
structure Restricts (n : ServiceName) (w : Window) (pid : UInt32) (host : Host) : Prop where
  restricted : select (some n) w pid host =
    (select (some n) w pid (host.withFeatures .all)).filter (·.isOn host)
  /-- Switching a family off takes its rules away and no others. -/
  switchedOff : ∀ f, select (some n) w pid (host.toggle (.single f) false) =
    (select (some n) w pid host).filter (·.action.feature != f)
  /-- Switching it on again brings them back. -/
  restored : ∀ f, host.allows (.single f) = true →
    select (some n) w pid ((host.toggle (.single f) false).toggle (.single f) true) =
      select (some n) w pid host
  /-- Bits that belong to no family do nothing. -/
  withFeatures_known : ∀ s, select (some n) w pid (host.withFeatures s) =
    select (some n) w pid (host.withFeatures s.known)
  toggle_known : ∀ t on, select (some n) w pid (host.toggle t on) =
    select (some n) w pid (host.toggle t.known on)

theorem restricts (n : ServiceName) (w : Window) (pid : UInt32) (host : Host) :
    Restricts n w pid host where
  restricted := select_eq_filter n w pid host
  switchedOff f := by
    rw [select_toggle_off]
    refine congrArg₂ Option.filter (funext fun r => ?_) rfl
    rw [FeatureSet.contains_single_single, bne, Bool.beq_comm]
  restored f on := by
    refine select_withFeatures_congr fun g => ?_
    simp only [Host.toggle, FeatureSet.contains_toggle, FeatureSet.contains_single_single]
    by_cases same : f = g
    · subst same
      rw [Host.allows, Host.features, FeatureSet.contains_known] at on
      simp [on]
    · simp [same]
  withFeatures_known s := select_withFeatures_congr fun f => (s.contains_known f).symm
  toggle_known t on := by
    refine select_withFeatures_congr fun f => ?_
    rw [FeatureSet.contains_toggle, FeatureSet.contains_toggle, FeatureSet.contains_known]

end Rule

/-! ### Calls whose rule is off -/

namespace Engine

variable {σ : Type}

/-- Two calls of one request, made with two registries, that cannot be told apart but by what others
do to these registries meanwhile. -/
structure Alike (w : World σ) (other : Registry) (a b : ResultCode × World σ) : Prop where
  result : a.1 = b.1
  window : a.2.window = b.2.window
  outside : a.2.outside = b.2.outside
  host : a.2.host = b.2.host
  events : ∃ t changes,
    a.2.trace = w.trace ++ (t ++ (w.registry.notices changes).map .noted) ∧
    b.2.trace = w.trace ++ (t ++ (other.notices changes).map .noted) ∧
    a.2.registry = w.registry.changed changes ∧ b.2.registry = other.changed changes

/-- A request that has no rule with either registry is sent in the same way with both. -/
theorem call_alike {env : Environment σ} {handle : Handle} {w : World σ} {other : Registry}
    (unreached : reached env handle w = none)
    (unreached' : reached env handle { w with registry := other } = none) :
    Alike w other (call env handle w) (call env handle { w with registry := other }) := by
  rcases sent : env.send handle w.window (passing env handle w.outside).1 with ⟨reply, outside⟩
  rw [call_passing unreached sent, call_passing unreached' sent]
  refine ⟨rfl, rfl, rfl, rfl, (passing env handle w.outside).2 ++
    [.sent (.caller handle) w.window reply.window reply.result], reply.changes, ?_, ?_, rfl, rfl⟩
  · simp [Reply.events]
  · simp [Reply.events]

theorem reached_of_isOff {env : Environment σ} {handle : Handle} {w : World σ}
    {session : SessionId} {name : ServiceName} {rule : Rule}
    (behind : sessionBehind env handle w.outside = some session)
    (known : w.registry.nameOf? session = some name)
    (chosen : Rule.select (some name) w.window (env.pid (env.lookUp handle w.outside).2)
      (w.host.withFeatures .all) = some rule)
    (off : rule.isOn w.host = false) : reached env handle w = none := by
  have unchosen : Rule.select (some name) w.window (env.pid (env.lookUp handle w.outside).2)
      w.host = none := by simp [Rule.select_eq_filter, chosen, off, Option.filter]
  simp [reached, behind, known, unchosen]

theorem reached_of_unnamed {env : Environment σ} {handle : Handle} {w : World σ}
    {session : SessionId} (behind : sessionBehind env handle w.outside = some session)
    (unknown : w.registry.nameOf? session = none) : reached env handle w = none := by
  simp [reached, behind, unknown]

/-- Switching families off turns the rules of these families into none and changes no other rule.
A request whose rule is off cannot be told from one on a session without a name. -/
theorem features_restrict :
    (∀ (n : ServiceName) (w : Window) (pid : UInt32) (host : Host),
      Rule.Restricts n w pid host) ∧
    ∀ (env : Environment σ) (handle : Handle) (w : World σ) (session : SessionId)
      (name : ServiceName) (rule : Rule) (other : Registry),
      sessionBehind env handle w.outside = some session →
      w.registry.nameOf? session = some name →
      Rule.select (some name) w.window (env.pid (env.lookUp handle w.outside).2)
        (w.host.withFeatures .all) = some rule →
      rule.isOn w.host = false →
      other.nameOf? session = none →
      Alike w other (call env handle w) (call env handle { w with registry := other }) := by
  refine ⟨Rule.restricts, ?_⟩
  intro env handle w session name rule other behind known chosen off unknown
  exact call_alike (reached_of_isOff behind known chosen off) (reached_of_unnamed behind unknown)

open Simulation Scripted

/-- A directory is to be deleted while the supervisor is not to be asked. -/
def unsupervised : Stage :=
  { supervised .quiet directoryDeletion with
    host := Host.boot.toggle (.single .supervision) false }

theorem unsupervised_alike :
    Alike unsupervised .empty (call environment ⟨256⟩ unsupervised)
      (call environment ⟨256⟩ { unsupervised with registry := .empty }) := by
  obtain ⟨name, known⟩ := Option.isSome_iff_exists.mp
    (show (unsupervised.registry.nameOf? ⟨4096⟩).isSome = true by decide +kernel)
  have ruled : (unsupervised.registry.nameOf? ⟨4096⟩).any (fun n =>
      (Rule.select (some n) unsupervised.window 48 (unsupervised.host.withFeatures .all)).any
        fun r => !r.isOn unsupervised.host) = true := by decide +kernel
  rw [known, Option.any_some, Option.any_eq_true] at ruled
  obtain ⟨rule, chosen, off⟩ := ruled
  exact features_restrict.2 environment ⟨256⟩ unsupervised ⟨4096⟩ name rule .empty rfl known chosen
    (by simpa using off) (by simp [Registry.nameOf?, Registry.find?])

end Engine

end Interception
