import Mathlib.Data.List.Basic

set_option autoImplicit false

/-!
Locks that cover the whole file; a new lock of the same owner replaces the old one.
-/

namespace RecordLock

inductive Mode where
  | shared
  | exclusive
  deriving DecidableEq, Repr

structure Entry (Object Owner : Type) where
  object : Object
  owner : Owner
  mode : Mode
  deriving DecidableEq

variable {Object Owner : Type} [DecidableEq Object] [DecidableEq Owner]

abbrev Table (Object Owner : Type) := List (Entry Object Owner)

def compatible (left right : Mode) : Bool :=
  match left, right with
  | .shared, .shared => true
  | _, _ => false

/-- No other owner has a lock on the object that excludes this one. -/
def grantable (table : Table Object Owner) (object : Object) (owner : Owner) (mode : Mode) :
    Bool :=
  table.all fun entry =>
    decide (entry.object ≠ object) || decide (entry.owner = owner) || compatible entry.mode mode

def drop (table : Table Object Owner) (object : Object) (owner : Owner) : Table Object Owner :=
  table.filter fun entry => !(decide (entry.object = object) && decide (entry.owner = owner))

def grant (table : Table Object Owner) (object : Object) (owner : Owner) (mode : Mode) :
    Option (Table Object Owner) :=
  if grantable table object owner mode then some (⟨object, owner, mode⟩ :: drop table object owner)
  else none

/-- Two owners hold locks on one object only when both locks are shared. -/
def Exclusive (table : Table Object Owner) : Prop :=
  ∀ left ∈ table, ∀ right ∈ table, left.object = right.object → left.owner ≠ right.owner →
    left.mode = .shared ∧ right.mode = .shared

theorem compatible_iff (left right : Mode) :
    compatible left right = true ↔ left = .shared ∧ right = .shared := by
  cases left <;> cases right <;> simp [compatible]

@[simp] theorem mem_drop (table : Table Object Owner) (object : Object) (owner : Owner)
    (entry : Entry Object Owner) :
    entry ∈ drop table object owner ↔
      entry ∈ table ∧ ¬(entry.object = object ∧ entry.owner = owner) := by
  simp [drop, imp_iff_not_or]

theorem grant_cases {table next : Table Object Owner} {object : Object} {owner : Owner}
    {mode : Mode} (granted : grant table object owner mode = some next) :
    grantable table object owner mode = true ∧
      next = ⟨object, owner, mode⟩ :: drop table object owner := by
  unfold grant at granted
  split at granted
  · rename_i free
    exact ⟨free, (Option.some.inj granted).symm⟩
  · cases granted

theorem grantable_spec {table : Table Object Owner} {object : Object} {owner : Owner}
    {mode : Mode} (free : grantable table object owner mode = true)
    {entry : Entry Object Owner} (member : entry ∈ table) (same : entry.object = object)
    (other : entry.owner ≠ owner) : entry.mode = .shared ∧ mode = .shared := by
  have fact := List.all_eq_true.mp free entry member
  simpa [same, other, compatible_iff] using fact

omit [DecidableEq Object] [DecidableEq Owner] in
theorem exclusive_nil : Exclusive ([] : Table Object Owner) := by
  intro left member
  simp at member

theorem exclusive_drop {table : Table Object Owner} (exclusive : Exclusive table)
    (object : Object) (owner : Owner) : Exclusive (drop table object owner) := by
  intro left leftMember right rightMember
  exact exclusive left ((mem_drop ..).mp leftMember).1 right ((mem_drop ..).mp rightMember).1

theorem exclusive_grant {table next : Table Object Owner} {object : Object} {owner : Owner}
    {mode : Mode} (exclusive : Exclusive table)
    (granted : grant table object owner mode = some next) : Exclusive next := by
  obtain ⟨free, rfl⟩ := grant_cases granted
  have kept := exclusive_drop exclusive object owner
  intro left leftMember right rightMember same other
  rcases List.mem_cons.mp leftMember with rfl | leftOld <;>
    rcases List.mem_cons.mp rightMember with rfl | rightOld
  · exact absurd rfl other
  · have conflict := grantable_spec free ((mem_drop ..).mp rightOld).1 same.symm (Ne.symm other)
    exact ⟨conflict.2, conflict.1⟩
  · exact grantable_spec free ((mem_drop ..).mp leftOld).1 same other
  · exact kept left leftOld right rightOld same other

end RecordLock
