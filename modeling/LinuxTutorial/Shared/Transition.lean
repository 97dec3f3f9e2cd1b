import Mathlib.Data.List.Basic
import Mathlib.Tactic.SplitIfs

set_option autoImplicit false

/-!
A label that is not enabled has no next state. Everything nondeterministic (results of calls,
choice of the process that moves) is carried by the label, so that a run is a list of labels.
-/

namespace Transition

universe u v

structure Machine (State : Type u) (Label : Type v) where
  initial : State → Prop
  step : State → Label → Option State

namespace Machine

variable {State : Type u} {Label : Type v}

def run (machine : Machine State Label) : State → List Label → Option State
  | state, [] => some state
  | state, label :: rest => (machine.step state label).bind fun next => machine.run next rest

/-- The run, as long as its steps meet `guard`. -/
def runBy (machine : Machine State Label) (guard : State → Label → Prop)
    [∀ state label, Decidable (guard state label)] : State → List Label → Option State
  | state, [] => some state
  | state, label :: rest =>
    if guard state label then
      (machine.step state label).bind fun next => machine.runBy guard next rest
    else none

/-- A run all of whose steps meet `guard`, a condition on the state before the step. -/
inductive Path (machine : Machine State Label) (guard : State → Label → Prop) :
    State → List Label → State → Prop
  | nil (state : State) : Path machine guard state [] state
  | cons {state next last : State} {label : Label} {rest : List Label}
      (allowed : guard state label) (move : machine.step state label = some next)
      (tail : Path machine guard next rest last) :
      Path machine guard state (label :: rest) last

def anyStep (_ : State) (_ : Label) : Prop := True

def ReachableBy (machine : Machine State Label) (guard : State → Label → Prop)
    (state : State) : Prop :=
  ∃ start labels, machine.initial start ∧ machine.Path guard start labels state

abbrev Reachable (machine : Machine State Label) (state : State) : Prop :=
  machine.ReachableBy anyStep state

/-- The condition a step has to keep, for the steps that meet `guard`. -/
def Preserves (machine : Machine State Label) (guard : State → Label → Prop)
    (invariant : State → Prop) : Prop :=
  ∀ state label next, invariant state → guard state label →
    machine.step state label = some next → invariant next

variable {machine : Machine State Label} {guard : State → Label → Prop}

theorem Path.imp {other : State → Label → Prop} {invariant : State → Prop} {start last : State}
    {labels : List Label} (preserved : machine.Preserves anyStep invariant)
    (implied : ∀ state label, invariant state → guard state label → other state label)
    (path : machine.Path guard start labels last) (holds : invariant start) :
    machine.Path other start labels last := by
  induction path with
  | nil => exact .nil _
  | cons allowed move _ ih =>
    have later := preserved _ _ _ holds trivial move
    exact .cons (implied _ _ holds allowed) move (ih later)

theorem Path.weaken {other : State → Label → Prop} {start last : State} {labels : List Label}
    (implied : ∀ state label next, machine.step state label = some next → guard state label →
      other state label)
    (path : machine.Path guard start labels last) : machine.Path other start labels last := by
  induction path with
  | nil => exact .nil _
  | cons allowed move _ ih => exact .cons (implied _ _ _ move allowed) move ih

theorem Path.keeps {invariant : State → Prop} {start last : State} {labels : List Label}
    (preserved : machine.Preserves guard invariant)
    (path : machine.Path guard start labels last) (holds : invariant start) :
    invariant last := by
  induction path with
  | nil => exact holds
  | cons allowed move _ ih => exact ih (preserved _ _ _ holds allowed move)

/-- A fact that a step spoils for good just when it breaks `guard` tells whether a path was
guarded. -/
theorem Path.iff_guarded_within {invariant good : State → Prop} {start last : State}
    {labels : List Label} (preserved : machine.Preserves anyStep invariant)
    (exact : ∀ state label next, invariant state → machine.step state label = some next →
      (good next ↔ good state ∧ guard state label))
    (path : machine.Path anyStep start labels last) (holds : invariant start) :
    good last ↔ good start ∧ machine.Path guard start labels last := by
  induction path with
  | nil state => simp [Path.nil]
  | cons _ move tail ih =>
    rw [ih (preserved _ _ _ holds trivial move), exact _ _ _ holds move, and_assoc]
    constructor
    · rintro ⟨good, allowed, later⟩
      exact ⟨good, .cons allowed move later⟩
    · rintro ⟨good, path⟩
      cases path with
      | cons allowed moved later =>
        obtain rfl := Option.some.inj (move.symm.trans moved)
        exact ⟨good, allowed, later⟩

theorem Path.iff_guarded {good : State → Prop} {start last : State} {labels : List Label}
    (exact : ∀ state label next, machine.step state label = some next →
      (good next ↔ good state ∧ guard state label))
    (path : machine.Path anyStep start labels last) :
    good last ↔ good start ∧ machine.Path guard start labels last :=
  path.iff_guarded_within (fun _ _ _ _ _ _ => trivial)
    (fun _ _ _ _ move => exact _ _ _ move) trivial

/-- A fact that every guarded step keeps, and no other, holds throughout the guarded paths. -/
theorem Path.iff_throughout {invariant safe : State → Prop} {start last : State}
    {labels : List Label} (preserved : machine.Preserves anyStep invariant)
    (exact : ∀ state label next, invariant state → safe state →
      machine.step state label = some next → (safe next ↔ guard state label))
    (path : machine.Path anyStep start labels last) (holds : invariant start)
    (begins : safe start) :
    machine.Path guard start labels last ↔
      machine.Path (fun state _ => safe state) start labels last ∧ safe last := by
  induction path with
  | nil state => simp [Path.nil, begins]
  | @cons state next last label rest _ move tail ih =>
    have within := preserved _ _ _ holds trivial move
    have kept := exact _ _ _ holds begins move
    constructor
    · intro path
      cases path with
      | cons allowed moved later =>
        obtain rfl := Option.some.inj (move.symm.trans moved)
        obtain ⟨throughout, ends⟩ := (ih within (kept.mpr allowed)).mp later
        exact ⟨.cons begins move throughout, ends⟩
    · rintro ⟨path, ends⟩
      cases path with
      | cons _ moved later =>
        obtain rfl := Option.some.inj (move.symm.trans moved)
        have goes : safe next := by
          cases later with
          | nil => exact ends
          | cons safe _ _ => exact safe
        exact .cons (kept.mp goes) move ((ih within goes).mpr ⟨later, ends⟩)

theorem path_of_run {start last : State} {labels : List Label}
    (completed : machine.run start labels = some last) :
    machine.Path anyStep start labels last := by
  induction labels generalizing start with
  | nil =>
    obtain rfl : start = last := by simpa [run] using completed
    exact .nil _
  | cons label rest ih =>
    obtain ⟨next, move, later⟩ := Option.bind_eq_some_iff.mp completed
    exact .cons trivial move (ih later)

theorem path_of_runBy [∀ state label, Decidable (guard state label)] {start last : State}
    {labels : List Label} (completed : machine.runBy guard start labels = some last) :
    machine.Path guard start labels last := by
  induction labels generalizing start with
  | nil =>
    obtain rfl : start = last := by simpa [runBy] using completed
    exact .nil _
  | cons label rest ih =>
    rw [runBy] at completed
    split_ifs at completed with allowed
    obtain ⟨next, move, later⟩ := Option.bind_eq_some_iff.mp completed
    exact .cons allowed move (ih later)

theorem reachable_of_run {start last : State} {labels : List Label}
    (initial : machine.initial start) (completed : machine.run start labels = some last) :
    machine.Reachable last :=
  ⟨start, labels, initial, path_of_run completed⟩

/-- Initially true and kept by every step that meets `guard`: true wherever such steps lead. -/
theorem ReachableBy.holds {invariant : State → Prop} {state : State}
    (reached : machine.ReachableBy guard state)
    (initially : ∀ start, machine.initial start → invariant start)
    (preserved : machine.Preserves guard invariant) : invariant state := by
  obtain ⟨start, labels, initial, path⟩ := reached
  exact path.keeps preserved (initially start initial)

end Machine

end Transition
