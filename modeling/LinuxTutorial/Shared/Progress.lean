import LinuxTutorial.Shared.Transition

set_option autoImplicit false

namespace Transition

namespace Machine

universe u v

variable {State : Type u} {Label : Type v}

def total (machine : Machine State Label) (charge : State → Label → Nat) :
    State → List Label → Nat
  | _, [] => 0
  | state, label :: rest =>
    charge state label +
      (machine.step state label).elim 0 fun next => total machine charge next rest

/-- No label that `guard` admits is enabled. -/
def Stuck (machine : Machine State Label) (guard : State → Label → Prop) (state : State) : Prop :=
  ∀ label, guard state label → machine.step state label = none

variable {machine : Machine State Label} {guard : State → Label → Prop}

theorem Path.append {start middle last : State} {first second : List Label}
    (path : machine.Path guard start first middle) (tail : machine.Path guard middle second last) :
    machine.Path guard start (first ++ second) last := by
  induction path with
  | nil => exact tail
  | cons allowed move _ ih => exact .cons allowed move (ih tail)

theorem Path.any {start last : State} {labels : List Label}
    (path : machine.Path guard start labels last) : machine.Path anyStep start labels last :=
  path.weaken fun _ _ _ _ _ => trivial

theorem path_of_labels {allowed : Label → Prop} {start last : State} {labels : List Label}
    (each : ∀ label, label ∈ labels → allowed label)
    (completed : machine.run start labels = some last) :
    machine.Path (fun _ label => allowed label) start labels last := by
  induction labels generalizing start with
  | nil =>
    obtain rfl : start = last := by simpa [run] using completed
    exact .nil _
  | cons label rest ih =>
    obtain ⟨next, move, later⟩ := Option.bind_eq_some_iff.mp completed
    have tail := ih (fun other member => each other (List.mem_cons_of_mem _ member)) later
    exact .cons (each label List.mem_cons_self) move tail

theorem ReachableBy.later {start last : State} {labels : List Label}
    (reached : machine.ReachableBy guard start) (path : machine.Path guard start labels last) :
    machine.ReachableBy guard last := by
  obtain ⟨first, before, initial, earlier⟩ := reached
  exact ⟨first, before ++ labels, initial, earlier.append path⟩

theorem total_cons (charge : State → Label → Nat) {state next : State} {label : Label}
    (rest : List Label) (move : machine.step state label = some next) :
    machine.total charge state (label :: rest) =
      charge state label + machine.total charge next rest := by
  rw [total, move, Option.elim_some]

theorem Path.total_append (charge : State → Label → Nat) {start middle : State}
    {first : List Label} (path : machine.Path guard start first middle) (second : List Label) :
    machine.total charge start (first ++ second) =
      machine.total charge start first + machine.total charge middle second := by
  induction path with
  | nil => simp [total]
  | cons _ move _ ih => rw [List.cons_append, total_cons _ _ move, ih, total_cons _ _ move,
      Nat.add_assoc]

-- A rank that pays for each step bounds what the steps of a path cost.
theorem Path.spends (charge : State → Label → Nat) {rank : State → Nat}
    {invariant : State → Prop} {start last : State} {labels : List Label}
    (preserved : machine.Preserves guard invariant)
    (pays : ∀ state label next, invariant state → guard state label →
      machine.step state label = some next → rank next + charge state label ≤ rank state)
    (path : machine.Path guard start labels last) (holds : invariant start) :
    rank last + machine.total charge start labels ≤ rank start := by
  induction path with
  | nil => exact Nat.le_refl _
  | @cons state next last label rest allowed move _ ih =>
    have step := pays _ _ _ holds allowed move
    have later := ih (preserved _ _ _ holds allowed move)
    rw [total_cons _ rest move]
    omega

theorem Path.total_count (counts : Label → Bool) {start last : State} {labels : List Label}
    (path : machine.Path guard start labels last) :
    machine.total (fun _ label => if counts label then 1 else 0) start labels =
      labels.countP counts := by
  induction path with
  | nil => rfl
  | @cons state next last label rest _ move _ ih =>
    rw [total_cons _ rest move, ih, List.countP_cons, Nat.add_comm]

-- Where every guarded step lowers the rank, the rank bounds the length of the guarded paths.
theorem Path.bounded {rank : State → Nat} {invariant : State → Prop} {start last : State}
    {labels : List Label} (preserved : machine.Preserves guard invariant)
    (lowers : ∀ state label next, invariant state → guard state label →
      machine.step state label = some next → rank next < rank state)
    (path : machine.Path guard start labels last) (holds : invariant start) :
    rank last + labels.length ≤ rank start := by
  have spent := path.spends (fun _ _ => 1) preserved
    (fun _ _ _ holds allowed move => lowers _ _ _ holds allowed move) holds
  have length := path.total_count fun _ => true
  simp only [if_true, List.countP_true] at length
  rwa [length] at spent

/-- Where some guarded step lowers the rank as long as the goal does not hold, a guarded path
leads to the goal. -/
theorem leads_to {invariant : State → Prop} (rank : State → Nat) (goal : State → Prop)
    (preserved : machine.Preserves guard invariant)
    (helped : ∀ state, invariant state → ¬ goal state → ∃ label next,
      guard state label ∧ machine.step state label = some next ∧ rank next < rank state)
    (start : State) (holds : invariant start) :
    ∃ labels last, machine.Path guard start labels last ∧ goal last := by
  induction size : rank start using Nat.strongRecOn generalizing start with
  | ind size ih =>
    by_cases reached : goal start
    · exact ⟨[], start, .nil start, reached⟩
    · obtain ⟨label, next, allowed, move, lower⟩ := helped start holds reached
      have later := preserved _ _ _ holds allowed move
      obtain ⟨labels, last, path, goal⟩ := ih (rank next) (size ▸ lower) next later rfl
      exact ⟨label :: labels, last, .cons allowed move path, goal⟩

end Machine

end Transition
