import LinuxTutorial.Sync.LockExit
import Mathlib.Algebra.BigOperators.Finprod

set_option autoImplicit false

namespace FileLock

open RecordLock Totals Transition

-- Without help from outside: no new instance and no further signal.
def Unattended (_ : State) (label : Label) : Prop :=
  (∀ pid, label ≠ .start pid) ∧ ∀ pid, label ≠ .signal pid

-- A failure is no way out of a call either: a process that has to wait for its lock waits.
def Unaided (state : State) (label : Label) : Prop := Unattended state label ∧ label.fails = false

def ShuttingDown (state : State) : Prop :=
  ∀ pid, state.pc pid = .absent ∨ (∃ status, state.pc pid = .exited status) ∨ Signalled pid state

def Pc.weight : Pc → Nat
  | .opening => 8
  | .forking _ => 7
  | .registering => 0
  | pc => pc.remaining

noncomputable def load (state : State) : Nat := ∑ᶠ pid, (state.pc pid).weight

theorem load_eq {state : State} {bound : Nat} (bounded : Bounded state bound) :
    load state = ∑ pid ∈ Finset.range bound, (state.pc pid).weight := by
  apply finsum_eq_sum_of_support_subset
  intro pid counts
  by_contra beyond
  have absent := bounded pid (by simpa using beyond)
  simp [absent, Pc.weight, Pc.remaining] at counts

theorem bounded_inside {state : State} {bound pid : Nat} (bounded : Bounded state bound)
    (present : state.pc pid ≠ .absent) : pid < bound := by
  by_contra beyond
  exact present (bounded pid (by omega))

theorem load_update {state next : State} {pid bound : Nat} {pc : Pc} (bounded : Bounded state bound)
    (inside : pid < bound)
    (moved : ∀ other, next.pc other = if other = pid then pc else state.pc other) :
    Bounded next bound ∧ load next + (state.pc pid).weight = load state + pc.weight := by
  have kept : Bounded next bound := by
    intro other beyond
    rw [moved, if_neg (by omega)]
    exact bounded other beyond
  have weights : (fun other => (next.pc other).weight) =
      Function.update (fun other => (state.pc other).weight) pid pc.weight := by
    funext other
    rw [moved, Function.update_apply]
    split_ifs <;> rfl
  refine ⟨kept, ?_⟩
  rw [load_eq bounded, load_eq kept, weights]
  exact sum_update_add (fun other => (state.pc other).weight) inside pc.weight

theorem shuttingDown_setPc {state next : State} {pid : Nat} {pc : Pc}
    (shutting : ShuttingDown state) (signalled : Signalled pid state)
    (moved : next.processes = (state.setPc pid pc).processes)
    (present : pc ≠ .absent ∧ pc ≠ .registering) : ShuttingDown next := by
  intro other
  have after : next.processes other =
      if other = pid then { state.processes pid with pc := pc } else state.processes other := by
    rw [moved, processes_setPc]
  by_cases same : other = pid
  · rw [if_pos same] at after
    have control : next.pc other = pc := congrArg Process.pc after
    exact .inr (.inr ⟨by rw [after]; exact signalled.quit, control ▸ present⟩)
  · rw [if_neg same] at after
    have control : next.pc other = state.pc other := congrArg Process.pc after
    rw [control]
    rcases shutting other with gone | left | signalled
    · exact .inl gone
    · exact .inr (.inl left)
    · exact .inr (.inr ⟨by rw [after]; exact signalled.quit, control ▸ signalled.handles⟩)

structure Stopping (state : State) : Prop where
  shutting : ShuttingDown state
  bounded : ∃ bound, Bounded state bound

theorem stopping_setPc {state next : State} {pid : Nat} {before pc : Pc} (stopping : Stopping state)
    (at_ : state.pc pid = before) (moved : next.processes = (state.setPc pid pc).processes)
    (signalled : Signalled pid state → pc ≠ .absent ∧ pc ≠ .registering ∧ pc.weight < before.weight)
    (going : before ≠ .absent ∧ ∀ status, before ≠ .exited status) :
    Stopping next ∧ load next < load state := by
  have quits : Signalled pid state := by
    rcases stopping.shutting pid with gone | ⟨status, left⟩ | signalled
    · exact absurd (at_.symm.trans gone) going.1
    · exact absurd (at_.symm.trans left) (going.2 status)
    · exact signalled
  obtain ⟨present, handles, lower⟩ := signalled quits
  obtain ⟨bound, bounded⟩ := stopping.bounded
  have inside : pid < bound := bounded_inside bounded (at_ ▸ going.1)
  have pcs (other : Nat) : next.pc other = if other = pid then pc else state.pc other :=
    (congrArg (fun processes => (processes other).pc) moved).trans (State.pc_setPc ..)
  obtain ⟨kept, sum⟩ := load_update bounded inside pcs
  rw [at_] at sum
  have shutting := shuttingDown_setPc stopping.shutting quits moved ⟨present, handles⟩
  exact ⟨⟨shutting, bound, kept⟩, by omega⟩

theorem stopping_forked {state : State} {pid object child : Nat} (stopping : Stopping state)
    (at_ : state.pc pid = .forking object) (free : state.pc child = .absent) :
    let next := (state.setPc pid (.running .reader object .top)).setProcess child
      { pc := .running .writer object .top, quit := (state.processes pid).quit }
    Stopping next ∧ load next < load state := by
  intro next
  have quits : Signalled pid state := by
    rcases stopping.shutting pid with gone | ⟨status, left⟩ | signalled
    · exact absurd (at_.symm.trans gone) (by simp)
    · exact absurd (at_.symm.trans left) (by simp)
    · exact signalled
  let parent := state.setPc pid (.running .reader object .top)
  have other : child ≠ pid := by
    rintro rfl
    exact absurd (at_.symm.trans free) (by simp)
  have stillFree : parent.pc child = .absent :=
    ((State.pc_setPc ..).trans (if_neg other)).trans free
  obtain ⟨bound, bounded⟩ := stopping.bounded
  have wider : Bounded state (max bound (child + 1)) := fun pid beyond => bounded pid (by omega)
  have inside : pid < max bound (child + 1) := bounded_inside wider (by rw [at_]; simp)
  obtain ⟨parentBounded, parentSum⟩ := load_update wider inside (State.pc_setPc state pid · _)
  obtain ⟨kept, sum⟩ := load_update parentBounded (by omega) (State.pc_setProcess parent child · _)
  have parentShutting : ShuttingDown parent :=
    shuttingDown_setPc stopping.shutting quits rfl (by simp)
  refine ⟨⟨?_, _, kept⟩, ?_⟩
  · intro other
    by_cases same : other = child
    · have born : next.processes other =
          { pc := .running .writer object .top, quit := (state.processes pid).quit } := by
        rw [same]
        exact Function.update_self ..
      have control : next.pc other = .running .writer object .top := congrArg Process.pc born
      exact .inr (.inr ⟨by rw [born]; exact quits.quit, by rw [control]; simp⟩)
    · have kept : next.processes other = parent.processes other :=
        Function.update_of_ne same ..
      have control : next.pc other = parent.pc other := congrArg Process.pc kept
      rw [control]
      rcases parentShutting other with gone | left | signalled
      · exact .inl gone
      · exact .inr (.inl left)
      · exact .inr (.inr ⟨by rw [kept]; exact signalled.quit, control ▸ signalled.handles⟩)
  · rw [at_] at parentSum
    rw [stillFree] at sum
    have total : load next + 0 = load parent + 3 := sum
    have parentTotal : load parent + 7 = load state + 3 := parentSum
    omega

theorem stopping_moves {state next : State} {label : Label} (stopping : Stopping state)
    (allowed : Unattended state label) (move : Moves state label next) :
    Stopping next ∧ load next < load state := by
  cases move with
  | started => exact absurd rfl (allowed.1 _)
  | killed | signalled => exact absurd rfl (allowed.2 _)
  | registered at_ =>
    exact stopping_setPc stopping at_ rfl (fun quits => absurd at_ quits.handles.2) (by simp)
  | entered at_ running =>
    exact stopping_setPc stopping at_ rfl
      (fun quits => absurd (quits.quit.symm.trans running) (by simp)) (by simp)
  | @forked pid object child at_ free => exact stopping_forked stopping at_ free
  | opened at_ | created at_ | openFailed at_ | forkFailed at_ | left at_ | locked at_
  | lockFailed at_ | slept at_ | unlocked at_ | unlockFailed at_ | paused at_ | closed at_
  | unlinked at_ =>
    exact stopping_setPc stopping at_ rfl (by simp [Pc.weight, Pc.remaining]) (by simp)

theorem stuck_exited {state : State} (registered : Registered state) (stopping : Stopping state)
    (stuck : machine.Stuck Unaided state) (pid : Nat) :
    state.pc pid = .absent ∨ ∃ status, state.pc pid = .exited status := by
  -- a process that has handled its signals has no enabled step
  have still (pid : Nat) (present : state.pc pid ≠ .absent) (label : Label) (next : State)
      (own : label.ownStep pid = true) (succeeds : label.fails = false)
      (move : machine.step state label = some next) : False := by
    have unattended : Unattended state label := by
      constructor
      · rintro other rfl
        cases step_moves move with
        | started free =>
          have mover : other = pid := of_decide_eq_true own
          exact present (mover ▸ free)
      · rintro other rfl
        cases own
    rw [stuck label ⟨unattended, succeeds⟩] at move
    cases move
  rcases stopping.shutting pid with gone | left | signalled
  · exact .inl gone
  · exact .inr left
  · rcases signalled_can_move signalled stopping.bounded with left | ⟨role, object, at_, refused⟩ |
        ⟨label, next, own, succeeds, move⟩
    · exact .inr left
    · -- the process that holds the lock goes on
      obtain ⟨entry, member, -, -⟩ := refused_by refused
      obtain ⟨holderRole, phase, holder, -⟩ := (lockable_iff ..).mp (registered.owners _ member)
      have move := advances holder (holder_not_waiting registered member)
      exact (still entry.owner (by rw [holder]; simp) _ _ (ownStep_call _ _) (fails_call _ _)
        move).elim
    · exact (still pid signalled.handles.1 label next own succeeds move).elim

theorem signalled_system_stops {state : State} (reached : machine.Reachable state)
    (signalled : ∀ pid, state.pc pid = .absent ∨ (∃ status, state.pc pid = .exited status) ∨
      (state.processes pid).quit = true) :
    ∃ limit, ∀ labels last, machine.Path Unattended state labels last → labels.length ≤ limit ∧
      (machine.Stuck Unaided last →
        (∀ pid, last.pc pid = .absent ∨ ∃ status, last.pc pid = .exited status) ∧
          last.locks = []) := by
  have stopping : Stopping state := by
    refine ⟨fun pid => ?_, reachable_bounded reached⟩
    rcases signalled pid with gone | left | quit
    · exact .inl gone
    · exact .inr (.inl left)
    · exact .inr (.inr (reachable_signalled reached quit))
  have preserved : machine.Preserves Unattended Stopping :=
    fun _ _ _ holds allowed move => (stopping_moves holds allowed (step_moves move)).1
  refine ⟨load state, fun labels last path => ⟨?_, fun stuck => ?_⟩⟩
  · have bounded := path.bounded preserved
      (fun _ _ _ holds allowed move => (stopping_moves holds allowed (step_moves move)).2) stopping
    omega
  · have registered := reachable_registered (reached.later path.any)
    have ended := stuck_exited registered (path.keeps preserved stopping) stuck
    refine ⟨ended, List.eq_nil_iff_forall_not_mem.mpr fun entry member => ?_⟩
    have held := registered.owners entry member
    rcases ended entry.owner with gone | ⟨status, left⟩
    · rw [gone] at held
      cases held
    · rw [left] at held
      cases held

theorem signalled_system_stops_both :
    ∃ state, machine.run initial bothSignalled = some state ∧
      ∃ limit, ∀ labels last, machine.Path Unattended state labels last → labels.length ≤ limit ∧
        (machine.Stuck Unaided last →
          (∀ pid, last.pc pid = .absent ∨ ∃ status, last.pc pid = .exited status) ∧
            last.locks = []) := by
  have completed : machine.run initial bothSignalled = some _ := rfl
  refine ⟨_, completed, signalled_system_stops (Machine.reachable_of_run rfl completed) ?_⟩
  intro pid
  match pid with
  | 0 => exact .inr (.inr rfl)
  | 1 => exact .inr (.inr rfl)
  | other + 2 => exact .inl rfl

end FileLock
