import LinuxTutorial.Sync.LockExit

set_option autoImplicit false

namespace FileLock

open RecordLock Transition

def Pc.leavesName : Pc → Bool
  | .forking _ | .running _ _ _ | .unlinking => true
  | .exited status => status = -1
  | .absent | .registering | .opening => false

def Attended (state : State) : Prop :=
  state.name ≠ none → ∃ pid, (state.pc pid).leavesName = true

theorem attended_setPc {state next : State} {pid : Nat} {pc : Pc} (before : Attended state)
    (name : next.name = state.name) (moved : ∀ other, next.pc other = (state.setPc pid pc).pc other)
    (kept : (state.pc pid).leavesName = true → pc.leavesName = true) : Attended next := by
  intro named
  obtain ⟨other, leaves⟩ := before (name ▸ named)
  refine ⟨other, ?_⟩
  rw [moved, State.pc_setPc]
  split_ifs with same
  · exact kept (same ▸ leaves)
  · exact leaves

theorem preserves_attended : machine.Preserves Machine.anyStep Attended := by
  intro state label next before _ move
  cases step_moves move with
  | @started pid at_ =>
    refine @attended_setPc _ _ pid .registering before rfl (fun other => ?_) ?_
    · rw [State.pc_setProcess, State.pc_setPc]
    · simp [at_, Pc.leavesName]
  | @signalled pid handles =>
    refine @attended_setPc _ _ pid (state.pc pid) before rfl (fun other => ?_) id
    rw [State.pc_handleSignal, State.pc_setPc]
    split_ifs with same
    · rw [same]
    · rfl
  | @opened pid object at_ | @created pid at_ =>
    exact fun _ => ⟨pid, by simp [State.pc_setPc, Pc.leavesName]⟩
  | @forked pid object child at_ free =>
    exact fun _ => ⟨child, by simp [State.pc_setProcess, Pc.leavesName]⟩
  | unlinked at_ => exact fun named => absurd rfl named
  | killed at_ | registered at_ | openFailed at_ | forkFailed at_ | left at_ | entered at_
  | locked at_ | lockFailed at_ | slept at_ | unlocked at_ | unlockFailed at_ | paused at_
  | closed at_ =>
    exact attended_setPc before rfl (fun _ => rfl) (by simp [at_, Pc.leavesName])

theorem ended_system_leaves_nothing {state : State} (reached : machine.Reachable state)
    (ended : ∀ pid, state.pc pid = .absent ∨
      ∃ status, state.pc pid = .exited status ∧ status ≠ -1) :
    state.name = none ∧ state.locks = [] := by
  have registered := reachable_registered reached
  have attended : Attended state :=
    reached.holds (fun _ start named => absurd (start ▸ rfl) named) preserves_attended
  constructor
  · by_contra named
    obtain ⟨pid, leaves⟩ := attended named
    rcases ended pid with gone | ⟨status, left, succeeded⟩
    · simp [gone, Pc.leavesName] at leaves
    · simp [left, Pc.leavesName] at leaves
      exact succeeded leaves
  · refine List.eq_nil_iff_forall_not_mem.mpr fun entry member => ?_
    have held := registered.owners entry member
    rcases ended entry.owner with gone | ⟨status, left, -⟩
    · rw [gone] at held
      cases held
    · rw [left] at held
      cases held

def leavingRun : List Label :=
  [.start 0, .register 0, .shmOpen 0 true, .fork 0 (some 1), .test 1, .fcntl 1 true, .test 0,
    .signal 0, .signal 1, .slept 1, .fcntl 1 true, .slept 1, .test 1, .close 1, .shmUnlink 1,
    .fcntl 0 true, .slept 0, .fcntl 0 true, .slept 0, .test 0, .close 0, .shmUnlink 0]

theorem ended_system_leaves_nothing_both :
    ∃ state, machine.run initial leavingRun = some state ∧ state.objects = 1 ∧
      state.name = none ∧ state.locks = [] := by
  have completed : machine.run initial leavingRun = some _ := rfl
  have reached := Machine.reachable_of_run rfl completed
  refine ⟨_, completed, rfl, ended_system_leaves_nothing reached ?_⟩
  intro pid
  match pid with
  | 0 => exact .inr ⟨0, rfl, by decide⟩
  | 1 => exact .inr ⟨0, rfl, by decide⟩
  | other + 2 => exact .inl rfl

end FileLock
