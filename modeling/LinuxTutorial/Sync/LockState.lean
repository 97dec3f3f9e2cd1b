import LinuxTutorial.Sync.LockSteps

set_option autoImplicit false

namespace FileLock

open RecordLock Transition

def Phase.holds : Phase → Bool
  | .critical | .unlocking => true
  | _ => false

-- The lock that the control state of a process promises, from the grant to the unlock.
def Pc.holding : Pc → Option (Nat × Mode)
  | .running role object phase => if phase.holds then some (object, role.mode) else none
  | _ => none

theorem holding_iff (pc : Pc) (object : Nat) (mode : Mode) :
    pc.holding = some (object, mode) ↔
      ∃ role phase, pc = .running role object phase ∧
        (phase = .critical ∨ phase = .unlocking) ∧ mode = role.mode := by
  cases pc with
  | running role held phase =>
    cases phase <;> simp [Pc.holding, Phase.holds, eq_comm]
  | _ => simp [Pc.holding]

theorem holding_setPc (state : State) (pid other : Nat) (pc : Pc) :
    ((state.setPc pid pc).pc other).holding =
      if other = pid then pc.holding else (state.pc other).holding := by
  rw [State.pc_setPc]
  split_ifs <;> rfl

def Matches (state : State) : Prop :=
  ∀ object pid mode, Entry.mk object pid mode ∈ state.locks ↔
    (state.pc pid).holding = some (object, mode)

theorem matches_frame {state next : State} (before : Matches state)
    (locks : next.locks = state.locks)
    (same : ∀ pid, (next.pc pid).holding = (state.pc pid).holding) : Matches next := by
  intro object pid mode
  rw [locks, same]
  exact before object pid mode

theorem matches_setPc {state : State} (pid : Nat) (pc : Pc) (before : Matches state)
    (idle : (state.pc pid).holding = pc.holding) : Matches (state.setPc pid pc) := by
  refine matches_frame before rfl fun other => ?_
  rw [holding_setPc]
  split_ifs with same
  · rw [same, idle]
  · rfl

theorem matches_acquire {state next : State} (pid object : Nat) (mode : Mode)
    (before : Matches state) (idle : (state.pc pid).holding = none)
    (locks : next.locks = ⟨object, pid, mode⟩ :: drop state.locks object pid)
    (holds : (next.pc pid).holding = some (object, mode))
    (others : ∀ other, other ≠ pid → next.pc other = state.pc other) : Matches next := by
  intro object' pid' mode'
  rw [locks, List.mem_cons, mem_drop, before object' pid' mode']
  by_cases same : pid' = pid
  · subst same
    rw [idle, holds]
    simp [eq_comm]
  · rw [others pid' same]
    simp [same]

theorem matches_release {state next : State} (pid object : Nat) (before : Matches state)
    (only : ∀ held mode, (state.pc pid).holding = some (held, mode) → held = object)
    (locks : next.locks = drop state.locks object pid)
    (released : (next.pc pid).holding = none)
    (others : ∀ other, other ≠ pid → next.pc other = state.pc other) : Matches next := by
  intro object' pid' mode'
  rw [locks, mem_drop, before object' pid' mode']
  by_cases same : pid' = pid
  · subst same
    rw [released]
    constructor
    · rintro ⟨held, keep⟩
      exact absurd ⟨only _ _ held, rfl⟩ keep
    · intro impossible
      cases impossible
  · rw [others pid' same]
    simp [same]

-- F_UNLCK does not fail.
def unlockSucceeds (state : State) : Label → Prop
  | .fcntl pid false => ∀ role object, state.pc pid ≠ .running role object .unlocking
  | _ => True

theorem moves_matches {state next : State} {label : Label} (before : Matches state)
    (allowed : unlockSucceeds state label) (move : Moves state label next) : Matches next := by
  have idle {pid : Nat} {pc : Pc} (at_ : state.pc pid = pc) : (state.pc pid).holding = pc.holding :=
    congrArg Pc.holding at_
  cases move with
  | started at_ =>
    refine matches_frame before rfl fun other => ?_
    rw [State.pc_setProcess]
    split_ifs with same
    · rw [same, idle at_]; rfl
    · rfl
  | signalled => exact matches_frame before rfl fun other => by rw [State.pc_handleSignal]
  | created at_ =>
    refine matches_frame before rfl fun other => ?_
    rw [holding_setPc]
    split_ifs with same
    · rw [same, idle at_]; rfl
    · rfl
  | @forked pid object child at_ free =>
    refine matches_frame before rfl fun other => ?_
    rw [State.pc_setProcess, State.pc_setPc]
    split_ifs with isChild isParent
    · rw [isChild, idle free]; rfl
    · rw [isParent, idle at_]; rfl
    · rfl
  | @locked pid object role locks at_ granted =>
    refine matches_acquire pid object role.mode before (idle at_)
      (grant_cases granted).2 ?_ ?_
    · exact (holding_setPc state pid pid _).trans (by simp [Pc.holding, Phase.holds])
    · intro other different
      exact (State.pc_setPc state pid other _).trans (if_neg different)
  | @unlocked pid object role at_ =>
    refine matches_release pid object before ?_ rfl ?_ ?_
    · intro held mode promised
      rw [idle at_] at promised
      simp [Pc.holding, Phase.holds] at promised
      exact promised.1.symm
    · exact (holding_setPc state pid pid _).trans (by simp [Pc.holding, Phase.holds])
    · intro other different
      exact (State.pc_setPc state pid other _).trans (if_neg different)
  | @closed pid object role at_ =>
    refine matches_release pid object before ?_ rfl ?_ ?_
    · intro held mode promised
      rw [idle at_] at promised
      cases promised
    · exact (holding_setPc state pid pid _).trans (by simp [Pc.holding])
    · intro other different
      exact (State.pc_setPc state pid other _).trans (if_neg different)
  | unlockFailed at_ => exact absurd at_ (allowed _ _)
  | unlinked at_ =>
    exact matches_frame (matches_setPc _ (.exited 0) before ((idle at_).trans rfl)) rfl
      fun _ => rfl
  | killed at_ | registered at_ | opened at_ | openFailed at_ | forkFailed at_ | left at_
  | entered at_ | lockFailed at_ | slept at_ | paused at_ =>
    exact matches_setPc _ _ before ((idle at_).trans rfl)

/-- Any number of processes at the head of process_write or process_read, on one object. -/
structure Workers (object : Nat) (state : State) : Prop where
  control : ∀ pid, state.pc pid = .absent ∨ ∃ role, state.pc pid = .running role object .top
  locks : state.locks = []

def workers (object : Nat) : Machine State Label := { machine with initial := Workers object }

theorem workers_matches {object : Nat} {state : State} (start : Workers object state) :
    Matches state := by
  intro object' pid mode
  rw [start.locks]
  rcases start.control pid with gone | ⟨role, at_⟩
  · simp [gone, Pc.holding]
  · simp [at_, Pc.holding, Phase.holds]

theorem preserves_matches {object : Nat} : (workers object).Preserves unlockSucceeds Matches :=
  fun _ _ _ before allowed move => moves_matches before allowed (step_moves move)

theorem lock_table_matches_control {object : Nat} {state : State}
    (reached : (workers object).ReachableBy unlockSucceeds state) (held pid : Nat) (mode : Mode) :
    Entry.mk held pid mode ∈ state.locks ↔
      ∃ role phase, state.pc pid = .running role held phase ∧
        (phase = .critical ∨ phase = .unlocking) ∧ mode = role.mode := by
  have invariant : Matches state := reached.holds (fun _ => workers_matches) preserves_matches
  exact (invariant held pid mode).trans (holding_iff _ _ _)

def twoWorkers : State :=
  { processes := fun pid =>
      { pc := if pid = 0 then .running .writer 0 .top
              else if pid = 1 then .running .reader 0 .top else .absent
        quit := false }
    name := some 0
    objects := 1
    locks := [] }

theorem twoWorkers_workers : Workers 0 twoWorkers where
  control pid := by
    by_cases writer : pid = 0
    · exact .inr ⟨.writer, by simp [State.pc, twoWorkers, writer]⟩
    · by_cases reader : pid = 1
      · exact .inr ⟨.reader, by simp [State.pc, twoWorkers, reader]⟩
      · exact .inl (by simp [State.pc, twoWorkers, writer, reader])
  locks := rfl

theorem lock_table_matches_control_writer :
    ∃ state, (workers 0).ReachableBy unlockSucceeds state ∧
      state.pc 0 = .running .writer 0 .critical ∧
        Entry.mk 0 0 .exclusive ∈ state.locks ∧ Entry.mk 0 1 .shared ∉ state.locks := by
  have reached : (workers 0).ReachableBy unlockSucceeds _ :=
    ⟨twoWorkers, [.test 0, .fcntl 0 true, .test 1], twoWorkers_workers,
      .cons trivial rfl (.cons trivial rfl (.cons trivial rfl (.nil _)))⟩
  refine ⟨_, reached, rfl, ?_, ?_⟩
  · rw [lock_table_matches_control reached]
    exact ⟨.writer, .critical, rfl, .inl rfl, rfl⟩
  · rw [lock_table_matches_control reached]
    rintro ⟨role, phase, here, inside, -⟩
    have waits : Pc.running .reader 0 .locking = .running role 0 phase := here
    cases waits
    rcases inside with inside | inside <;> cases inside

end FileLock
