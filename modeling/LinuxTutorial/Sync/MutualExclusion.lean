import LinuxTutorial.Sync.LockState

set_option autoImplicit false

namespace FileLock

open RecordLock Transition

def MutualExclusion (state : State) : Prop :=
  ∀ pid other, pid ≠ other → ∀ object, (state.pc pid).holding = some (object, .exclusive) →
    (state.pc other).holding = none

-- The object a process holds a lock on or can still take one on before it leaves its loop.
def Process.mayLock (process : Process) : Option Nat :=
  match process.pc with
  | .forking object | .running _ object .top | .running _ object .pausing =>
    if process.quit then none else some object
  | .running _ object .locking | .running _ object .critical | .running _ object .unlocking =>
    some object
  | _ => none

-- shm_open makes a fresh object only when no process can still lock an older one.
def freshWhenIdle (state : State) : Label → Prop
  | .shmOpen _ true => state.name = none → ∀ pid, (state.processes pid).mayLock = none
  | _ => True

-- Every promised lock is in the table. A failed unlock may leave more in it than is promised.
def Backed (state : State) : Prop :=
  ∀ object pid mode, (state.pc pid).holding = some (object, mode) →
    Entry.mk object pid mode ∈ state.locks

structure Agreement (state : State) : Prop where
  pairwise : ∀ pid other object object', (state.processes pid).mayLock = some object →
    (state.processes other).mayLock = some object' → object = object'
  named : ∀ pid object object', (state.processes pid).mayLock = some object →
    state.name = some object' → object = object'

structure Safe (state : State) : Prop where
  backed : Backed state
  exclusive : Exclusive state.locks
  agreement : Agreement state

theorem mayLock_of_holding {process : Process} {object : Nat} {mode : Mode}
    (holds : process.pc.holding = some (object, mode)) : process.mayLock = some object := by
  obtain ⟨role, phase, control, region, -⟩ := (holding_iff _ _ _).mp holds
  rcases region with rfl | rfl <;> simp [Process.mayLock, control]

theorem safe_mutualExclusion {state : State} (safe : Safe state) : MutualExclusion state := by
  intro pid other different object writing
  cases holds : (state.pc other).holding with
  | none => rfl
  | some lock =>
    obtain ⟨object', mode⟩ := lock
    have same : object = object' := safe.agreement.pairwise pid other object object'
      (mayLock_of_holding writing) (mayLock_of_holding holds)
    have conflict := safe.exclusive _ (safe.backed _ _ _ writing) _ (safe.backed _ _ _ holds)
      same different
    exact absurd conflict.1 (by simp)

theorem processes_setPc (state : State) (pid other : Nat) (pc : Pc) :
    (state.setPc pid pc).processes other =
      if other = pid then { state.processes pid with pc := pc } else state.processes other := by
  by_cases same : other = pid <;>
    simp [State.setPc, State.setProcess, Function.update, same]

theorem agreement_shrinks {state next : State} (before : Agreement state)
    (inherited : ∀ pid object, (next.processes pid).mayLock = some object →
      ∃ source, (state.processes source).mayLock = some object)
    (name : next.name = state.name ∨ next.name = none) : Agreement next where
  pairwise pid other object object' first second := by
    obtain ⟨source, had⟩ := inherited pid object first
    obtain ⟨source', had'⟩ := inherited other object' second
    exact before.pairwise source source' object object' had had'
  named pid object object' may named := by
    obtain ⟨source, had⟩ := inherited pid object may
    rcases name with kept | gone
    · exact before.named source object object' had (kept ▸ named)
    · rw [gone] at named
      cases named

theorem agreement_setPc {state : State} (pid : Nat) (pc : Pc) (before : Agreement state)
    (kept : ∀ object, ({ state.processes pid with pc := pc } : Process).mayLock = some object →
      (state.processes pid).mayLock = some object) : Agreement (state.setPc pid pc) := by
  refine agreement_shrinks before (fun other object may => ?_) (.inl rfl)
  rw [processes_setPc] at may
  split_ifs at may with same
  · exact ⟨pid, kept object may⟩
  · exact ⟨other, may⟩

theorem agreement_joins {state next : State} (pid object : Nat) (before : Agreement state)
    (named : state.name = some object) (name : next.name = state.name)
    (joined : ∀ held, (next.processes pid).mayLock = some held → held = object)
    (others : ∀ other, other ≠ pid → next.processes other = state.processes other) :
    Agreement next := by
  -- a process that may lock after the step agrees with the name, the new one included
  have agrees (other held : Nat) (may : (next.processes other).mayLock = some held) :
      held = object := by
    by_cases same : other = pid
    · exact joined held (same ▸ may)
    · exact before.named other held object (others other same ▸ may) named
  constructor
  · intro first second held held' may may'
    exact (agrees first held may).trans (agrees second held' may').symm
  · intro first held held' may current
    rw [name, named] at current
    exact (agrees first held may).trans (Option.some.inj current)

theorem agreement_creates {state next : State} (pid object : Nat)
    (idle : ∀ other, (state.processes other).mayLock = none) (name : next.name = some object)
    (joined : ∀ held, (next.processes pid).mayLock = some held → held = object)
    (others : ∀ other, other ≠ pid → next.processes other = state.processes other) :
    Agreement next := by
  have agrees (other held : Nat) (may : (next.processes other).mayLock = some held) :
      held = object := by
    by_cases same : other = pid
    · exact joined held (same ▸ may)
    · rw [others other same, idle other] at may
      cases may
  constructor
  · intro first second held held' may may'
    exact (agrees first held may).trans (agrees second held' may').symm
  · intro first held held' may current
    rw [name] at current
    exact (agrees first held may).trans (Option.some.inj current)

theorem moves_agreement {state next : State} {label : Label} (before : Agreement state)
    (allowed : freshWhenIdle state label) (move : Moves state label next) : Agreement next := by
  cases move with
  | @started pid at_ =>
    refine agreement_shrinks before (fun other object may => ?_) (.inl rfl)
    by_cases same : other = pid
    · simp [State.setProcess, Function.update, same, Process.mayLock] at may
    · exact ⟨other, by simpa [State.setProcess, Function.update, same] using may⟩
  | @signalled pid at_ =>
    refine agreement_shrinks before (fun other object may => ?_) (.inl rfl)
    by_cases same : other = pid
    · refine ⟨pid, ?_⟩
      simp only [State.handleSignal, State.setProcess, same, Function.update_self,
        Process.mayLock] at may
      simp only [Process.mayLock]
      split at may <;> simp_all
    · exact ⟨other, by simpa [State.handleSignal, State.setProcess, Function.update, same] using may⟩
  | @opened pid object at_ named =>
    refine agreement_joins pid object before named rfl (fun held may => ?_) fun other same => ?_
    · rw [processes_setPc, if_pos rfl] at may
      simp [Process.mayLock] at may
      exact may.2.symm
    · rw [processes_setPc, if_neg same]
  | @created pid at_ unnamed =>
    refine agreement_creates pid state.objects (allowed unnamed) rfl
      (fun held may => ?_) fun other same => ?_
    · rw [processes_setPc, if_pos rfl] at may
      simp [Process.mayLock] at may
      exact may.2.symm
    · rw [processes_setPc, if_neg same]
  | @forked pid object child at_ free =>
    -- parent and child inherit the object and the quit flag of the forking process
    have source (held : Nat) (live : (state.processes pid).quit = false) (eq : object = held) :
        (state.processes pid).mayLock = some held := by
      have control : (state.processes pid).pc = .forking object := at_
      simp [Process.mayLock, control, live, eq]
    refine agreement_shrinks before (fun other held may => ?_) (.inl rfl)
    by_cases isChild : other = child
    · simp [State.setProcess, Function.update, isChild, Process.mayLock] at may
      exact ⟨pid, source held may.1 may.2⟩
    · by_cases isParent : other = pid
      · have distinct : pid ≠ child := isParent ▸ isChild
        simp [State.setPc, State.setProcess, Function.update, isParent, distinct, Process.mayLock]
          at may
        exact ⟨pid, source held may.1 may.2⟩
      · exact ⟨other, by
          simpa [State.setPc, State.setProcess, Function.update, isChild, isParent] using may⟩
  | @unlinked pid at_ =>
    refine agreement_shrinks before (fun other object may => ?_) (.inr rfl)
    rw [processes_setPc] at may
    split_ifs at may with same
    · simp [Process.mayLock] at may
    · exact ⟨other, may⟩
  | @locked pid object role locks at_ granted =>
    have kept := agreement_setPc pid (.running role object .critical) before
      (fun held may => by
        have control : (state.processes pid).pc = .running role object .locking := at_
        simpa [Process.mayLock, control] using may)
    exact ⟨kept.pairwise, kept.named⟩
  | @unlocked pid object role at_ =>
    have kept := agreement_setPc pid (.running role object .pausing) before
      (fun held may => by
        have control : (state.processes pid).pc = .running role object .unlocking := at_
        simp [Process.mayLock] at may
        simp [Process.mayLock, control, may.2])
    exact ⟨kept.pairwise, kept.named⟩
  | @closed pid object role at_ =>
    have kept := agreement_setPc pid (.unlinking) before
      (fun held may => by simp [Process.mayLock] at may)
    exact ⟨kept.pairwise, kept.named⟩
  | @killed pid at_ | @registered pid at_ | @openFailed pid at_ | @forkFailed pid object at_
  | @left pid object role at_ quitting =>
    exact agreement_setPc _ _ before fun held may => by simp [Process.mayLock] at may
  | @entered pid object role at_ running =>
    refine agreement_setPc _ _ before fun held may => ?_
    have control : (state.processes pid).pc = .running role object .top := at_
    simpa [Process.mayLock, control, running] using may
  | @lockFailed pid object role at_ | @unlockFailed pid object role at_ =>
    refine agreement_setPc _ _ before fun held may => ?_
    have control := show (state.processes pid).pc = _ from at_
    simp [Process.mayLock] at may
    simp [Process.mayLock, control, may.2]
  | @slept pid object role at_ | @paused pid object role at_ =>
    refine agreement_setPc _ _ before fun held may => ?_
    have control := show (state.processes pid).pc = _ from at_
    simpa [Process.mayLock, control] using may

theorem backed_frame {state next : State} (before : Backed state)
    (locks : next.locks = state.locks)
    (inherited : ∀ pid lock, (next.pc pid).holding = some lock →
      (state.pc pid).holding = some lock) : Backed next := by
  intro object pid mode promised
  rw [locks]
  exact before object pid mode (inherited pid _ promised)

theorem backed_setPc {state : State} (pid : Nat) (pc : Pc) (before : Backed state)
    (kept : ∀ lock, pc.holding = some lock → (state.pc pid).holding = some lock) :
    Backed (state.setPc pid pc) := by
  refine backed_frame before rfl fun other lock promised => ?_
  rw [holding_setPc] at promised
  split_ifs at promised with same
  · exact same ▸ kept lock promised
  · exact promised

theorem backed_drop {state next : State} (pid object : Nat) (before : Backed state)
    (locks : next.locks = drop state.locks object pid)
    (released : (next.pc pid).holding = none)
    (others : ∀ other, other ≠ pid → next.pc other = state.pc other) : Backed next := by
  intro held other mode promised
  have different : other ≠ pid := by
    rintro rfl
    rw [released] at promised
    cases promised
  rw [locks, mem_drop]
  exact ⟨before held other mode (others other different ▸ promised), fun same => different same.2⟩

theorem backed_grant {state next : State} (pid object : Nat) (mode : Mode) (before : Backed state)
    (locks : next.locks = ⟨object, pid, mode⟩ :: drop state.locks object pid)
    (holds : (next.pc pid).holding = some (object, mode))
    (others : ∀ other, other ≠ pid → next.pc other = state.pc other) : Backed next := by
  intro held other wanted promised
  rw [locks, List.mem_cons, mem_drop]
  by_cases same : other = pid
  · subst same
    rw [holds] at promised
    cases promised
    exact .inl rfl
  · exact .inr ⟨before held other wanted (others other same ▸ promised), fun eq => same eq.2⟩

theorem moves_backed {state next : State} {label : Label} (before : Backed state)
    (move : Moves state label next) : Backed next := by
  have others (pid : Nat) (pc : Pc) (other : Nat) (different : other ≠ pid) :
      (state.setPc pid pc).pc other = state.pc other :=
    (State.pc_setPc state pid other pc).trans (if_neg different)
  have own (pid : Nat) (pc : Pc) : ((state.setPc pid pc).pc pid).holding = pc.holding :=
    (holding_setPc state pid pid pc).trans (if_pos rfl)
  cases move with
  | @started pid at_ =>
    refine backed_frame before rfl fun other lock promised => ?_
    rw [State.pc_setProcess] at promised
    split_ifs at promised
    · cases promised
    · exact promised
  | signalled =>
    exact backed_frame before rfl fun other lock promised => State.pc_handleSignal state _ other ▸ promised
  | @forked pid object child at_ free =>
    refine backed_frame before rfl fun other lock promised => ?_
    rw [State.pc_setProcess, State.pc_setPc] at promised
    split_ifs at promised
    · cases promised
    · cases promised
    · exact promised
  | @created pid at_ =>
    refine backed_frame (backed_setPc pid (.forking state.objects) before ?_) rfl
      fun other lock promised => promised
    intro lock promised
    cases promised
  | @unlinked pid at_ =>
    refine backed_frame (backed_setPc pid (.exited 0) before ?_) rfl
      fun other lock promised => promised
    intro lock promised
    cases promised
  | @locked pid object role locks at_ granted =>
    exact backed_grant pid object role.mode before (grant_cases granted).2
      (own pid (.running role object .critical)) (others pid _)
  | @unlocked pid object role at_ =>
    exact backed_drop pid object before rfl (own pid (.running role object .pausing)) (others pid _)
  | @closed pid object role at_ =>
    exact backed_drop pid object before rfl (own pid .unlinking) (others pid _)
  | @slept pid object role at_ =>
    refine backed_setPc _ _ before fun lock promised => ?_
    rw [at_]
    exact promised
  | @killed pid at_ | @registered pid at_ | @opened pid object at_ | @openFailed pid at_
  | @forkFailed pid object at_ | @left pid object role at_ quitting
  | @entered pid object role at_ running | @lockFailed pid object role at_
  | @unlockFailed pid object role at_ | @paused pid object role at_ =>
    refine backed_setPc _ _ before fun lock promised => ?_
    cases promised

theorem moves_exclusive {state next : State} {label : Label} (before : Exclusive state.locks)
    (move : Moves state label next) : Exclusive next.locks := by
  cases move with
  | locked at_ granted => exact exclusive_grant before granted
  | unlocked | closed => exact exclusive_drop before _ _
  | _ => exact before

theorem preserves_safe : machine.Preserves freshWhenIdle Safe := by
  intro state label next safe allowed move
  have moved := step_moves move
  exact ⟨moves_backed safe.backed moved, moves_exclusive safe.exclusive moved,
    moves_agreement safe.agreement allowed moved⟩

theorem initial_safe : Safe initial where
  backed object pid mode promised := by cases promised
  exclusive := exclusive_nil
  agreement :=
    { pairwise := fun _ _ _ _ may => by cases may
      named := fun _ _ _ may => by cases may }

theorem mutual_exclusion_while_name_kept {state : State}
    (reached : machine.ReachableBy freshWhenIdle state) : MutualExclusion state :=
  safe_mutualExclusion (reached.holds (fun _ start => start ▸ initial_safe) preserves_safe)

theorem mutual_exclusion_while_name_kept_writer :
    ∃ state, machine.ReachableBy freshWhenIdle state ∧
      (state.pc 1).holding = some (0, .exclusive) ∧ MutualExclusion state := by
  have reached : machine.ReachableBy freshWhenIdle _ :=
    ⟨initial, [.start 0, .register 0, .shmOpen 0 true, .fork 0 (some 1), .test 1, .fcntl 1 true],
      rfl, .cons trivial rfl (.cons trivial rfl (.cons (fun _ pid => by
        cases pid <;> rfl) rfl (.cons trivial rfl (.cons trivial rfl (.cons trivial rfl (.nil _))))))⟩
  exact ⟨_, reached, rfl, mutual_exclusion_while_name_kept reached⟩

-- The reader of the first instance quits and unlinks the name while its writer has the lock;
-- the second instance creates a fresh object and its writer is granted the lock on that.
def unlinkRun : List Label :=
  [.start 0, .register 0, .shmOpen 0 true, .fork 0 (some 1), .test 1, .fcntl 1 true,
   .signal 0, .test 0, .close 0, .shmUnlink 0,
   .start 2, .register 2, .shmOpen 2 true, .fork 2 (some 3), .test 3, .fcntl 3 true]

theorem unlink_breaks_exclusion :
    ∃ state, machine.run initial unlinkRun = some state ∧ ¬MutualExclusion state := by
  refine ⟨_, rfl, fun exclusive => ?_⟩
  have idle := exclusive 1 3 (by decide) 0 rfl
  exact absurd idle (by decide)

end FileLock
