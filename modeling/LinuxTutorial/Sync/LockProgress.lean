import LinuxTutorial.Shared.Progress
import LinuxTutorial.Shared.Totals
import LinuxTutorial.Sync.MutualExclusion

set_option autoImplicit false

namespace FileLock

open RecordLock Totals Transition

-- F_SETLKW does not return: another process has a lock that excludes the one asked for.
def Waiting (state : State) (pid : Nat) : Prop :=
  ∃ role object, state.pc pid = .running role object .locking ∧
    grant state.locks object pid role.mode = none

def Pc.lockable : Pc → Option (Nat × Mode)
  | .running role object _ => some (object, role.mode)
  | _ => none

/-- A failed unlock may leave a lock behind, but only with a process that is still in its loop. -/
structure Registered (state : State) : Prop where
  owners : ∀ entry ∈ state.locks,
    (state.pc entry.owner).lockable = some (entry.object, entry.mode)
  exclusive : Exclusive state.locks

theorem lockable_iff (pc : Pc) (object : Nat) (mode : Mode) :
    pc.lockable = some (object, mode) ↔
      ∃ role phase, pc = .running role object phase ∧ mode = role.mode := by
  cases pc <;> simp [Pc.lockable, eq_comm]

theorem owners_frame {state next : State}
    (before : ∀ entry ∈ state.locks,
      (state.pc entry.owner).lockable = some (entry.object, entry.mode))
    (locks : ∀ entry ∈ next.locks, entry ∈ state.locks)
    (kept : ∀ entry ∈ next.locks,
      (next.pc entry.owner).lockable = (state.pc entry.owner).lockable) :
    ∀ entry ∈ next.locks, (next.pc entry.owner).lockable = some (entry.object, entry.mode) := by
  intro entry member
  rw [kept entry member]
  exact before entry (locks entry member)

theorem owners_setPc {state : State} (pid : Nat) (pc : Pc)
    (before : ∀ entry ∈ state.locks,
      (state.pc entry.owner).lockable = some (entry.object, entry.mode))
    (kept : ∀ lock, (state.pc pid).lockable = some lock → pc.lockable = some lock) :
    ∀ entry ∈ state.locks,
      ((state.setPc pid pc).pc entry.owner).lockable = some (entry.object, entry.mode) := by
  intro entry member
  rw [State.pc_setPc]
  split_ifs with own
  · exact kept _ (own ▸ before entry member)
  · exact before entry member

theorem moves_owners {state next : State} {label : Label}
    (before : ∀ entry ∈ state.locks,
      (state.pc entry.owner).lockable = some (entry.object, entry.mode))
    (move : Moves state label next) :
    ∀ entry ∈ next.locks, (next.pc entry.owner).lockable = some (entry.object, entry.mode) := by
  -- a process that is not in its loop has no entry
  have outside {pid : Nat} {pc : Pc} (at_ : state.pc pid = pc) (idle : pc.lockable = none)
      {entry : Entry Nat Nat} (member : entry ∈ state.locks) : entry.owner ≠ pid := by
    intro own
    have held := before entry member
    rw [own, at_, idle] at held
    cases held
  cases move with
  | @started pid at_ =>
    refine owners_frame before (fun _ member => member) fun entry member => ?_
    rw [State.pc_setProcess, if_neg (outside at_ rfl member)]
  | signalled =>
    exact owners_frame before (fun _ member => member) fun entry _ => by
      rw [State.pc_handleSignal]
  | @forked pid object child at_ free =>
    refine owners_frame before (fun _ member => member) fun entry member => ?_
    rw [State.pc_setProcess, State.pc_setPc, if_neg (outside free rfl member),
      if_neg (outside at_ rfl member)]
  | @locked pid object role locks at_ granted =>
    obtain ⟨-, rfl⟩ := grant_cases granted
    intro entry member
    have moved := State.pc_setPc state pid entry.owner (.running role object .critical)
    rcases List.mem_cons.mp member with rfl | old
    · exact (congrArg Pc.lockable (moved.trans (if_pos rfl))).trans rfl
    · have kept := owners_setPc pid (.running role object .critical) before fun lock held => by
        rwa [at_] at held
      exact kept entry ((mem_drop ..).mp old).1
  | @unlocked pid object role at_ =>
    have kept := owners_setPc pid (.running role object .pausing) before fun lock held => by
      rwa [at_] at held
    intro entry member
    exact kept entry ((mem_drop ..).mp member).1
  | @closed pid object role at_ =>
    -- what is left in the table is not of this process
    refine owners_frame before (fun _ member => ((mem_drop ..).mp member).1) fun entry member => ?_
    obtain ⟨old, other⟩ := (mem_drop ..).mp member
    have different : entry.owner ≠ pid := by
      intro own
      have held := before entry old
      rw [own, at_] at held
      exact other ⟨(congrArg Prod.fst (Option.some.inj held)).symm, own⟩
    exact congrArg Pc.lockable ((State.pc_setPc ..).trans (if_neg different))
  | @created pid at_ unnamed =>
    exact owners_setPc pid (.forking state.objects) before fun lock held => by
      rw [at_] at held
      cases held
  | @unlinked pid at_ =>
    exact owners_setPc pid (.exited 0) before fun lock held => by
      rw [at_] at held
      cases held
  | @killed pid at_ | @registered pid at_ | @opened pid object at_ | @openFailed pid at_
  | @forkFailed pid object at_ | @left pid object role at_ | @entered pid object role at_
  | @lockFailed pid object role at_ | @slept pid object role at_
  | @unlockFailed pid object role at_ | @paused pid object role at_ =>
    exact owners_setPc _ _ before fun lock held => by
      rw [at_] at held
      cases held <;> rfl

theorem preserves_registered : machine.Preserves Machine.anyStep Registered :=
  fun _ _ _ before _ move =>
    ⟨moves_owners before.owners (step_moves move),
      moves_exclusive before.exclusive (step_moves move)⟩

theorem initial_registered : Registered initial where
  owners := by simp [initial]
  exclusive := exclusive_nil

theorem reachable_registered {state : State} (reached : machine.Reachable state) :
    Registered state :=
  reached.holds (fun _ start => start ▸ initial_registered) preserves_registered

theorem holder_not_waiting {state : State} (registered : Registered state) {entry : Entry Nat Nat}
    (member : entry ∈ state.locks) : ¬ Waiting state entry.owner := by
  rintro ⟨role, object, at_, refused⟩
  have held := registered.owners entry member
  rw [at_] at held
  obtain ⟨same, mode⟩ := Prod.mk.inj (Option.some.inj held)
  have free : grantable state.locks object entry.owner role.mode = true := by
    apply List.all_eq_true.mpr
    intro other present
    by_cases conflict : other.object = object ∧ other.owner ≠ entry.owner
    · have shared := registered.exclusive entry member other present
        (same.symm.trans conflict.1.symm) (Ne.symm conflict.2)
      have agree : compatible other.mode role.mode = true :=
        (compatible_iff _ _).mpr ⟨shared.2, mode.trans shared.1⟩
      simp [agree]
    · by_cases elsewhere : other.object = object
      · have own : other.owner = entry.owner := by
          by_contra different
          exact conflict ⟨elsewhere, different⟩
        simp [own]
      · simp [elsewhere]
  rw [grant, if_pos free] at refused
  cases refused

theorem moves_other {state next : State} {label : Label} {pid : Nat}
    (move : Moves state label next) (other : label.pid ≠ pid) (present : state.pc pid ≠ .absent) :
    next.processes pid = state.processes pid := by
  have elsewhere (pc : Pc) : (state.setPc label.pid pc).processes pid = state.processes pid :=
    (processes_setPc ..).trans (if_neg (Ne.symm other))
  cases move with
  | started | signalled =>
    simp only [State.handleSignal, State.setProcess, Function.update_apply]
    exact if_neg (Ne.symm other)
  | @forked parent object child at_ free =>
    have notChild : pid ≠ child := fun same => present (same ▸ free)
    exact (Function.update_of_ne notChild ..).trans (elsewhere _)
  | killed | registered | opened | created | openFailed | forkFailed | left | entered | locked
  | lockFailed | slept | unlocked | unlockFailed | paused | closed | unlinked => exact elsewhere _

def Label.ownStep (pid : Nat) : Label → Bool
  | .signal _ => false
  | label => label.pid = pid

section Advance

variable (role : Role) (object : Nat)

def Phase.onward (quit : Bool) : Phase → Pc
  | .top => .running role object (if quit then .closing else .locking)
  | .locking => .running role object .critical
  | .critical => .running role object .unlocking
  | .unlocking => .running role object .pausing
  | .pausing => .running role object .top
  | .closing => .unlinking

def Phase.relocks (locks : Locks) (pid : Nat) : Phase → Locks
  | .locking => ⟨object, pid, role.mode⟩ :: drop locks object pid
  | .unlocking | .closing => drop locks object pid
  | .top | .critical | .pausing => locks

def State.advance (state : State) (pid : Nat) (phase : Phase) : State :=
  { state.setPc pid (phase.onward role object (state.processes pid).quit) with
    locks := phase.relocks role object state.locks pid }

end Advance

def Phase.call (pid : Nat) : Phase → Label
  | .top => .test pid
  | .locking | .unlocking => .fcntl pid true
  | .critical | .pausing => .slept pid
  | .closing => .close pid

theorem ownStep_call (pid : Nat) (phase : Phase) : (phase.call pid).ownStep pid = true := by
  cases phase <;> simp [Phase.call, Label.ownStep, Label.pid]

-- Of the calls in the loop only F_SETLKW can be made to wait.
theorem advances {state : State} {pid object : Nat} {role : Role} {phase : Phase}
    (at_ : state.pc pid = .running role object phase) (free : ¬ Waiting state pid) :
    machine.step state (phase.call pid) = some (state.advance role object pid phase) := by
  cases phase with
  | locking =>
    cases granted : grant state.locks object pid role.mode with
    | none => exact absurd ⟨role, object, at_, granted⟩ free
    | some locks =>
      obtain ⟨-, rfl⟩ := grant_cases granted
      have called : role.lock state.locks object pid true =
          some (0, ⟨object, pid, role.mode⟩ :: drop state.locks object pid) := by
        cases role with
        | writer => exact (fileRequest_succeeded .wrlck).trans (congrArg (Option.map _) granted)
        | reader => exact (fileRequest_succeeded .rdlck).trans (congrArg (Option.map _) granted)
      simp only [machine, step, Phase.call, Label.pid, at_, processStep, called]
      rfl
  | top | critical | unlocking | pausing | closing =>
    simp only [machine, step, Phase.call, Label.pid, at_]
    rfl

def Phase.distance : Phase → Nat
  | .unlocking | .closing => 1
  | .critical => 2
  | .locking => 3
  | .top => 4
  | .pausing => 5

def Pc.distance : Pc → Nat
  | .running _ _ phase => phase.distance
  | _ => 0

def owed (state : State) : Nat :=
  (state.locks.map fun entry => (state.pc entry.owner).distance).sum

theorem drop_foreign {state : State} {pid object : Nat} {role : Role} {phase : Phase}
    (registered : Registered state) (at_ : state.pc pid = .running role object phase)
    {entry : Entry Nat Nat} (member : entry ∈ drop state.locks object pid) : entry.owner ≠ pid := by
  obtain ⟨present, other⟩ := (mem_drop ..).mp member
  intro own
  have held := registered.owners entry present
  rw [own, at_] at held
  exact other ⟨(congrArg Prod.fst (Option.some.inj held)).symm, own⟩

theorem advance_owed {state : State} {pid object : Nat} {role : Role} {phase : Phase} {mode : Mode}
    (registered : Registered state) (at_ : state.pc pid = .running role object phase)
    (holds : Entry.mk object pid mode ∈ state.locks) :
    owed (state.advance role object pid phase) < owed state := by
  have after (other : Nat) : (state.advance role object pid phase).pc other =
      if other = pid then phase.onward role object (state.processes pid).quit else state.pc other :=
    State.pc_setPc ..
  have own : (state.pc pid).distance = phase.distance := by rw [at_, Pc.distance]
  -- the locks of the others count as before, in the table that is left without this process
  have left : ((drop state.locks object pid).map fun entry =>
        ((state.advance role object pid phase).pc entry.owner).distance).sum + phase.distance ≤
      owed state := by
    have same : (drop state.locks object pid).map (fun entry =>
          ((state.advance role object pid phase).pc entry.owner).distance) =
        (drop state.locks object pid).map fun entry => (state.pc entry.owner).distance := by
      apply List.map_congr_left
      intro entry member
      rw [after, if_neg (drop_foreign registered at_ member)]
    rw [same, ← own]
    have dropped : (!(decide (object = object) && decide (pid = pid))) = false := by simp
    exact sum_filter_le (fun entry => (state.pc entry.owner).distance)
      (fun entry => !(decide (entry.object = object) && decide (entry.owner = pid))) holds dropped
  -- a table that stays counts the entry of this process for less
  have nearer (lower : (phase.onward role object (state.processes pid).quit).distance <
        phase.distance) :
      (state.locks.map fun entry =>
        ((state.advance role object pid phase).pc entry.owner).distance).sum < owed state := by
    apply List.sum_lt_sum
    · intro entry _
      rw [after]
      split_ifs with same
      · rw [same, own]
        omega
      · exact Nat.le_refl _
    · refine ⟨_, holds, ?_⟩
      rw [after, if_pos rfl, own]
      exact lower
  cases phase with
  | top =>
    apply nearer
    cases (state.processes pid).quit <;> simp [Phase.onward, Pc.distance, Phase.distance]
  | critical | pausing =>
    apply nearer
    simp [Phase.onward, Pc.distance, Phase.distance]
  | locking =>
    have new : ((state.advance role object pid .locking).pc pid).distance = 2 := by
      rw [after, if_pos rfl]
      rfl
    simp only [Phase.distance] at left
    show (List.map _ (⟨object, pid, role.mode⟩ :: drop state.locks object pid)).sum < owed state
    rw [List.map_cons, List.sum_cons, new]
    omega
  | unlocking | closing =>
    simp only [Phase.distance] at left
    exact left

-- A step of a process that has a lock on the object, no signal, and not of the one that waits.
def HolderStep (object waiter : Nat) (state : State) (label : Label) : Prop :=
  label.ownStep label.pid = true ∧ label.pid ≠ waiter ∧
    ∃ mode, Entry.mk object label.pid mode ∈ state.locks

theorem refused_by {state : State} {pid object : Nat} {mode : Mode}
    (refused : grant state.locks object pid mode = none) :
    ∃ entry ∈ state.locks, entry.object = object ∧ entry.owner ≠ pid := by
  have excluded : grantable state.locks object pid mode = false := by
    by_contra free
    rw [grant, if_pos (by simpa using free)] at refused
    cases refused
  obtain ⟨entry, member, conflict⟩ := List.all_eq_false.mp excluded
  simp only [Bool.or_eq_true, decide_eq_true_eq, not_or, not_not] at conflict
  exact ⟨entry, member, conflict.1.1, conflict.1.2⟩

theorem holderStep_of_own {state : State} {object waiter holder : Nat} {mode : Mode} {label : Label}
    (own : label.ownStep holder = true) (member : Entry.mk object holder mode ∈ state.locks)
    (other : holder ≠ waiter) : HolderStep object waiter state label := by
  have mover : label.pid = holder := by
    cases label <;> simp [Label.ownStep] at own <;> exact own
  exact ⟨mover.symm ▸ own, mover.symm ▸ other, mode, mover.symm ▸ member⟩

theorem waiting_process_served {state : State} (reached : machine.Reachable state)
    {pid object : Nat} {role : Role} (asking : state.pc pid = .running role object .locking) :
    ∃ labels last, machine.Path (HolderStep object pid) state labels last ∧
      last.pc pid = .running role object .locking ∧
        ∃ locks, grant last.locks object pid role.mode = some locks := by
  let asks (state : State) : Prop := state.pc pid = .running role object .locking
  let served (state : State) : Prop :=
    asks state ∧ ∃ locks, grant state.locks object pid role.mode = some locks
  have preserved : machine.Preserves (HolderStep object pid)
      fun state => Registered state ∧ asks state := by
    rintro state label next ⟨registered, asking⟩ allowed move
    refine ⟨preserves_registered _ _ _ registered trivial move, ?_⟩
    have present : state.pc pid ≠ .absent := by rw [asking]; simp
    have same := moves_other (step_moves move) allowed.2.1 present
    exact (congrArg Process.pc same).trans asking
  have helped (state : State) (holds : Registered state ∧ asks state) (unserved : ¬ served state) :
      ∃ label next, HolderStep object pid state label ∧ machine.step state label = some next ∧
        owed next < owed state := by
    obtain ⟨registered, asking⟩ := holds
    have refused : grant state.locks object pid role.mode = none := by
      cases granted : grant state.locks object pid role.mode with
      | none => rfl
      | some locks => exact absurd ⟨asking, locks, granted⟩ unserved
    obtain ⟨⟨_, holder, mode⟩, member, rfl, other⟩ := refused_by refused
    obtain ⟨holderRole, phase, at_, -⟩ := (lockable_iff ..).mp (registered.owners _ member)
    have move := advances at_ (holder_not_waiting registered member)
    exact ⟨_, _, holderStep_of_own (ownStep_call _ _) member other, move,
      advance_owed registered at_ member⟩
  obtain ⟨labels, last, path, asking, granted⟩ := Machine.leads_to owed served preserved helped
    state ⟨reachable_registered reached, asking⟩
  exact ⟨labels, last, path, asking, granted⟩

def readerWaits : List Label :=
  [.start 0, .register 0, .shmOpen 0 true, .fork 0 (some 1), .test 1, .fcntl 1 true, .test 0]

theorem waiting_process_served_reader :
    ∃ state, machine.run initial readerWaits = some state ∧ Waiting state 0 ∧
      ∃ labels last, machine.Path (HolderStep 0 0) state labels last ∧
        last.pc 0 = .running .reader 0 .locking ∧
          ∃ locks, grant last.locks 0 0 .shared = some locks := by
  have completed : machine.run initial readerWaits = some _ := rfl
  have reached := Machine.reachable_of_run rfl completed
  exact ⟨_, completed, ⟨.reader, 0, rfl, rfl⟩, waiting_process_served reached rfl⟩

end FileLock
