import LinuxTutorial.Sync.LockProgress

set_option autoImplicit false

namespace FileLock

open RecordLock Transition

def Pc.remaining : Pc → Nat
  | .absent => 0
  | .registering => 6
  | .opening => 5
  | .forking _ => 4
  | .running _ _ .locking => 7
  | .running _ _ .critical => 6
  | .running _ _ .unlocking => 5
  | .running _ _ .pausing => 4
  | .running _ _ .top => 3
  | .running _ _ .closing => 2
  | .unlinking => 1
  | .exited _ => 0

structure Signalled (pid : Nat) (state : State) : Prop where
  quit : (state.processes pid).quit = true
  handles : state.pc pid ≠ .absent ∧ state.pc pid ≠ .registering

theorem signalled_leaves {state next : State} {pid : Nat} {pc : Pc}
    (signalled : Signalled pid state)
    (moved : next.processes pid = (state.setPc pid pc).processes pid)
    (present : pc ≠ .absent ∧ pc ≠ .registering) (lower : pc.remaining < (state.pc pid).remaining) :
    Signalled pid next ∧ (next.pc pid).remaining + 1 ≤ (state.pc pid).remaining := by
  have own : next.processes pid = { state.processes pid with pc := pc } := by
    rw [moved, processes_setPc, if_pos rfl]
  have control : next.pc pid = pc := congrArg Process.pc own
  rw [control]
  exact ⟨⟨by rw [own]; exact signalled.quit, control ▸ present⟩, lower⟩

theorem signalled_moves {state next : State} {label : Label} {pid : Nat}
    (signalled : Signalled pid state) (move : Moves state label next) :
    Signalled pid next ∧
      (next.pc pid).remaining + (if label.ownStep pid then 1 else 0) ≤
        (state.pc pid).remaining := by
  by_cases own : label.pid = pid
  · subst own
    -- each phase leads to one with less to do; the test finds the quit flag set
    have leaves (before pc : Pc) (at_ : state.pc label.pid = before)
        (moved : next.processes label.pid = (state.setPc label.pid pc).processes label.pid)
        (present : pc ≠ .absent ∧ pc ≠ .registering) (lower : pc.remaining < before.remaining) :
        Signalled label.pid next ∧
          (next.pc label.pid).remaining + 1 ≤ (state.pc label.pid).remaining :=
      signalled_leaves signalled moved present (at_ ▸ lower)
    cases move with
    | started at_ => exact absurd at_ signalled.handles.1
    | killed at_ | registered at_ => exact absurd at_ signalled.handles.2
    | entered at_ running => exact absurd (signalled.quit.symm.trans running) (by simp)
    | @signalled pid handles =>
      have pc : (state.handleSignal pid).pc pid = state.pc pid := State.pc_handleSignal ..
      refine ⟨⟨?_, pc ▸ handles⟩, ?_⟩
      · simp [State.handleSignal, State.setProcess, Label.pid]
      · simp [Label.ownStep, Label.pid, pc]
    | @forked pid object child at_ free =>
      have other : pid ≠ child := by
        rintro rfl
        rw [at_] at free
        cases free
      simp only [Label.ownStep, Label.pid, decide_true, if_true]
      exact leaves _ (.running .reader object .top) at_ (Function.update_of_ne other ..) (by simp)
        (by simp [Pc.remaining])
    | opened at_ | created at_ | openFailed at_ | forkFailed at_ | left at_ | locked at_
    | lockFailed at_ | slept at_ | unlocked at_ | unlockFailed at_ | paused at_ | closed at_
    | unlinked at_ =>
      simp only [Label.ownStep, Label.pid, decide_true, if_true]
      exact leaves _ _ at_ rfl (by simp) (by simp [Pc.remaining])
  · have same := moves_other move own signalled.handles.1
    have foreign : label.ownStep pid = false := by
      cases label <;> simp_all [Label.ownStep, Label.pid]
    have pc : next.pc pid = state.pc pid := congrArg Process.pc same
    refine ⟨⟨same ▸ signalled.quit, pc ▸ signalled.handles⟩, ?_⟩
    simp [foreign, pc]

def QuitHandled (state : State) : Prop :=
  ∀ pid, (state.processes pid).quit = true → Signalled pid state

theorem quitHandled_setPc {state next : State} {pid : Nat} {pc : Pc} (before : QuitHandled state)
    (moved : next.processes = (state.setPc pid pc).processes)
    (present : pc ≠ .absent ∧ pc ≠ .registering) : QuitHandled next := by
  intro other quit
  have after : next.processes other =
      if other = pid then { state.processes pid with pc := pc } else state.processes other := by
    rw [moved, processes_setPc]
  refine ⟨quit, ?_⟩
  rw [State.pc, after]
  rw [after] at quit
  split_ifs at quit ⊢ with same
  · exact present
  · exact (before other quit).handles

theorem preserves_quitHandled : machine.Preserves Machine.anyStep QuitHandled := by
  intro state label next before _ move
  cases step_moves move with
  | @started pid at_ =>
    intro other quit
    have different : other ≠ pid := by
      rintro rfl
      simp [State.setProcess] at quit
    have same : (state.setProcess pid { pc := .registering, quit := false }).processes other =
        state.processes other := Function.update_of_ne different ..
    exact ⟨quit, by rw [State.pc, same]; exact (before other (same ▸ quit)).handles⟩
  | @signalled pid handles =>
    intro other quit
    refine ⟨quit, ?_⟩
    rw [State.pc_handleSignal]
    by_cases same : other = pid
    · exact same ▸ handles
    · simp only [State.handleSignal, State.setProcess, Function.update_of_ne same] at quit
      exact (before other quit).handles
  | @forked pid object child at_ free =>
    have parent := @quitHandled_setPc state _ pid (.running .reader object .top) before rfl
      (by simp)
    intro other quit
    refine ⟨quit, ?_⟩
    rw [State.pc_setProcess]
    split_ifs with same
    · simp
    · simp only [State.setProcess, Function.update_of_ne same] at quit
      exact (parent other quit).handles
  | killed | registered | opened | created | openFailed | forkFailed | left | entered | locked
  | lockFailed | slept | unlocked | unlockFailed | paused | closed | unlinked =>
    exact quitHandled_setPc before rfl (by simp)

theorem reachable_signalled {state : State} (reached : machine.Reachable state) {pid : Nat}
    (quit : (state.processes pid).quit = true) : Signalled pid state := by
  have initially : QuitHandled initial := fun _ quit => by cases quit
  exact reached.holds (fun _ start => start ▸ initially) preserves_quitHandled pid quit

def Label.fails : Label → Bool
  | .shmOpen _ false | .fork _ none | .fcntl _ false => true
  | _ => false

theorem fails_call (pid : Nat) (phase : Phase) : (phase.call pid).fails = false := by
  cases phase <;> rfl

def Bounded (state : State) (bound : Nat) : Prop := ∀ pid, bound ≤ pid → state.pc pid = .absent

theorem moves_bounded {state next : State} {label : Label} (finite : ∃ bound, Bounded state bound)
    (move : Moves state label next) : ∃ bound, Bounded next bound := by
  obtain ⟨bound, bounded⟩ := finite
  have wider (other : Nat) : Bounded state (max bound (other + 1)) :=
    fun pid beyond => bounded pid (by omega)
  have moved (pid : Nat) (pc : Pc) (after : State) (same : after.pc = (state.setPc pid pc).pc) :
      ∃ bound, Bounded after bound := by
    refine ⟨max bound (pid + 1), fun other beyond => ?_⟩
    rw [same, State.pc_setPc, if_neg (by omega)]
    exact bounded other (by omega)
  cases move with
  | @started pid at_ =>
    refine ⟨max bound (pid + 1), fun other beyond => ?_⟩
    rw [State.pc_setProcess, if_neg (by omega)]
    exact bounded other (by omega)
  | @signalled pid handles =>
    exact ⟨bound, fun other beyond => (State.pc_handleSignal ..).trans (bounded other beyond)⟩
  | @forked pid object child at_ free =>
    refine ⟨max (max bound (pid + 1)) (child + 1), fun other beyond => ?_⟩
    rw [State.pc_setProcess, State.pc_setPc, if_neg (by omega), if_neg (by omega)]
    exact bounded other (by omega)
  | killed | registered | opened | created | openFailed | forkFailed | left | entered | locked
  | lockFailed | slept | unlocked | unlockFailed | paused | closed | unlinked =>
    exact moved _ _ _ rfl

theorem reachable_bounded {state : State} (reached : machine.Reachable state) :
    ∃ bound, Bounded state bound := by
  have initially : ∃ bound, Bounded initial bound := ⟨0, fun _ _ => rfl⟩
  exact reached.holds (fun _ start => start ▸ initially)
    fun _ _ _ finite _ move => moves_bounded finite (step_moves move)

theorem signalled_can_move {state : State} {pid : Nat} (signalled : Signalled pid state)
    (finite : ∃ bound, Bounded state bound) :
    (∃ status, state.pc pid = .exited status) ∨ Waiting state pid ∨
      ∃ label next, label.ownStep pid = true ∧ label.fails = false ∧
        machine.step state label = some next := by
  have own (label : Label) (mover : label.pid = pid) (other : ∀ pid, label ≠ .signal pid) :
      label.ownStep pid = true := by
    cases label <;> simp_all [Label.ownStep]
  cases at_ : state.pc pid with
  | absent => exact absurd at_ signalled.handles.1
  | registering => exact absurd at_ signalled.handles.2
  | opening =>
    right; right
    exact ⟨.shmOpen pid true, _, own _ rfl (by simp), rfl, by
      simp only [machine, step, Label.pid, at_]; rfl⟩
  | forking object =>
    right; right
    obtain ⟨bound, bounded⟩ := finite
    have free : state.pc bound = .absent := bounded bound (Nat.le_refl bound)
    exact ⟨.fork pid (some bound), _, own _ rfl (by simp), rfl, by
      simp only [machine, step, Label.pid, at_, free, if_true]; rfl⟩
  | running role object phase =>
    right
    by_cases waits : Waiting state pid
    · exact .inl waits
    · exact .inr ⟨_, _, ownStep_call pid phase, fails_call pid phase, advances at_ waits⟩
  | unlinking =>
    right; right
    exact ⟨.shmUnlink pid, _, own _ rfl (by simp), rfl, by
      simp only [machine, step, Label.pid, at_]; rfl⟩
  | exited status => exact .inl ⟨status, rfl⟩

theorem signalled_process_leaves {state last : State} {labels : List Label} {pid : Nat}
    (reached : machine.Reachable state) (signalled : (state.processes pid).quit = true)
    (path : machine.Path Machine.anyStep state labels last) :
    labels.countP (Label.ownStep pid) ≤ 7 ∧
      ((∃ status, last.pc pid = .exited status) ∨ Waiting last pid ∨
        ∃ label next, label.ownStep pid = true ∧ machine.step last label = some next) ∧
      ∀ status, last.pc pid = .exited status → ∀ entry ∈ last.locks, entry.owner ≠ pid := by
  have before := reachable_signalled reached signalled
  have preserved : machine.Preserves Machine.anyStep (Signalled pid) :=
    fun _ _ _ holds _ move => (signalled_moves holds (step_moves move)).1
  have spent := path.spends (fun _ label => if label.ownStep pid then 1 else 0)
    preserved (fun _ _ _ holds _ move => (signalled_moves holds (step_moves move)).2) before
  rw [path.total_count (Label.ownStep pid)] at spent
  have limit : (state.pc pid).remaining ≤ 7 := by
    unfold Pc.remaining
    split <;> omega
  have after : Signalled pid last := path.keeps preserved before
  have registered := reachable_registered (reached.later path)
  refine ⟨by omega, ?_, ?_⟩
  · rcases signalled_can_move after (reachable_bounded (reached.later path)) with
      left | waits | ⟨label, next, own, -, move⟩
    · exact .inl left
    · exact .inr (.inl waits)
    · exact .inr (.inr ⟨label, next, own, move⟩)
  · intro status left entry member own
    have held := registered.owners entry member
    rw [own, left] at held
    cases held

def bothSignalled : List Label := readerWaits ++ [.signal 1, .signal 0]

def writerLeaves : List Label :=
  [.slept 1, .fcntl 1 true, .slept 1, .test 1, .close 1, .shmUnlink 1]

theorem signalled_process_leaves_writer :
    ∃ state last, machine.run initial bothSignalled = some state ∧
      machine.run state writerLeaves = some last ∧ last.pc 1 = .exited 0 ∧
        ∀ entry ∈ last.locks, entry.owner ≠ 1 := by
  have completed : machine.run initial bothSignalled = some _ := rfl
  refine ⟨_, _, completed, rfl, rfl, ?_⟩
  have reached := Machine.reachable_of_run rfl completed
  exact (signalled_process_leaves reached rfl
    (Machine.path_of_run (show machine.run _ writerLeaves = some _ from rfl))).2.2 0 rfl

end FileLock
