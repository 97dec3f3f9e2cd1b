import LinuxTutorial.Sync.FileLock
import Mathlib.Tactic.SplitIfs
import Mathlib.Tactic.Cases

set_option autoImplicit false

namespace FileLock

open RecordLock Transition

namespace State

variable (state : State) (pid other : Nat)

theorem pc_setProcess (process : Process) :
    (state.setProcess pid process).pc other = if other = pid then process.pc else state.pc other := by
  by_cases same : other = pid <;> simp [setProcess, State.pc, Function.update, same]

theorem pc_setPc (pc : Pc) :
    (state.setPc pid pc).pc other = if other = pid then pc else state.pc other := by
  simp [setPc, pc_setProcess]

theorem pc_handleSignal : (state.handleSignal pid).pc other = state.pc other := by
  rw [handleSignal, pc_setProcess]
  split_ifs with same
  · rw [same]; rfl
  · rfl

end State

theorem fileRequest_succeeded (lType : LockType) {locks : Locks} {object pid : Nat} :
    fileRequest lType locks object pid true =
      (setlkw locks object pid (wholeFile lType pid)).map fun next => (0, next) := by
  simp only [fileRequest, fcntl]
  cases setlkw locks object pid (wholeFile lType pid) <;> rfl

theorem lock_cases {role : Role} {locks next : Locks} {object pid : Nat} {succeeds : Bool} {ret : Int}
    (called : role.lock locks object pid succeeds = some (ret, next)) :
    (succeeds = true ∧ ret = 0 ∧ grant locks object pid role.mode = some next) ∨
      (succeeds = false ∧ ret = -1 ∧ next = locks) := by
  cases succeeds with
  | false =>
    have failed : some ((-1 : Int), locks) = some (ret, next) := by cases role <;> exact called
    cases failed
    exact .inr ⟨rfl, rfl, rfl⟩
  | true =>
    left
    have granted : (grant locks object pid role.mode).map (fun next => ((0 : Int), next)) =
        some (ret, next) := by
      cases role with
      | writer => exact (fileRequest_succeeded .wrlck).symm.trans called
      | reader => exact (fileRequest_succeeded .rdlck).symm.trans called
    obtain ⟨table, held, result⟩ := Option.map_eq_some_iff.mp granted
    cases result
    exact ⟨rfl, rfl, held⟩

inductive Moves (state : State) : Label → State → Prop
  | started {pid : Nat} (before : state.pc pid = .absent) :
      Moves state (.start pid) (state.setProcess pid { pc := .registering, quit := false })
  | killed {pid : Nat} (before : state.pc pid = .registering) :
      Moves state (.signal pid) (state.setPc pid (.exited 1))
  | signalled {pid : Nat} (before : state.pc pid ≠ .absent ∧ state.pc pid ≠ .registering) :
      Moves state (.signal pid) (state.handleSignal pid)
  | registered {pid : Nat} (before : state.pc pid = .registering) :
      Moves state (.register pid) (state.setPc pid .opening)
  | opened {pid object : Nat} (before : state.pc pid = .opening) (named : state.name = some object) :
      Moves state (.shmOpen pid true) (state.setPc pid (.forking object))
  | created {pid : Nat} (before : state.pc pid = .opening) (unnamed : state.name = none) :
      Moves state (.shmOpen pid true)
        ({ state with name := some state.objects, objects := state.objects + 1 }.setPc pid
          (.forking state.objects))
  | openFailed {pid : Nat} (before : state.pc pid = .opening) :
      Moves state (.shmOpen pid false) (state.setPc pid (.exited (-1)))
  | forkFailed {pid object : Nat} (before : state.pc pid = .forking object) :
      Moves state (.fork pid none) (state.setPc pid (.exited (-1)))
  | forked {pid object child : Nat} (before : state.pc pid = .forking object)
      (free : state.pc child = .absent) :
      Moves state (.fork pid (some child))
        ((state.setPc pid (.running .reader object .top)).setProcess child
          { pc := .running .writer object .top, quit := (state.processes pid).quit })
  | left {pid object : Nat} {role : Role} (before : state.pc pid = .running role object .top)
      (quitting : (state.processes pid).quit = true) :
      Moves state (.test pid) (state.setPc pid (.running role object .closing))
  | entered {pid object : Nat} {role : Role} (before : state.pc pid = .running role object .top)
      (running : (state.processes pid).quit = false) :
      Moves state (.test pid) (state.setPc pid (.running role object .locking))
  | locked {pid object : Nat} {role : Role} {next : Locks}
      (before : state.pc pid = .running role object .locking)
      (granted : grant state.locks object pid role.mode = some next) :
      Moves state (.fcntl pid true)
        { state.setPc pid (.running role object .critical) with locks := next }
  | lockFailed {pid object : Nat} {role : Role}
      (before : state.pc pid = .running role object .locking) :
      Moves state (.fcntl pid false) (state.setPc pid (.running role object .pausing))
  | slept {pid object : Nat} {role : Role} (before : state.pc pid = .running role object .critical) :
      Moves state (.slept pid) (state.setPc pid (.running role object .unlocking))
  | unlocked {pid object : Nat} {role : Role}
      (before : state.pc pid = .running role object .unlocking) :
      Moves state (.fcntl pid true)
        { state.setPc pid (.running role object .pausing) with locks := drop state.locks object pid }
  | unlockFailed {pid object : Nat} {role : Role}
      (before : state.pc pid = .running role object .unlocking) :
      Moves state (.fcntl pid false) (state.setPc pid (.running role object .pausing))
  | paused {pid object : Nat} {role : Role} (before : state.pc pid = .running role object .pausing) :
      Moves state (.slept pid) (state.setPc pid (.running role object .top))
  | closed {pid object : Nat} {role : Role} (before : state.pc pid = .running role object .closing) :
      Moves state (.close pid)
        { state.setPc pid .unlinking with locks := drop state.locks object pid }
  | unlinked {pid : Nat} (before : state.pc pid = .unlinking) :
      Moves state (.shmUnlink pid) ((shmUnlink state).setPc pid (.exited 0))

theorem processStep_moves {state next : State} {pid object : Nat} {role : Role} {phase : Phase}
    {label : Label} (owner : label.pid = pid) (before : state.pc pid = .running role object phase)
    (move : processStep state pid role object phase label = some next) : Moves state label next := by
  subst owner
  cases phase <;> cases label <;>
    simp only [processStep, Label.pid, reduceCtorEq, Option.some.injEq] at before move
  case top.test pid =>
    subst move
    show Moves state (.test pid) (state.setPc pid (.running role object
      (if (state.processes pid).quit then .closing else .locking)))
    by_cases quitting : (state.processes pid).quit = true
    · rw [if_pos quitting]
      exact .left before quitting
    · rw [if_neg quitting]
      exact .entered before (Bool.eq_false_iff.mpr quitting)
  case locking.fcntl pid succeeds =>
    obtain ⟨⟨ret, locks⟩, called, rfl⟩ := Option.map_eq_some_iff.mp move
    rcases lock_cases called with ⟨rfl, rfl, granted⟩ | ⟨rfl, rfl, rfl⟩
    · exact .locked before granted
    · exact .lockFailed before
  case critical.slept pid => exact move ▸ .slept before
  case unlocking.fcntl pid succeeds =>
    cases succeeds with
    | false => exact (Option.some.inj move) ▸ .unlockFailed before
    | true => exact (Option.some.inj move) ▸ .unlocked before
  case pausing.slept pid => exact move ▸ .paused before
  case closing.close pid => exact move ▸ .closed before

theorem step_moves {state next : State} {label : Label} (move : step state label = some next) :
    Moves state label next := by
  cases before : state.pc label.pid with
  | running role object phase =>
    by_cases signal : ∃ pid, label = .signal pid
    · obtain ⟨pid, rfl⟩ := signal
      simp only [Label.pid] at before
      simp only [step, Label.pid, before, Option.some.injEq] at move
      exact move ▸ .signalled (by simp [before])
    · apply processStep_moves rfl before
      cases label <;> simp_all [step]
  | absent =>
    cases label <;> simp only [Label.pid] at before <;>
      simp only [step, Label.pid, before, Option.some.injEq, reduceCtorEq] at move
    case start pid => exact move ▸ .started before
  | registering =>
    cases label <;> simp only [Label.pid] at before <;>
      simp only [step, Label.pid, before, Option.some.injEq, reduceCtorEq] at move
    case register pid => exact move ▸ .registered before
    case signal pid => exact move ▸ .killed before
  | opening =>
    cases label <;> simp only [Label.pid] at before <;>
      simp only [step, Label.pid, before, Option.some.injEq, reduceCtorEq] at move
    case signal pid => exact move ▸ .signalled (by simp [before])
    case shmOpen pid succeeds =>
      cases succeeds with
      | false =>
        simp only [Option.some.injEq] at move
        exact move ▸ .openFailed before
      | true =>
        cases named : state.name with
        | none =>
          simp only [shmOpen, named, Option.some.injEq] at move
          exact move ▸ .created before named
        | some object =>
          simp only [shmOpen, named, Option.some.injEq] at move
          exact move ▸ .opened before named
  | forking object =>
    cases label <;> simp only [Label.pid] at before <;>
      simp only [step, Label.pid, before, Option.some.injEq, reduceCtorEq] at move
    case signal pid => exact move ▸ .signalled (by simp [before])
    case fork pid child =>
      cases child with
      | none =>
        simp only [Option.some.injEq] at move
        exact move ▸ .forkFailed before
      | some child =>
        simp only [Option.ite_none_right_eq_some, Option.some.injEq] at move
        exact move.2 ▸ .forked before move.1
  | unlinking =>
    cases label <;> simp only [Label.pid] at before <;>
      simp only [step, Label.pid, before, Option.some.injEq, reduceCtorEq] at move
    case signal pid => exact move ▸ .signalled (by simp [before])
    case shmUnlink pid => exact move ▸ .unlinked before
  | exited status =>
    cases label <;> simp only [Label.pid] at before <;>
      simp only [step, Label.pid, before, reduceCtorEq] at move

end FileLock
