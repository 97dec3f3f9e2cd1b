import LinuxTutorial.Shared.Transition
import LinuxTutorial.Shared.RecordLock
import Mathlib.Logic.Function.Basic

set_option autoImplicit false

/-!
Any number of instances of the program; a process number stands for a process of any instance.
-/

namespace FileLock

open RecordLock Transition

inductive LockType where
  | rdlck
  | wrlck
  | unlck
  deriving DecidableEq, Repr

structure Flock where
  lType : LockType
  lWhence : Nat
  lStart : Nat
  lLen : Nat
  lPid : Nat
  deriving DecidableEq, Repr

abbrev Locks := Table Nat Nat

-- SEEK_SET is 0, and a length of 0 reaches to the end of the file.
def wholeFile (lType : LockType) (pid : Nat) : Flock :=
  { lType := lType, lWhence := 0, lStart := 0, lLen := 0, lPid := pid }

/-- `F_SETLKW` without its failures: `none` while the request has to wait. -/
def setlkw (locks : Locks) (object pid : Nat) (lock : Flock) : Option Locks :=
  match lock.lType with
  | .rdlck => grant locks object pid .shared
  | .wrlck => grant locks object pid .exclusive
  | .unlck => some (drop locks object pid)

/-- One call of `fcntl` with its return value; a failed call leaves the table unchanged. -/
def fcntl (locks : Locks) (object pid : Nat) (lock : Flock) (succeeds : Bool) :
    Option (Int × Locks) :=
  if succeeds then (setlkw locks object pid lock).map fun next => (0, next)
  else some (-1, locks)

def fileRequest (lType : LockType) (locks : Locks) (object pid : Nat) (succeeds : Bool) :
    Option (Int × Locks) :=
  (fcntl locks object pid (wholeFile lType pid) succeeds).map fun (ret, next) =>
    if ret = -1 then (-1, next) else (0, next)

def fileWlock := fileRequest .wrlck
def fileRlock := fileRequest .rdlck
def fileUnlock := fileRequest .unlck

inductive Role where
  | writer
  | reader
  deriving DecidableEq, Repr

def Role.mode : Role → Mode
  | .writer => .exclusive
  | .reader => .shared

/-- `process_write` calls `file_wlock` where `process_read` calls `file_rlock`. -/
def Role.lock : Role → Locks → Nat → Nat → Bool → Option (Int × Locks)
  | .writer => fileWlock
  | .reader => fileRlock

/-- Where a process stands in `process_write` or `process_read`, and at the `close` after it. -/
inductive Phase where
  | top
  | locking
  | critical
  | unlocking
  | pausing
  | closing
  deriving DecidableEq, Repr

inductive Pc where
  | absent
  | registering
  | opening
  | forking (object : Nat)
  | running (role : Role) (object : Nat) (phase : Phase)
  | unlinking
  | exited (status : Int)
  deriving DecidableEq, Repr

structure Process where
  pc : Pc
  quit : Bool
  deriving DecidableEq, Repr

/-- `name` is the object that LOCK_SHM denotes, `objects` how many have been created. -/
structure State where
  processes : Nat → Process
  name : Option Nat
  objects : Nat
  locks : Locks

inductive Label where
  | start (pid : Nat)
  | register (pid : Nat)
  | signal (pid : Nat)
  | shmOpen (pid : Nat) (succeeds : Bool)
  | fork (pid : Nat) (child : Option Nat)
  | test (pid : Nat)
  | fcntl (pid : Nat) (succeeds : Bool)
  | slept (pid : Nat)
  | close (pid : Nat)
  | shmUnlink (pid : Nat)
  deriving DecidableEq, Repr

namespace State

def pc (state : State) (pid : Nat) : Pc := (state.processes pid).pc

def setProcess (state : State) (pid : Nat) (process : Process) : State :=
  { state with processes := Function.update state.processes pid process }

def setPc (state : State) (pid : Nat) (pc : Pc) : State :=
  state.setProcess pid { state.processes pid with pc := pc }

def handleSignal (state : State) (pid : Nat) : State :=
  state.setProcess pid { state.processes pid with quit := true }

end State

/-- `shm_open(LOCK_SHM, O_RDWR | O_CREAT)`: the object it yields and the new name table. -/
def shmOpen (state : State) : Nat × State :=
  match state.name with
  | some object => (object, state)
  | none => (state.objects, { state with name := some state.objects, objects := state.objects + 1 })

def shmUnlink (state : State) : State := { state with name := none }

def processStep (state : State) (pid : Nat) (role : Role) (object : Nat) :
    Phase → Label → Option State
  | .top, .test _ =>
    some (state.setPc pid
      (.running role object (if (state.processes pid).quit then .closing else .locking)))
  | .locking, .fcntl _ succeeds =>
    (role.lock state.locks object pid succeeds).map fun (ret, locks) =>
      { state.setPc pid (.running role object (if ret = 0 then .critical else .pausing)) with
        locks := locks }
  | .critical, .slept _ => some (state.setPc pid (.running role object .unlocking))
  | .unlocking, .fcntl _ succeeds =>
    -- the result of file_unlock is not looked at
    (fileUnlock state.locks object pid succeeds).map fun (_, locks) =>
      { state.setPc pid (.running role object .pausing) with locks := locks }
  | .pausing, .slept _ => some (state.setPc pid (.running role object .top))
  | .closing, .close _ =>
    -- closing a descriptor of the object drops every lock the process has on it
    some { state.setPc pid .unlinking with locks := drop state.locks object pid }
  | _, _ => none

def Label.pid : Label → Nat
  | .start pid | .register pid | .signal pid | .shmOpen pid _ | .fork pid _ | .test pid
  | .fcntl pid _ | .slept pid | .close pid | .shmUnlink pid => pid

def step (state : State) (label : Label) : Option State :=
  let pid := label.pid
  match state.pc pid, label with
  | .absent, .start _ => some (state.setProcess pid { pc := .registering, quit := false })
  -- before register_signal the default action of the signal ends the process
  | .registering, .signal _ => some (state.setPc pid (.exited 1))
  | .absent, _ | .exited _, _ => none
  | _, .signal _ => some (state.handleSignal pid)
  | .registering, .register _ => some (state.setPc pid .opening)
  | .opening, .shmOpen _ true => some ((shmOpen state).2.setPc pid (.forking (shmOpen state).1))
  | .opening, .shmOpen _ false => some (state.setPc pid (.exited (-1)))
  | .forking _, .fork _ none => some (state.setPc pid (.exited (-1)))
  | .forking object, .fork _ (some child) =>
    if state.pc child = .absent then
      some ((state.setPc pid (.running .reader object .top)).setProcess child
        { pc := .running .writer object .top, quit := (state.processes pid).quit })
    else none
  | .running role object phase, label => processStep state pid role object phase label
  | .unlinking, .shmUnlink _ => some ((shmUnlink state).setPc pid (.exited 0))
  | _, _ => none

def initial : State :=
  { processes := fun _ => { pc := .absent, quit := false }, name := none, objects := 0, locks := [] }

def machine : Machine State Label where
  initial state := state = initial
  step := step

end FileLock
