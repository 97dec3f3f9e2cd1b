import LinuxTutorial.Shared.Transition
import Mathlib.Logic.Function.Basic

set_option autoImplicit false

namespace Semaphore

def maxProducerSize : Nat := 3

def maxConsumerSize : Nat := 5

inductive Worker where
  | producer (index : Nat)
  | consumer (index : Nat)
  deriving DecidableEq

inductive Phase where
  -- while (!quit)
  | head
  -- sem_post, sem_timedwait
  | call
  | sleep
  deriving DecidableEq

inductive Thread where
  | absent
  | running (phase : Phase)
  | ended
  deriving DecidableEq

inductive Main where
  | init
  | startProducer (index : Nat)
  | startConsumer (index : Nat)
  | getchar
  | setQuit
  | joinProducer (index : Nat)
  | joinConsumer (index : Nat)
  | destroy
  | leaving
  | exited
  deriving DecidableEq

inductive Label where
  | main (ok : Bool)
  | thread (worker : Worker) (ok : Bool)

structure State where
  main : Main
  quit : Bool
  sem : Nat
  destroyed : Bool
  usedDestroyed : Bool
  threads : Worker → Thread
  -- the arguments of pthread_join, in the order of the calls
  joins : List Worker

def State.created (state : State) (worker : Worker) : Prop := state.threads worker ≠ .absent

def State.runs (state : State) (worker : Worker) : Prop :=
  ∃ phase, state.threads worker = .running phase

def producerProcessThread (quit : Bool) (sem : Nat) (ok : Bool) : Phase → Option (Thread × Nat)
  | .head => some (if quit then .ended else .running .call, sem)
  | .call => some (.running .sleep, if ok then sem + 1 else sem)
  | .sleep => some (.running .head, sem)

def consumerProcessThread (quit : Bool) (sem : Nat) (ok : Bool) : Phase → Option (Thread × Nat)
  | .head => some (if quit then .ended else .running .call, sem)
  | .call =>
    if ok then
      if 0 < sem then some (.running .head, sem - 1) else none
    -- timed out, or failed
    else some (.running .head, sem)
  | .sleep => none

def processThread : Worker → Bool → Nat → Bool → Phase → Option (Thread × Nat)
  | .producer _ => producerProcessThread
  | .consumer _ => consumerProcessThread

def State.start (state : State) (worker : Worker) : State :=
  { state with threads := Function.update state.threads worker (.running .head) }

-- pthread_join returns when the thread has ended; a thread that was not created is not waited for.
def State.join (state : State) (worker : Worker) : Option State :=
  match state.threads worker with
  | .running _ => none
  | _ => some { state with joins := state.joins ++ [worker] }

def startProducer (state : State) (index : Nat) (ok : Bool) : State :=
  if index < maxProducerSize then
    if ok then { state.start (.producer index) with main := .startProducer (index + 1) }
    -- goto EXIT
    else { state with main := .destroy }
  else { state with main := .startConsumer 0 }

def startConsumer (state : State) (index : Nat) (ok : Bool) : State :=
  if index < maxConsumerSize then
    if ok then { state.start (.consumer index) with main := .startConsumer (index + 1) }
    else { state with main := .startConsumer (index + 1) }
  else { state with main := .getchar }

def mainStep (state : State) (ok : Bool) : Option State :=
  match state.main with
  | .init =>
    some (if ok then { state with quit := false, sem := 1, main := .startProducer 0 }
      else { state with main := .exited })
  | .startProducer index => some (startProducer state index ok)
  | .startConsumer index => some (startConsumer state index ok)
  -- ok: the character is q
  | .getchar => some (if ok then { state with main := .setQuit } else state)
  | .setQuit => some { state with quit := true, main := .joinProducer 0 }
  | .joinProducer index =>
    if index < maxProducerSize then
      (state.join (.producer index)).map fun joined =>
        { joined with main := .joinProducer (index + 1) }
    else some { state with main := .joinConsumer 0 }
  | .joinConsumer index =>
    if index < maxConsumerSize then
      (state.join (.consumer index)).map fun joined =>
        { joined with main := .joinConsumer (index + 1) }
    else some { state with main := .destroy }
  | .destroy => some { state with destroyed := true, main := .leaving }
  | .leaving => some { state with main := .exited }
  | .exited => none

def threadStep (state : State) (worker : Worker) (phase : Phase) (ok : Bool) : Option State := do
  let (later, sem) ← processThread worker state.quit state.sem ok phase
  some { state with
    sem := sem
    usedDestroyed := state.usedDestroyed || (state.destroyed && phase = .call)
    threads := Function.update state.threads worker later }

def step (state : State) : Label → Option State
  | .main ok => mainStep state ok
  | .thread worker ok =>
    match state.threads worker with
    -- the threads end with the process
    | .running phase => if state.main = .exited then none else threadStep state worker phase ok
    | _ => none

def start : State where
  main := .init
  quit := false
  sem := 0
  destroyed := false
  usedDestroyed := false
  threads := fun _ => .absent
  joins := []

def machine : Transition.Machine State Label where
  initial state := state = start
  step := step

end Semaphore
