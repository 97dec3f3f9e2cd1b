import LinuxTutorial.Ipc.SemaphoreLifetime
import LinuxTutorial.Shared.Progress
import Mathlib.Algebra.GroupWithZero.Nat
import Mathlib.Algebra.Order.BigOperators.Group.List
import Mathlib.Algebra.Order.Group.Nat

set_option autoImplicit false

namespace Semaphore

open Transition

variable {state next : State}

structure ThreadStep (state next : State) (worker : Worker) (ok : Bool) (phase : Phase)
    (later : Thread) : Prop where
  stage : state.threads worker = .running phase
  present : state.main ≠ .exited
  called : processThread worker state.quit state.sem ok phase = some (later, next.sem)
  threads : next.threads = Function.update state.threads worker later
  main : next.main = state.main

theorem threadStep_step {worker : Worker} {ok : Bool}
    (moved : step state (.thread worker ok) = some next) :
    ∃ phase later, ThreadStep state next worker ok phase later := by
  simp only [step] at moved
  split at moved
  · rename_i phase stage
    split_ifs at moved with ended
    obtain ⟨⟨later, sem⟩, called, same⟩ := Option.bind_eq_some_iff.mp moved
    cases same
    exact ⟨phase, later, stage, ended, called, rfl, rfl⟩
  · cases moved

def Thread.remaining : Thread → Nat
  | .running .call => 3
  | .running .sleep => 2
  | .running .head => 1
  | .absent | .ended => 0

def Main.remaining : Main → Nat
  | .joinProducer index => 3 + maxConsumerSize + (maxProducerSize + 1 - index)
  | .joinConsumer index => 2 + (maxConsumerSize + 1 - index)
  | .destroy => 2
  | .leaving => 1
  | _ => 0

def remaining (state : State) : Nat :=
  state.main.remaining + (workers.map fun worker => (state.threads worker).remaining).sum

def Awake (state : State) : Prop :=
  ∀ index, state.threads (.consumer index) ≠ .running .sleep

def Main.late : Main → Bool
  | .joinProducer _ | .joinConsumer _ | .destroy | .leaving | .exited => true
  | .init | .startProducer _ | .startConsumer _ | .getchar | .setQuit => false

structure Quitting (state : State) : Prop where
  books : Books state
  awake : Awake state
  quit : state.quit = true
  late : state.main.late = true
  destroyed : state.main = .leaving ∨ state.main = .exited → state.destroyed = true

theorem awake_step {label : Label} (awake : Awake state)
    (moved : machine.step state label = some next) : Awake next := by
  intro index
  cases label with
  | main ok =>
    have before := awake index
    cases mainStep_moves moved <;> try exact before
    all_goals
      simp only [State.start, Function.update_apply]
      split_ifs
      · simp
      · exact before
  | thread worker ok =>
    obtain ⟨phase, later, move⟩ := threadStep_step moved
    rw [move.threads, Function.update_apply]
    split_ifs with own
    · have called := move.called
      rw [← own] at called
      simp only [processThread] at called
      rintro rfl
      cases phase <;> grind [consumerProcessThread]
    · exact awake index

theorem Quitting.joined (quitting : Quitting state) : ∃ joined, Joined state joined := by
  have progress := quitting.books.progress
  have late := quitting.late
  cases main : state.main with
  | init | startProducer index | startConsumer index | getchar | setQuit =>
    simp [main, Main.late] at late
  | joinProducer index | joinConsumer index =>
    simp only [Progress, main] at progress
    exact ⟨_, progress.2⟩
  | destroy | leaving | exited =>
    simp only [Progress, main] at progress
    rcases progress with ⟨going, -⟩ | joined
    · exact absurd (quitting.quit.symm.trans going) (by simp)
    · exact ⟨_, joined⟩

theorem Quitting.known (quitting : Quitting state) {worker : Worker} (runs : state.runs worker) :
    worker ∈ workers := by
  obtain ⟨joined, holds⟩ := quitting.joined
  have created := created_of_runs runs
  rw [mem_workers]
  cases worker with
  | producer index => exact (holds.producers index).mp created
  | consumer index => exact holds.consumers index created

theorem thread_lowers {worker : Worker} {quit ok : Bool} {sem after : Nat} {phase : Phase}
    {later : Thread} (called : processThread worker quit sem ok phase = some (later, after))
    (quitting : quit = true) : later.remaining < (Thread.running phase).remaining := by
  cases worker <;> cases phase <;> cases ok <;>
    simp [processThread, producerProcessThread, consumerProcessThread, quitting] at called <;>
    grind [Thread.remaining]

theorem ThreadStep.lowers {worker : Worker} {ok : Bool} {phase : Phase} {later : Thread}
    (move : ThreadStep state next worker ok phase later) (quitting : Quitting state) :
    remaining next < remaining state := by
  have less := thread_lowers move.called quitting.quit
  have sums : (workers.map fun worker => (next.threads worker).remaining).sum <
      (workers.map fun worker => (state.threads worker).remaining).sum := by
    apply List.sum_lt_sum
    · intro other _
      rw [move.threads, Function.update_apply]
      split_ifs with own
      · rw [own, move.stage]
        omega
      · exact Nat.le_refl _
    · refine ⟨worker, quitting.known ⟨phase, move.stage⟩, ?_⟩
      rwa [move.threads, Function.update_self, move.stage]
  simp only [remaining, move.main]
  omega

theorem MainMoves.lowers {ok : Bool} (moves : MainMoves state ok next)
    (quitting : Quitting state) : remaining next < remaining state := by
  have progress := quitting.books.progress
  have late := quitting.late
  have lower (threads : next.threads = state.threads)
      (main : next.main.remaining < state.main.remaining) : remaining next < remaining state := by
    simp only [remaining, threads]
    omega
  cases moves with
  | inited main | initFailed main | producerStarted main | producerFailed main
  | producersStarted _ main | consumerStarted main | consumerFailed main
  | consumersStarted _ main | otherRead main | quitRead main | quitSet _ main =>
    simp [main, Main.late] at late
  | producerJoined _ main inside | consumerJoined _ main inside =>
    apply lower rfl
    simp only [main, Main.remaining]
    omega
  | producersJoined _ main through | consumersJoined _ main through =>
    simp only [Progress, main] at progress
    apply lower rfl
    simp only [main, Main.remaining]
    omega
  | semDestroyed _ main | returned _ main =>
    apply lower rfl
    simp [main, Main.remaining]

theorem MainMoves.quitting {ok : Bool} (moves : MainMoves state ok next)
    (quitting : Quitting state) (books : Books next) (awake : Awake next) : Quitting next := by
  have late := quitting.late
  have quit := quitting.quit
  cases moves with
  | inited main | initFailed main | producerStarted main | producerFailed main
  | producersStarted _ main | consumerStarted main | consumerFailed main
  | consumersStarted _ main | otherRead main | quitRead main | quitSet _ main =>
    simp [main, Main.late] at late
  | producerJoined | producersJoined | consumerJoined | consumersJoined =>
    exact ⟨books, awake, quit, rfl, by simp⟩
  | semDestroyed => exact ⟨books, awake, quit, rfl, fun _ => rfl⟩
  | returned _ main => exact ⟨books, awake, quit, rfl, fun _ => quitting.destroyed (.inl main)⟩

theorem quitting_step {label : Label} (quitting : Quitting state)
    (moved : machine.step state label = some next) :
    Quitting next ∧ remaining next < remaining state := by
  have books := books_step _ _ _ quitting.books trivial moved
  have awake := awake_step quitting.awake moved
  cases label with
  | main ok =>
    have moves := mainStep_moves moved
    exact ⟨moves.quitting quitting books awake, moves.lowers quitting⟩
  | thread worker ok =>
    obtain ⟨phase, later, move⟩ := threadStep_step moved
    have frame := threadStep_moves moved
    refine ⟨⟨books, awake, frame.quit.trans quitting.quit, ?_, ?_⟩, move.lowers quitting⟩
    · rw [frame.main]
      exact quitting.late
    · rw [frame.main, frame.destroyed]
      exact quitting.destroyed

theorem quit_set {label : Label} (books : Books next) (awake : Awake next)
    (moved : machine.step state label = some next) (going : state.quit = false)
    (quit : next.quit = true) : Quitting next := by
  cases label with
  | main ok =>
    cases mainStep_moves moved with
    | quitSet _ main => exact ⟨books, awake, rfl, rfl, by simp⟩
    | inited => cases quit
    | _ => exact absurd (going.symm.trans quit) (by simp)
  | thread worker ok =>
    have same := (threadStep_moves moved).quit
    exact absurd (going.symm.trans (same ▸ quit)) (by simp)

theorem reachable_quitting (reached : machine.Reachable state) (quit : state.quit = true) :
    Quitting state := by
  have invariant : Books state ∧ Awake state ∧ (state.quit = true → Quitting state) := by
    refine @Machine.ReachableBy.holds State Label machine Machine.anyStep
      (fun state => Books state ∧ Awake state ∧ (state.quit = true → Quitting state))
      state reached ?_ ?_
    · rintro _ rfl
      exact ⟨books_start, fun _ => by simp [start], fun quit => by cases quit⟩
    · rintro state label next ⟨books, awake, quitting⟩ _ moved
      have later := books_step _ _ _ books trivial moved
      have stays := awake_step awake moved
      refine ⟨later, stays, fun quit => ?_⟩
      cases going : state.quit with
      | true => exact (quitting_step (quitting going) moved).1
      | false => exact quit_set later stays moved going quit
  exact invariant.2.2 quit

theorem main_remaining_le (main : Main) : main.remaining ≤ 12 := by
  cases main <;> simp only [Main.remaining, maxProducerSize, maxConsumerSize] <;> omega

theorem remaining_le (state : State) : remaining state ≤ 36 := by
  have each (worker : Worker) : (state.threads worker).remaining ≤ 3 := by
    unfold Thread.remaining
    split <;> omega
  have threads : (workers.map fun worker => (state.threads worker).remaining).sum ≤ 24 := by
    have bound := List.sum_le_card_nsmul
      (workers.map fun worker => (state.threads worker).remaining) 3 fun value member => by
        obtain ⟨worker, -, rfl⟩ := List.mem_map.mp member
        exact each worker
    simpa [workers, maxProducerSize, maxConsumerSize] using bound
  have main := main_remaining_le state.main
  simp only [remaining]
  omega

theorem thread_enabled (awake : Awake state) (present : state.main ≠ .exited) {worker : Worker}
    (runs : state.runs worker) :
    ∃ label next, machine.step state label = some next := by
  obtain ⟨phase, stage⟩ := runs
  have enabled {later : Thread} {sem : Nat}
      (called : processThread worker state.quit state.sem false phase = some (later, sem)) :
      ∃ label next, machine.step state label = some next := by
    refine ⟨.thread worker false, ?_⟩
    simp [machine, step, stage, present, threadStep, called]
  cases worker with
  | producer index => cases phase <;> exact enabled rfl
  | consumer index =>
    cases phase with
    | head | call => exact enabled rfl
    | sleep => exact absurd stage (awake index)

-- Only a join can make main wait, and the thread it waits for can move.
theorem quitting_stuck (quitting : Quitting state) (stuck : machine.Stuck Machine.anyStep state) :
    state.main = .exited := by
  have still (label : Label) : machine.step state label = none := stuck label trivial
  have stopped (present : state.main ≠ .exited) (worker : Worker) : ¬ state.runs worker := by
    intro runs
    obtain ⟨label, next, move⟩ := thread_enabled quitting.awake present runs
    rw [still] at move
    cases move
  have joins (present : state.main ≠ .exited) (worker : Worker) :
      (state.join worker).isSome = true := by
    unfold State.join
    split
    · rename_i phase stage
      exact absurd ⟨phase, stage⟩ (stopped present worker)
    · rfl
  have main := still (.main true)
  have late := quitting.late
  cases place : state.main with
  | exited => rfl
  | init | startProducer | startConsumer | getchar | setQuit => simp [place, Main.late] at late
  | joinProducer index =>
    have joined := joins (by simp [place]) (.producer index)
    simp only [machine, step, mainStep, place] at main
    split_ifs at main
    simp [Option.map_eq_none_iff.mp main] at joined
  | joinConsumer index =>
    have joined := joins (by simp [place]) (.consumer index)
    simp only [machine, step, mainStep, place] at main
    split_ifs at main
    simp [Option.map_eq_none_iff.mp main] at joined
  | destroy | leaving => simp [machine, step, mainStep, place] at main

end Semaphore
