import LinuxTutorial.Ipc.SemaphoreSteps

set_option autoImplicit false

namespace Semaphore

open Transition

structure Launched (state : State) : Prop where
  producers : ∀ index, state.created (.producer index) ↔ index < maxProducerSize
  consumers : ∀ index, state.created (.consumer index) → index < maxConsumerSize

structure Joined (state : State) (joined : List Worker) : Prop extends Launched state where
  quit : state.quit = true
  joins : state.joins = joined
  stopped : ∀ worker, worker ∈ joined → ¬ state.runs worker

-- What main has done when it comes to sem_destroy: nothing after a failed producer, or all of it.
def Finished (state : State) : Prop :=
  (state.quit = false ∧ state.joins = []) ∨ Joined state workers

def Progress (state : State) : Prop :=
  match state.main with
  | .init => (∀ worker, ¬ state.created worker) ∧ state.joins = [] ∧ state.quit = false
  | .startProducer index =>
    index ≤ maxProducerSize ∧ (∀ other, state.created (.producer other) ↔ other < index) ∧
      (∀ other, ¬ state.created (.consumer other)) ∧ state.joins = [] ∧ state.quit = false
  | .startConsumer index =>
    index ≤ maxConsumerSize ∧
      (∀ other, state.created (.producer other) ↔ other < maxProducerSize) ∧
      (∀ other, state.created (.consumer other) → other < index) ∧ state.joins = []
  | .getchar => Launched state ∧ state.joins = []
  | .setQuit => Launched state ∧ state.joins = []
  | .joinProducer index =>
    index ≤ maxProducerSize ∧ Joined state ((List.range index).map .producer)
  | .joinConsumer index =>
    index ≤ maxConsumerSize ∧ Joined state
      ((List.range maxProducerSize).map .producer ++ (List.range index).map .consumer)
  | .destroy => Finished state
  | .leaving => Finished state
  | .exited => Finished state

structure Books (state : State) : Prop where
  progress : Progress state
  destroyed : state.destroyed = true → state.main = .leaving ∨ state.main = .exited
  used : state.usedDestroyed = true →
    state.destroyed = true ∧ state.quit = false ∧ ∃ worker, state.created worker

variable {state next : State}

theorem ThreadMoves.launched {worker : Worker} (moves : ThreadMoves state next worker)
    (launched : Launched state) : Launched next := by
  constructor
  · intro index
    rw [moves.created, launched.producers]
  · intro index created
    exact launched.consumers index ((moves.created _).mp created)

theorem ThreadMoves.joined {worker : Worker} {joined : List Worker}
    (moves : ThreadMoves state next worker) (holds : Joined state joined) : Joined next joined where
  toLaunched := moves.launched holds.toLaunched
  quit := moves.quit.trans holds.quit
  joins := moves.joins.trans holds.joins
  stopped other member runs := holds.stopped other member (moves.running other runs)

theorem ThreadMoves.finished {worker : Worker} (moves : ThreadMoves state next worker)
    (finished : Finished state) : Finished next := by
  rcases finished with ⟨quit, joins⟩ | joined
  · exact .inl ⟨moves.quit.trans quit, moves.joins.trans joins⟩
  · exact .inr (moves.joined joined)

theorem ThreadMoves.progress {worker : Worker} (moves : ThreadMoves state next worker)
    (progress : Progress state) : Progress next := by
  unfold Progress at progress ⊢
  rw [moves.main]
  cases main : state.main with
  | init | startProducer index | startConsumer index =>
    simp only [main] at progress
    simpa only [moves.created, moves.joins, moves.quit] using progress
  | getchar | setQuit =>
    simp only [main] at progress
    exact ⟨moves.launched progress.1, moves.joins.trans progress.2⟩
  | joinProducer index | joinConsumer index =>
    simp only [main] at progress
    exact ⟨progress.1, moves.joined progress.2⟩
  | destroy | leaving | exited =>
    simp only [main] at progress
    exact moves.finished progress

theorem Launched.congr (launched : Launched state) (threads : next.threads = state.threads) :
    Launched next := by
  constructor
  · intro index
    rw [← launched.producers, State.created, State.created, threads]
  · intro index created
    apply launched.consumers
    rwa [State.created, threads] at created

theorem Joined.join {joined : List Worker} {worker : Worker} (holds : Joined state joined)
    (stopped : ¬ state.runs worker) (main : Main) :
    Joined { state with joins := state.joins ++ [worker], main } (joined ++ [worker]) where
  toLaunched := holds.toLaunched.congr rfl
  quit := holds.quit
  joins := congrArg (· ++ [worker]) holds.joins
  stopped other member := by
    rcases List.mem_append.mp member with before | new
    · exact holds.stopped other before
    · rw [List.mem_singleton.mp new]
      exact stopped

theorem Joined.congr {joined : List Worker} {after : State} (holds : Joined state joined)
    (threads : after.threads = state.threads) (quit : after.quit = state.quit)
    (joins : after.joins = state.joins) : Joined after joined where
  toLaunched := holds.toLaunched.congr threads
  quit := quit.trans holds.quit
  joins := joins.trans holds.joins
  stopped other member := by
    rw [State.runs, threads]
    exact holds.stopped other member

theorem Finished.congr {after : State} (finished : Finished state)
    (threads : after.threads = state.threads) (quit : after.quit = state.quit)
    (joins : after.joins = state.joins) : Finished after := by
  rcases finished with ⟨going, none⟩ | joined
  · exact .inl ⟨quit.trans going, joins.trans none⟩
  · exact .inr (joined.congr threads quit joins)

theorem MainMoves.progress {ok : Bool} (moves : MainMoves state ok next)
    (progress : Progress state) : Progress next := by
  cases moves with
  | inited main =>
    simp only [Progress, main] at progress
    obtain ⟨absent, joins, quit⟩ := progress
    refine ⟨Nat.zero_le _, ?_, ?_, joins, rfl⟩
    · intro other
      have none : ¬ state.created (.producer other) := absent _
      exact iff_of_false none (Nat.not_lt_zero other)
    · intro other
      exact absent (.consumer other)
  | initFailed main =>
    simp only [Progress, main] at progress
    exact .inl ⟨progress.2.2, progress.2.1⟩
  | producerStarted main inside =>
    rename_i index
    simp only [Progress, main] at progress
    obtain ⟨bound, producers, consumers, joins, quit⟩ := progress
    refine ⟨inside, ?_, ?_, joins, quit⟩
    · intro other
      have later := @created_start state (.producer index) (.producer other)
      rw [producers, Worker.producer.injEq] at later
      apply later.trans
      omega
    · intro other
      have later := @created_start state (.producer index) (.consumer other)
      intro created
      simpa [consumers] using later.mp created
  | producerFailed main inside =>
    simp only [Progress, main] at progress
    obtain ⟨bound, producers, consumers, joins, quit⟩ := progress
    exact .inl ⟨quit, joins⟩
  | producersStarted ok main through =>
    rename_i index
    simp only [Progress, main] at progress
    obtain ⟨bound, producers, consumers, joins, quit⟩ := progress
    obtain rfl : index = maxProducerSize := by omega
    refine ⟨Nat.zero_le _, producers, ?_, joins⟩
    intro other created
    exact absurd created (consumers other)
  | consumerStarted main inside =>
    rename_i index
    simp only [Progress, main] at progress
    obtain ⟨bound, producers, consumers, joins⟩ := progress
    refine ⟨inside, ?_, ?_, joins⟩
    · intro other
      have later := @created_start state (.consumer index) (.producer other)
      apply later.trans
      simp [producers]
    · intro other created
      have later := @created_start state (.consumer index) (.consumer other)
      rcases later.mp created with same | before
      · cases same
        omega
      · have within := consumers other before
        omega
  | consumerFailed main inside =>
    simp only [Progress, main] at progress
    obtain ⟨bound, producers, consumers, joins⟩ := progress
    refine ⟨inside, producers, ?_, joins⟩
    intro other created
    have within := consumers other created
    omega
  | consumersStarted ok main through =>
    rename_i index
    simp only [Progress, main] at progress
    obtain ⟨bound, producers, consumers, joins⟩ := progress
    obtain rfl : index = maxConsumerSize := by omega
    exact ⟨⟨producers, consumers⟩, joins⟩
  | otherRead main => exact progress
  | quitRead main =>
    simp only [Progress, main] at progress
    exact ⟨progress.1.congr rfl, progress.2⟩
  | quitSet ok main =>
    simp only [Progress, main] at progress
    refine ⟨Nat.zero_le _, progress.1.congr rfl, rfl, progress.2, ?_⟩
    intro worker member
    cases member
  | producerJoined ok main inside stopped =>
    rename_i index
    simp only [Progress, main] at progress
    have later := progress.2.join stopped (.joinProducer (index + 1))
    refine ⟨inside, ?_⟩
    simpa [List.range_succ] using later
  | producersJoined ok main through =>
    rename_i index
    simp only [Progress, main] at progress
    obtain ⟨bound, joined⟩ := progress
    obtain rfl : index = maxProducerSize := by omega
    refine ⟨Nat.zero_le _, ?_⟩
    rw [List.range_zero, List.map_nil, List.append_nil]
    exact joined.congr rfl rfl rfl
  | consumerJoined ok main inside stopped =>
    rename_i index
    simp only [Progress, main] at progress
    have later := progress.2.join stopped (.joinConsumer (index + 1))
    refine ⟨inside, ?_⟩
    simpa [List.range_succ] using later
  | consumersJoined ok main through =>
    rename_i index
    simp only [Progress, main] at progress
    obtain ⟨bound, joined⟩ := progress
    obtain rfl : index = maxConsumerSize := by omega
    exact .inr (joined.congr rfl rfl rfl)
  | semDestroyed ok main | returned ok main =>
    simp only [Progress, main] at progress
    exact progress.congr rfl rfl rfl

theorem books_start : Books start where
  progress := ⟨fun _ created => created rfl, rfl, rfl⟩
  destroyed destroyed := by cases destroyed
  used used := by cases used

theorem books_main {ok : Bool} (books : Books state) (moves : MainMoves state ok next) :
    Books next := by
  obtain ⟨used, destroyed⟩ := moves.frame
  constructor
  · exact moves.progress books.progress
  · intro gone
    rcases destroyed with same | leaving
    · rw [moves.after_destroy (books.destroyed (same ▸ gone))]
      exact .inr rfl
    · exact .inl leaving
  · intro touched
    have before := books.used (used ▸ touched)
    rw [moves.after_destroy (books.destroyed before.1)]
    exact before

-- A thread that runs after sem_destroy is a producer that main did not join.
theorem finished_running {worker : Worker} (finished : Finished state)
    (runs : state.runs worker) : state.quit = false := by
  rcases finished with ⟨quit, -⟩ | joined
  · exact quit
  · have created := created_of_runs runs
    have member : worker ∈ workers := by
      rw [mem_workers]
      cases worker with
      | producer index => exact (joined.producers index).mp created
      | consumer index => exact joined.consumers index created
    exact absurd runs (joined.stopped worker member)

theorem Books.finished (books : Books state) (destroyed : state.destroyed = true) :
    Finished state := by
  have progress := books.progress
  rcases books.destroyed destroyed with main | main
  · simpa only [Progress, main] using progress
  · simpa only [Progress, main] using progress

theorem books_thread {worker : Worker} {ok : Bool} (books : Books state)
    (moved : step state (.thread worker ok) = some next) : Books next := by
  have moves := threadStep_moves moved
  constructor
  · exact moves.progress books.progress
  · rw [moves.main, moves.destroyed]
    exact books.destroyed
  · intro used
    rw [moves.destroyed, moves.quit]
    have destroyed : state.destroyed = true := by
      rcases moves.used used with before | destroyed
      · exact (books.used before).1
      · exact destroyed
    have created := created_of_runs moves.runs
    refine ⟨destroyed, finished_running (books.finished destroyed) moves.runs, worker, ?_⟩
    exact (moves.created worker).mpr created

theorem books_step : machine.Preserves Machine.anyStep Books := by
  intro state label next books _ moved
  cases label with
  | main ok => exact books_main books (mainStep_moves moved)
  | thread worker ok => exact books_thread books moved

theorem finished_nodup (finished : Finished state) : state.joins.Nodup := by
  rcases finished with ⟨-, joins⟩ | joined
  · rw [joins]
    exact List.nodup_nil
  · rw [joined.joins]
    exact nodup_joined maxConsumerSize

theorem progress_nodup (progress : Progress state) : state.joins.Nodup := by
  cases main : state.main with
  | init | startProducer index | startConsumer index | getchar | setQuit =>
    simp only [Progress, main] at progress
    simp [progress]
  | joinProducer index =>
    simp only [Progress, main] at progress
    rw [progress.2.joins]
    exact nodup_producers index
  | joinConsumer index =>
    simp only [Progress, main] at progress
    rw [progress.2.joins]
    exact nodup_joined index
  | destroy | leaving | exited =>
    simp only [Progress, main] at progress
    exact finished_nodup progress

end Semaphore
