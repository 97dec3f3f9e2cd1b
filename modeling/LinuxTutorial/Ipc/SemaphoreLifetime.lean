import LinuxTutorial.Ipc.SemaphoreProgress
import LinuxTutorial.Shared.Progress

set_option autoImplicit false

namespace Semaphore

open Transition

structure Lawful (state : State) : Prop where
  -- pthread_join is called on threads that were created, once on each
  created : ∀ worker, worker ∈ state.joins → state.created worker
  once : state.joins.Nodup
  joined : state.destroyed = true → ∀ worker, state.created worker → worker ∈ state.joins
  terminated : state.destroyed = true → ∀ worker, ¬ state.runs worker
  unused : state.usedDestroyed = false

def CreateFails (state : State) (label : Label) (worker : Worker) : Prop :=
  label = .main false ∧
    match worker with
    | .producer index => state.main = .startProducer index ∧ index < maxProducerSize
    | .consumer index => state.main = .startConsumer index ∧ index < maxConsumerSize

def OnlyFirstFails (state : State) (label : Label) : Prop :=
  ∀ worker, CreateFails state label worker → worker = .producer 0

def Complete (state : State) : Prop :=
  match state.main with
  | .startConsumer index => ∀ other, other < index → state.created (.consumer other)
  | .getchar => ∀ other, other < maxConsumerSize → state.created (.consumer other)
  | .setQuit => ∀ other, other < maxConsumerSize → state.created (.consumer other)
  | .joinProducer _ => ∀ other, other < maxConsumerSize → state.created (.consumer other)
  | .joinConsumer _ => ∀ other, other < maxConsumerSize → state.created (.consumer other)
  | .destroy => ∀ worker, state.created worker ↔ worker ∈ state.joins
  | .leaving => ∀ worker, state.created worker ↔ worker ∈ state.joins
  | .exited => ∀ worker, state.created worker ↔ worker ∈ state.joins
  | _ => True

variable {state next : State}

theorem ThreadMoves.complete {worker : Worker} (moves : ThreadMoves state next worker) :
    Complete next ↔ Complete state := by
  simp only [Complete, moves.main, moves.created, moves.joins]

theorem onlyFirstFails_thread (worker : Worker) (ok : Bool) :
    OnlyFirstFails state (.thread worker ok) := by
  rintro other ⟨label, -⟩
  cases label

theorem onlyFirstFails_main (ok : Bool) :
    OnlyFirstFails state (.main ok) ↔
      ok = true ∨ (∀ index, state.main = .startProducer index → index < maxProducerSize →
          index = 0) ∧ ∀ index, state.main = .startConsumer index → ¬ index < maxConsumerSize := by
  cases ok with
  | true =>
    refine iff_of_true ?_ (.inl rfl)
    rintro other ⟨label, -⟩
    cases label
  | false =>
    simp only [Bool.false_eq_true, false_or]
    constructor
    · intro first
      constructor
      · intro index main inside
        exact Worker.producer.inj (first (.producer index) ⟨rfl, main, inside⟩)
      · intro index main inside
        cases first (.consumer index) ⟨rfl, main, inside⟩
    · rintro ⟨producers, consumers⟩ worker ⟨-, fails⟩
      cases worker with
      | producer index => rw [producers index fails.1 fails.2]
      | consumer index => exact absurd fails.2 (consumers index fails.1)

theorem joined_complete {index : Nat} (launched : Launched state)
    (through : ¬ index < maxConsumerSize) (bound : index ≤ maxConsumerSize)
    (joins : state.joins = (List.range maxProducerSize).map .producer ++
      (List.range index).map .consumer) :
    (∀ worker, state.created worker ↔ worker ∈ state.joins) ↔
      ∀ other, other < maxConsumerSize → state.created (.consumer other) := by
  obtain rfl : index = maxConsumerSize := by omega
  constructor
  · intro complete other inside
    rw [complete, joins]
    simpa using inside
  · intro complete worker
    have member := mem_workers worker
    rw [joins]
    apply Iff.trans _ member.symm
    cases worker with
    | producer other => exact launched.producers other
    | consumer other => exact ⟨launched.consumers other, complete other⟩

theorem producerFailed_complete {index : Nat} (main : state.main = .startProducer index)
    (progress : Progress state) :
    (∀ worker, state.created worker ↔ worker ∈ state.joins) ↔ index = 0 := by
  simp only [Progress, main] at progress
  obtain ⟨bound, producers, consumers, joins, quit⟩ := progress
  constructor
  · intro complete
    by_contra later
    have first : state.created (.producer 0) := by
      rw [producers]
      omega
    have joined := (complete (.producer 0)).mp first
    rw [joins] at joined
    cases joined
  · rintro rfl worker
    have none : ¬ state.created worker := by
      cases worker with
      | producer other => simp [producers]
      | consumer other => exact consumers other
    exact iff_of_false none (by simp [joins])

theorem consumerStarted_complete (state : State) (index : Nat) :
    (∀ other, other < index + 1 → (state.start (.consumer index)).created (.consumer other)) ↔
      ∀ other, other < index → state.created (.consumer other) := by
  constructor
  · intro complete other before
    have later := (created_start (.consumer index) (.consumer other)).mp
      (complete other (by omega))
    rcases later with same | created
    · cases same
      omega
    · exact created
  · intro complete other before
    apply (created_start (.consumer index) (.consumer other)).mpr
    by_cases same : other = index
    · exact .inl (by rw [same])
    · exact .inr (complete other (by omega))

theorem MainMoves.complete {ok : Bool} (moves : MainMoves state ok next)
    (progress : Progress state) :
    Complete next ↔ Complete state ∧ OnlyFirstFails state (.main ok) := by
  rw [onlyFirstFails_main]
  cases moves with
  | inited main => simp [Complete, main]
  | initFailed main =>
    simp only [Progress, main] at progress
    have none (worker : Worker) : ¬ state.created worker := progress.1 worker
    have complete : ∀ worker, state.created worker ↔ worker ∈ state.joins := by
      intro worker
      exact iff_of_false (none worker) (by simp [progress.2.1])
    simp only [Complete, main, reduceCtorEq, false_imp_iff, implies_true, and_self, or_true,
      iff_true]
    exact complete
  | producerStarted main inside => simp [Complete, main]
  | producerFailed main inside =>
    have first := producerFailed_complete main progress
    simp only [Complete, main, Main.startProducer.injEq, forall_eq', inside, forall_const,
      reduceCtorEq, false_imp_iff, and_true, Bool.false_eq_true, false_or, true_and]
    exact first
  | producersStarted ok main through => simp [Complete, main, through]
  | consumerStarted main inside =>
    rename_i index
    simp only [Complete, main, true_or, and_true]
    exact consumerStarted_complete state index
  | consumerFailed main inside =>
    rename_i index
    simp only [Progress, main] at progress
    have missing : ¬ state.created (.consumer index) := by
      intro created
      have := progress.2.2.1 index created
      omega
    constructor
    · intro complete
      exact absurd (complete index (by omega)) missing
    · rintro ⟨-, ok | ⟨-, late⟩⟩
      · cases ok
      · exact absurd inside (late index main)
  | consumersStarted ok main through =>
    rename_i index
    simp only [Progress, main] at progress
    obtain rfl : index = maxConsumerSize := by omega
    simp only [Complete, main, Main.startConsumer.injEq, forall_eq', through, not_false_eq_true,
      reduceCtorEq, false_imp_iff, implies_true, and_true, or_true]
    rfl
  | otherRead main => simp [main]
  | consumersJoined ok main through =>
    simp only [Progress, main] at progress
    have joined := joined_complete progress.2.toLaunched through progress.1 progress.2.joins
    simp only [Complete, main, reduceCtorEq, false_imp_iff, implies_true, and_self, or_true,
      and_true]
    exact joined
  | quitRead main | quitSet ok main | producerJoined ok main | producersJoined ok main
  | consumerJoined ok main | semDestroyed ok main | returned ok main =>
    simp only [Complete, main, reduceCtorEq, false_imp_iff, implies_true, and_self, or_true,
      and_true]
    rfl

theorem complete_step {label : Label} (books : Books state)
    (moved : machine.step state label = some next) :
    Complete next ↔ Complete state ∧ OnlyFirstFails state label := by
  cases label with
  | main ok => exact (mainStep_moves moved).complete books.progress
  | thread worker ok =>
    rw [(threadStep_moves moved).complete]
    simp [onlyFirstFails_thread]

theorem joined_created {joined : List Worker} (holds : Joined state joined)
    (within : ∀ worker, worker ∈ joined → worker ∈ workers)
    (complete : ∀ other, other < maxConsumerSize → state.created (.consumer other))
    {worker : Worker} (member : worker ∈ state.joins) : state.created worker := by
  rw [holds.joins] at member
  have inside := (mem_workers worker).mp (within worker member)
  cases worker with
  | producer index => exact (holds.producers index).mpr inside
  | consumer index => exact complete index inside

theorem joins_created (progress : Progress state) (complete : Complete state) {worker : Worker}
    (member : worker ∈ state.joins) : state.created worker := by
  cases main : state.main with
  | init | startProducer index | startConsumer index | getchar | setQuit =>
    simp only [Progress, main] at progress
    simp [progress] at member
  | joinProducer index =>
    simp only [Progress, main] at progress
    simp only [Complete, main] at complete
    apply joined_created progress.2 _ complete member
    intro other found
    obtain ⟨position, inside, rfl⟩ := List.mem_map.mp found
    have bound := List.mem_range.mp inside
    exact (mem_workers _).mpr (show position < maxProducerSize by omega)
  | joinConsumer index =>
    simp only [Progress, main] at progress
    simp only [Complete, main] at complete
    apply joined_created progress.2 _ complete member
    intro other found
    rcases List.mem_append.mp found with first | second
    · exact List.mem_append_left _ first
    · obtain ⟨position, inside, rfl⟩ := List.mem_map.mp second
      have bound := List.mem_range.mp inside
      exact (mem_workers _).mpr (show position < maxConsumerSize by omega)
  | destroy | leaving | exited =>
    simp only [Complete, main] at complete
    exact (complete worker).mpr member

theorem complete_destroyed (books : Books state) (destroyed : state.destroyed = true) :
    Complete state ↔ ∀ worker, state.created worker ↔ worker ∈ state.joins := by
  rcases books.destroyed destroyed with main | main
  · simp only [Complete, main]
  · simp only [Complete, main]

theorem lawful_of_complete (books : Books state) (complete : Complete state) : Lawful state := by
  have late (destroyed : state.destroyed = true) := (complete_destroyed books destroyed).mp complete
  constructor
  · intro worker member
    exact joins_created books.progress complete member
  · exact progress_nodup books.progress
  · intro destroyed worker created
    exact (late destroyed worker).mp created
  · intro destroyed worker runs
    have member := (late destroyed worker).mp (created_of_runs runs)
    rcases books.finished destroyed with ⟨-, joins⟩ | joined
    · rw [joins] at member
      cases member
    · rw [joined.joins] at member
      exact joined.stopped worker member runs
  · by_contra touched
    obtain ⟨destroyed, quit, worker, created⟩ := books.used (by simpa using touched)
    have member := (late destroyed worker).mp created
    rcases books.finished destroyed with ⟨-, joins⟩ | joined
    · rw [joins] at member
      cases member
    · rw [joined.quit] at quit
      cases quit

theorem complete_of_lawful (books : Books state) (destroyed : state.destroyed = true)
    (lawful : Lawful state) : Complete state := by
  rw [complete_destroyed books destroyed]
  intro worker
  exact ⟨lawful.joined destroyed worker, lawful.created worker⟩

theorem lawful_iff_only_first_fails (labels : List Label) (state : State)
    (path : machine.Path Machine.anyStep start labels state) :
    (machine.Path OnlyFirstFails start labels state → Lawful state) ∧
      (state.destroyed = true →
        (Lawful state ↔ machine.Path OnlyFirstFails start labels state)) := by
  have books := path.keeps books_step books_start
  have exactly : Complete state ↔ machine.Path OnlyFirstFails start labels state := by
    have within := path.iff_guarded_within books_step
      (fun _ _ _ books moved => complete_step books moved) books_start
    rw [within]
    simp [Complete, start]
  constructor
  · intro first
    exact lawful_of_complete books (exactly.mpr first)
  · intro destroyed
    rw [← exactly]
    exact ⟨complete_of_lawful books destroyed, lawful_of_complete books⟩

def quitRun : List Label :=
  List.replicate 13 (.main true) ++ workers.map (.thread · true) ++
    List.replicate 11 (.main true)

theorem lawful_iff_only_first_fails_quit :
    ∃ state, machine.run start quitRun = some state ∧ state.destroyed = true ∧
      state.joins = workers ∧ Lawful state := by
  have completed : machine.run start quitRun = some _ := rfl
  refine ⟨_, completed, rfl, rfl, ?_⟩
  have succeed (label : Label) (member : label ∈ quitRun) : label ≠ .main false := by
    simp only [quitRun, List.mem_append, List.mem_replicate, List.mem_map] at member
    rcases member with (⟨-, rfl⟩ | ⟨worker, -, rfl⟩) | ⟨-, rfl⟩ <;> simp
  have created := Machine.path_of_labels succeed completed
  have lawful := lawful_iff_only_first_fails quitRun _ (Machine.path_of_run completed)
  exact lawful.1 (created.weaken fun _ _ _ _ succeeds _ fails => absurd fails.1 succeeds)

-- The second producer is not created, and main destroys the semaphore of the first.
def secondFails : List Label := [.main true, .main true, .main false, .main true]

theorem destroyed_under_producer :
    ¬ ∀ state, machine.Reachable state → Lawful state := by
  intro lawful
  have completed : machine.run start secondFails = some _ := rfl
  have ends := lawful _ (Machine.reachable_of_run rfl completed)
  exact ends.terminated rfl (.producer 0) ⟨.head, rfl⟩

end Semaphore
