import LinuxTutorial.Ipc.Semaphore
import Mathlib.Data.List.Nodup

set_option autoImplicit false

namespace Semaphore

open Transition

def workers : List Worker :=
  (List.range maxProducerSize).map .producer ++ (List.range maxConsumerSize).map .consumer

variable {state next : State}

structure ThreadMoves (state next : State) (worker : Worker) : Prop where
  runs : state.runs worker
  main : next.main = state.main
  quit : next.quit = state.quit
  joins : next.joins = state.joins
  destroyed : next.destroyed = state.destroyed
  created : ∀ other, next.created other ↔ state.created other
  running : ∀ other, next.runs other → state.runs other
  used : next.usedDestroyed = true → state.usedDestroyed = true ∨ state.destroyed = true

theorem processThread_present {worker : Worker} {quit ok : Bool} {sem after : Nat} {phase : Phase}
    {later : Thread} (called : processThread worker quit sem ok phase = some (later, after)) :
    later ≠ .absent := by
  rintro rfl
  cases worker with
  | producer index =>
    simp only [processThread] at called
    cases phase <;> grind [producerProcessThread]
  | consumer index =>
    simp only [processThread] at called
    cases phase <;> grind [consumerProcessThread]

theorem threadStep_moves {worker : Worker} {ok : Bool}
    (moved : step state (.thread worker ok) = some next) : ThreadMoves state next worker := by
  simp only [step] at moved
  split at moved
  · rename_i phase stage
    split_ifs at moved
    obtain ⟨⟨later, sem⟩, called, same⟩ := Option.bind_eq_some_iff.mp moved
    cases same
    have present := processThread_present called
    constructor
    · exact ⟨phase, stage⟩
    · rfl
    · rfl
    · rfl
    · rfl
    · intro other
      by_cases same : other = worker
      · simp [State.created, same, present, stage]
      · simp [State.created, same]
    · intro other
      by_cases same : other = worker
      · intro _
        exact ⟨phase, same ▸ stage⟩
      · simp [State.runs, same]
    · intro used
      cases before : state.usedDestroyed with
      | true => exact .inl rfl
      | false => simp_all
  · cases moved

theorem created_start (worker other : Worker) :
    (state.start worker).created other ↔ other = worker ∨ state.created other := by
  by_cases same : other = worker
  · simp [State.created, State.start, same]
  · simp [State.created, State.start, same]

theorem join_step {worker : Worker} {joined : State} (moved : state.join worker = some joined) :
    ¬ state.runs worker ∧ joined = { state with joins := state.joins ++ [worker] } := by
  unfold State.join at moved
  split at moved
  · cases moved
  · rename_i stopped
    cases moved
    refine ⟨?_, rfl⟩
    rintro ⟨phase, stage⟩
    exact stopped phase stage

theorem created_of_runs {worker : Worker} (runs : state.runs worker) : state.created worker := by
  obtain ⟨phase, stage⟩ := runs
  simp [State.created, stage]

theorem mem_workers (worker : Worker) :
    worker ∈ workers ↔
      match worker with
      | .producer index => index < maxProducerSize
      | .consumer index => index < maxConsumerSize := by
  cases worker with
  | producer index => simp [workers]
  | consumer index => simp [workers]

theorem nodup_producers (size : Nat) : ((List.range size).map Worker.producer).Nodup := by
  apply List.Nodup.map
  · intro one other same
    exact Worker.producer.inj same
  · exact List.nodup_range

theorem nodup_consumers (size : Nat) : ((List.range size).map Worker.consumer).Nodup := by
  apply List.Nodup.map
  · intro one other same
    exact Worker.consumer.inj same
  · exact List.nodup_range

theorem nodup_joined (size : Nat) :
    ((List.range maxProducerSize).map Worker.producer ++
      (List.range size).map Worker.consumer).Nodup := by
  apply List.Nodup.append (nodup_producers _) (nodup_consumers _)
  intro worker one other
  obtain ⟨index, _, rfl⟩ := List.mem_map.mp one
  simp at other

inductive MainMoves (state : State) : Bool → State → Prop
  | inited (main : state.main = .init) :
      MainMoves state true { state with quit := false, sem := 1, main := .startProducer 0 }
  | initFailed (main : state.main = .init) : MainMoves state false { state with main := .exited }
  | producerStarted {index : Nat} (main : state.main = .startProducer index)
      (inside : index < maxProducerSize) :
      MainMoves state true
        { state.start (.producer index) with main := .startProducer (index + 1) }
  | producerFailed {index : Nat} (main : state.main = .startProducer index)
      (inside : index < maxProducerSize) : MainMoves state false { state with main := .destroy }
  | producersStarted {index : Nat} (ok : Bool) (main : state.main = .startProducer index)
      (through : ¬ index < maxProducerSize) :
      MainMoves state ok { state with main := .startConsumer 0 }
  | consumerStarted {index : Nat} (main : state.main = .startConsumer index)
      (inside : index < maxConsumerSize) :
      MainMoves state true
        { state.start (.consumer index) with main := .startConsumer (index + 1) }
  | consumerFailed {index : Nat} (main : state.main = .startConsumer index)
      (inside : index < maxConsumerSize) :
      MainMoves state false { state with main := .startConsumer (index + 1) }
  | consumersStarted {index : Nat} (ok : Bool) (main : state.main = .startConsumer index)
      (through : ¬ index < maxConsumerSize) :
      MainMoves state ok { state with main := .getchar }
  | otherRead (main : state.main = .getchar) : MainMoves state false state
  | quitRead (main : state.main = .getchar) : MainMoves state true { state with main := .setQuit }
  | quitSet (ok : Bool) (main : state.main = .setQuit) :
      MainMoves state ok { state with quit := true, main := .joinProducer 0 }
  | producerJoined {index : Nat} (ok : Bool) (main : state.main = .joinProducer index)
      (inside : index < maxProducerSize) (stopped : ¬ state.runs (.producer index)) :
      MainMoves state ok
        { state with joins := state.joins ++ [.producer index], main := .joinProducer (index + 1) }
  | producersJoined {index : Nat} (ok : Bool) (main : state.main = .joinProducer index)
      (through : ¬ index < maxProducerSize) :
      MainMoves state ok { state with main := .joinConsumer 0 }
  | consumerJoined {index : Nat} (ok : Bool) (main : state.main = .joinConsumer index)
      (inside : index < maxConsumerSize) (stopped : ¬ state.runs (.consumer index)) :
      MainMoves state ok
        { state with joins := state.joins ++ [.consumer index], main := .joinConsumer (index + 1) }
  | consumersJoined {index : Nat} (ok : Bool) (main : state.main = .joinConsumer index)
      (through : ¬ index < maxConsumerSize) : MainMoves state ok { state with main := .destroy }
  | semDestroyed (ok : Bool) (main : state.main = .destroy) :
      MainMoves state ok { state with destroyed := true, main := .leaving }
  | returned (ok : Bool) (main : state.main = .leaving) :
      MainMoves state ok { state with main := .exited }

theorem mainStep_moves {ok : Bool} (moved : mainStep state ok = some next) :
    MainMoves state ok next := by
  cases main : state.main with
  | init =>
    simp only [mainStep, main, Option.some.injEq] at moved
    cases ok <;> cases moved
    · exact .initFailed main
    · exact .inited main
  | startProducer index =>
    simp only [mainStep, main, startProducer, Option.some.injEq] at moved
    split_ifs at moved with inside created <;> cases moved
    · exact created ▸ .producerStarted main inside
    · exact Bool.eq_false_iff.mpr created ▸ .producerFailed main inside
    · exact .producersStarted ok main inside
  | startConsumer index =>
    simp only [mainStep, main, startConsumer, Option.some.injEq] at moved
    split_ifs at moved with inside created <;> cases moved
    · exact created ▸ .consumerStarted main inside
    · exact Bool.eq_false_iff.mpr created ▸ .consumerFailed main inside
    · exact .consumersStarted ok main inside
  | getchar =>
    simp only [mainStep, main, Option.some.injEq] at moved
    cases ok <;> cases moved
    · exact .otherRead main
    · exact .quitRead main
  | setQuit =>
    simp only [mainStep, main, Option.some.injEq] at moved
    exact moved ▸ .quitSet ok main
  | joinProducer index =>
    simp only [mainStep, main] at moved
    split_ifs at moved with inside
    · obtain ⟨after, join, rfl⟩ := Option.map_eq_some_iff.mp moved
      obtain ⟨stopped, rfl⟩ := join_step join
      exact .producerJoined ok main inside stopped
    · cases moved
      exact .producersJoined ok main inside
  | joinConsumer index =>
    simp only [mainStep, main] at moved
    split_ifs at moved with inside
    · obtain ⟨after, join, rfl⟩ := Option.map_eq_some_iff.mp moved
      obtain ⟨stopped, rfl⟩ := join_step join
      exact .consumerJoined ok main inside stopped
    · cases moved
      exact .consumersJoined ok main inside
  | destroy =>
    simp only [mainStep, main, Option.some.injEq] at moved
    exact moved ▸ .semDestroyed ok main
  | leaving =>
    simp only [mainStep, main, Option.some.injEq] at moved
    exact moved ▸ .returned ok main
  | exited => simp [mainStep, main] at moved

theorem MainMoves.frame {ok : Bool} (moves : MainMoves state ok next) :
    next.usedDestroyed = state.usedDestroyed ∧
      (next.destroyed = state.destroyed ∨ next.main = .leaving) := by
  cases moves <;> simp [State.start]

theorem MainMoves.after_destroy {ok : Bool} (moves : MainMoves state ok next)
    (late : state.main = .leaving ∨ state.main = .exited) :
    next = { state with main := .exited } := by
  cases moves <;> simp_all

end Semaphore
