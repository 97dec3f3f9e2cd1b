import LinuxTutorial.Sync.LockProgress

set_option autoImplicit false

namespace FileLock

open RecordLock Transition

structure Reading (object pid : Nat) (state : State) : Prop where
  looping : ∃ phase, state.pc pid = .running .reader object phase ∧ phase ≠ .closing
  unsignalled : (state.processes pid).quit = false

/-- Two readers of which one has the lock, and a writer that asks for it. -/
structure Overlap (object writer holder other : Nat) (state : State) : Prop where
  asks : state.pc writer = .running .writer object .locking
  apart : holder ≠ other
  first : Reading object holder state
  second : Reading object other state
  locked : ⟨object, holder, .shared⟩ ∈ state.locks

-- The writer is refused, and one of the two readers goes on.
def Overtakes (writer first second : Nat) (state : State) (label : Label) : Prop :=
  Waiting state writer ∧ (label.ownStep first = true ∨ label.ownStep second = true)

def acquires (state : State) (label : Label) : Nat :=
  match label, state.pc label.pid with
  | .fcntl _ true, .running .reader _ .locking => 1
  | _, _ => 0

variable {object writer holder other : Nat} {state : State}

theorem Overlap.waiting (overlap : Overlap object writer holder other state) :
    Waiting state writer := by
  refine ⟨.writer, object, overlap.asks, ?_⟩
  have foreign : holder ≠ writer := by
    rintro rfl
    obtain ⟨phase, at_, -⟩ := overlap.first.looping
    cases at_.symm.trans overlap.asks
  cases granted : grant state.locks object writer Role.writer.mode with
  | none => rfl
  | some locks =>
    have shared := grantable_spec (grant_cases granted).1 overlap.locked rfl foreign
    cases shared.2

theorem Overlap.free (registered : Registered state)
    (overlap : Overlap object writer holder other state) : ¬ Waiting state other := by
  rintro ⟨role, asked, asking, refused⟩
  obtain ⟨phase, at_, -⟩ := overlap.second.looping
  obtain ⟨rfl, rfl, -⟩ := Pc.running.inj (at_.symm.trans asking)
  have shared (entry : Entry Nat Nat) (member : entry ∈ state.locks)
      (same : entry.object = object) : entry.mode = .shared := by
    by_cases own : entry.owner = holder
    · obtain ⟨holding, held, -⟩ := overlap.first.looping
      have mode := registered.owners entry member
      rw [own, held] at mode
      exact (congrArg Prod.snd (Option.some.inj mode)).symm
    · exact (registered.exclusive _ overlap.locked entry member same.symm (Ne.symm own)).2
  have granted : grantable state.locks object other .shared = true := by
    apply List.all_eq_true.mpr
    intro entry member
    by_cases same : entry.object = object
    · simp [shared entry member same, compatible]
    · simp [same]
  rw [show Role.reader.mode = .shared from rfl, grant, if_pos granted] at refused
  cases refused

theorem advance_processes (pid another : Nat) (role : Role) (phase : Phase) :
    (state.advance role object pid phase).processes another =
      if another = pid then
        { state.processes pid with pc := phase.onward role object (state.processes pid).quit }
      else state.processes another :=
  processes_setPc ..

theorem Reading.advance {pid : Nat} {phase : Phase} (reading : Reading object pid state)
    (at_ : state.pc pid = .running .reader object phase) :
    Reading object pid (state.advance .reader object pid phase) := by
  have own : (state.advance .reader object pid phase).processes pid =
      { state.processes pid with pc := phase.onward .reader object false } := by
    rw [advance_processes, if_pos rfl, reading.unsignalled]
  obtain ⟨here, same, open_⟩ := reading.looping
  obtain ⟨-, -, rfl⟩ := Pc.running.inj (at_.symm.trans same)
  refine ⟨?_, by rw [own]; exact reading.unsignalled⟩
  rw [State.pc, own]
  cases phase with
  | top | locking | critical | unlocking | pausing => exact ⟨_, rfl, by simp⟩
  | closing => exact absurd rfl open_

theorem Reading.stays {pid another : Nat} {role : Role} {phase : Phase}
    (reading : Reading object pid state) (different : pid ≠ another) :
    Reading object pid (state.advance role object another phase) := by
  have same : (state.advance role object another phase).processes pid = state.processes pid := by
    rw [advance_processes, if_neg different]
  exact ⟨by rw [State.pc, same]; exact reading.looping, same ▸ reading.unsignalled⟩

theorem Overlap.advance {phase : Phase} (overlap : Overlap object writer holder other state)
    (at_ : state.pc other = .running .reader object phase) :
    Overlap object writer holder other (state.advance .reader object other phase) := by
  have foreign : writer ≠ other := by
    rintro rfl
    cases at_.symm.trans overlap.asks
  refine ⟨?_, overlap.apart, overlap.first.stays overlap.apart, overlap.second.advance at_, ?_⟩
  · rw [State.pc, advance_processes, if_neg foreign]
    exact overlap.asks
  · have kept : Entry.mk object holder .shared ∈ drop state.locks object other :=
      (mem_drop ..).mpr ⟨overlap.locked, fun same => overlap.apart same.2⟩
    show _ ∈ phase.relocks .reader object state.locks other
    cases phase with
    | top | critical | pausing => exact overlap.locked
    | unlocking | closing => exact kept
    | locking => exact List.mem_cons_of_mem _ kept

def Phase.ahead : Phase → Nat
  | .locking => 0
  | .top => 1
  | .pausing => 2
  | .unlocking => 3
  | .critical => 4
  | .closing => 0

theorem Overlap.step {phase : Phase} (registered : Registered state)
    (overlap : Overlap object writer holder other state)
    (at_ : state.pc other = .running .reader object phase) :
    Overtakes writer holder other state (phase.call other) ∧
      machine.step state (phase.call other) = some (state.advance .reader object other phase) ∧
        Registered (state.advance .reader object other phase) := by
  have move := advances at_ (overlap.free registered)
  exact ⟨⟨overlap.waiting, .inr (ownStep_call other phase)⟩, move,
    preserves_registered _ _ _ registered trivial move⟩

theorem acquires_call {phase : Phase} (at_ : state.pc other = .running .reader object phase) :
    acquires state (phase.call other) = if phase = .locking then 1 else 0 := by
  cases phase <;> simp [acquires, Phase.call, Label.pid, at_]

theorem Overlap.swap (overlap : Overlap object writer holder other state)
    (locked : ⟨object, other, .shared⟩ ∈ state.locks) :
    Overlap object writer other holder state :=
  ⟨overlap.asks, overlap.apart.symm, overlap.second, overlap.first, locked⟩

theorem overlap_relocks {phase : Phase} (registered : Registered state)
    (overlap : Overlap object writer holder other state)
    (at_ : state.pc other = .running .reader object phase) :
    ∃ labels last, machine.Path (Overtakes writer holder other) state labels last ∧
      machine.total acquires state labels = 1 ∧ Registered last ∧
        Overlap object writer other holder last := by
  induction left : phase.ahead generalizing state phase with
  | zero =>
    obtain ⟨allowed, move, after⟩ := overlap.step registered at_
    obtain rfl : phase = .locking := by
      obtain ⟨here, same, open_⟩ := overlap.second.looping
      obtain ⟨-, -, rfl⟩ := Pc.running.inj (at_.symm.trans same)
      cases phase <;> simp [Phase.ahead] at left open_ ⊢
    refine ⟨[_], _, .cons allowed move (.nil _), ?_, after, ?_⟩
    · rw [Machine.total_cons _ _ move, acquires_call at_, if_pos rfl]
      rfl
    · exact (overlap.advance at_).swap List.mem_cons_self
  | succ steps ih =>
    obtain ⟨allowed, move, after⟩ := overlap.step registered at_
    have own : (state.advance .reader object other phase).pc other =
        phase.onward .reader object false := by
      rw [State.pc, advance_processes, if_pos rfl, overlap.second.unsignalled]
    have elsewhere : phase ≠ .locking := by
      rintro rfl
      cases left
    obtain ⟨later, onward, nearer⟩ : ∃ later, phase.onward .reader object false =
        .running .reader object later ∧ later.ahead = steps := by
      cases phase <;> simp [Phase.ahead] at left <;> subst left <;> exact ⟨_, rfl, rfl⟩
    obtain ⟨labels, last, path, once, registered', swapped⟩ :=
      ih after (overlap.advance at_) (own.trans onward) nearer
    refine ⟨_, last, .cons allowed move path, ?_, registered', swapped⟩
    rw [Machine.total_cons _ _ move, acquires_call at_, if_neg elsewhere, once]

theorem overlap_rounds (rounds : Nat) (registered : Registered state)
    (overlap : Overlap object writer holder other state) :
    ∃ labels last, machine.Path (Overtakes writer holder other) state labels last ∧
      machine.total acquires state labels = rounds ∧ Waiting last writer := by
  induction rounds generalizing state holder other with
  | zero => exact ⟨[], state, .nil _, rfl, overlap.waiting⟩
  | succ rounds ih =>
    obtain ⟨phase, at_, -⟩ := overlap.second.looping
    obtain ⟨first, middle, relocked, once, registered', swapped⟩ :=
      overlap_relocks registered overlap at_
    obtain ⟨second, last, path, again, waiting⟩ := ih registered' swapped
    refine ⟨first ++ second, last, relocked.append ?_, ?_, waiting⟩
    · exact path.weaken fun _ _ _ _ allowed => ⟨allowed.1, allowed.2.symm⟩
    · rw [relocked.total_append, once, again, Nat.add_comm]

theorem readers_starve_writer (reached : machine.Reachable state)
    (overlap : Overlap object writer holder other state) (rounds : Nat) :
    ∃ labels last, machine.Path (Overtakes writer holder other) state labels last ∧
      machine.total acquires state labels = rounds ∧ Waiting last writer :=
  overlap_rounds rounds (reachable_registered reached) overlap

def twoReaders : List Label :=
  [.start 0, .register 0, .shmOpen 0 true, .fork 0 (some 1),
    .start 2, .register 2, .shmOpen 2 true, .fork 2 (some 3),
    .test 0, .fcntl 0 true, .test 1]

theorem readers_starve_writer_two :
    ∃ state, machine.run initial twoReaders = some state ∧
      ∀ rounds, ∃ labels last, machine.Path (Overtakes 1 0 2) state labels last ∧
        machine.total acquires state labels = rounds ∧ Waiting last 1 := by
  have completed : machine.run initial twoReaders = some _ := rfl
  have reached := Machine.reachable_of_run rfl completed
  refine ⟨_, completed, readers_starve_writer reached (show Overlap 0 1 0 2 _ from ?_)⟩
  exact ⟨rfl, by decide, ⟨⟨.critical, rfl, by decide⟩, rfl⟩, ⟨⟨.top, rfl, by decide⟩, rfl⟩,
    List.mem_cons_self⟩

end FileLock
