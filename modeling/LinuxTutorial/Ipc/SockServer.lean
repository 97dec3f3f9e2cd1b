import LinuxTutorial.Net.Ownership

set_option autoImplicit false

namespace Net

open DescriptorTable Transition

/-- Nothing is open or allocated but what a thread is going to release. -/
structure Balanced (state : State) : Prop where
  descriptors : ∀ fd, (∃ index, lookup state.table fd = some (.connection index)) ↔
    ∃ session phase, session ∈ state.sessions ∧ session.stage = .thread phase ∧
      session.closes = 0 ∧ session.sock = fd
  records : ∀ session, session ∈ state.sessions →
    (session.mallocs = 1 ∧ session.frees = 0 ↔
      ∃ phase, session.stage = .thread phase ∧ session.frees = 0)

-- malloc returns NULL, or pthread_create fails.
def SetupFails (state : State) (label : Label) : Prop :=
  ∃ index session, state.main = .setup index ∧ state.sessions[index]? = some session ∧
    (session.stage = .held ∨ session.stage = .allocated) ∧ label = .main false

variable {server : Server} {state : State}

theorem head_stage {index : Nat} {session : Session} (orderly : Orderly server state)
    (head : state.main = .head) (known : state.sessions[index]? = some session) :
    (∃ phase, session.stage = .thread phase) ∨ session.stage = .released ∨
      ∃ record, session.stage = .dropped record := by
  have settled : ¬ session.stage.inSetup = true := by
    intro busy
    have setup := orderly.setup index session known busy
    rw [head] at setup
    cases setup
  cases stage : session.stage with
  | thread phase => exact .inl ⟨phase, rfl⟩
  | released => exact .inr (.inl rfl)
  | dropped record => exact .inr (.inr ⟨record, rfl⟩)
  | held | allocated | closing | freeing => simp [stage] at settled

theorem balanced_of_nothingDropped (orderly : Orderly server state) (head : state.main = .head)
    (nothing : NothingDropped state.sessions) : Balanced state where
  descriptors fd := by
    have books := orderly.books
    constructor
    · rintro ⟨index, found⟩
      obtain ⟨session, known, sock, holds⟩ := (books.connections fd index).mp found
      have member := List.mem_of_getElem? known
      have accounted := books.accounted index session known
      have unclosed := (accounted_holdsSock accounted).mpr holds
      rcases head_stage orderly head known with ⟨phase, stage⟩ | stage | ⟨record, stage⟩
      · exact ⟨session, phase, member, stage, unclosed, sock⟩
      · simp [stage] at holds
      · have kept := nothing session member
        simp [stage, Stage.isDropped] at kept
    · rintro ⟨session, phase, member, stage, unclosed, sock⟩
      obtain ⟨index, known⟩ := List.getElem?_of_mem member
      have holds := (accounted_holdsSock (books.accounted index session known)).mp unclosed
      exact ⟨index, sock ▸ books.sock known holds⟩
  records session member := by
    obtain ⟨index, known⟩ := List.getElem?_of_mem member
    have accounted := orderly.books.accounted index session known
    obtain ⟨closes, mallocs, frees, sslNews, sslFrees⟩ := accounted
    rcases head_stage orderly head known with ⟨phase, stage⟩ | stage | ⟨record, stage⟩
    · simp_all
    · simp_all
    · have kept := nothing session member
      simp [stage, Stage.isDropped] at kept

theorem nothingDropped_of_balanced (orderly : Orderly server state) (balanced : Balanced state) :
    NothingDropped state.sessions := by
  intro session member
  obtain ⟨index, known⟩ := List.getElem?_of_mem member
  cases stage : session.stage with
  | dropped record =>
    have books := orderly.books
    have owned := books.sock known (by simp [stage])
    obtain ⟨other, phase, otherMember, running, unclosed, sock⟩ :=
      (balanced.descriptors session.sock).mp ⟨index, owned⟩
    obtain ⟨position, found⟩ := List.getElem?_of_mem otherMember
    have holds := (accounted_holdsSock (books.accounted position other found)).mp unclosed
    have shared := books.sock found holds
    rw [sock, owned] at shared
    obtain rfl : index = position := by simpa using shared
    obtain rfl := Option.some.inj (known.symm.trans found)
    rw [stage] at running
    cases running
  | held | allocated | closing | freeing | thread | released => rfl

theorem drops_iff_setupFails {label : Label} (orderly : Orderly sockServer state) :
    Drops sockServer state label ↔ SetupFails state label := by
  constructor
  · intro drops
    cases drops with
    | zero here least => exact absurd least (lowest_ne_zero orderly here)
    | setup index session here known stage careless =>
      exact ⟨index, session, here, known, stage, rfl⟩
  · rintro ⟨index, session, here, known, stage, rfl⟩
    exact .setup index session here known stage rfl

theorem balanced_iff_setups_succeed (inherited : List Bool) (labels : List Label) (state : State)
    (path : (machine sockServer).Path Machine.anyStep (start sockServer inherited) labels state)
    (head : state.main = .head) :
    Balanced state ↔ (machine sockServer).Path (fun state label => ¬ SetupFails state label)
      (start sockServer inherited) labels state := by
  have preserved := orderly_preserved sockServer_sound
  have begins := orderly_start sockServer inherited
  have orderly := path.keeps preserved begins
  have nothing : NothingDropped (start sockServer inherited).sessions := nofun
  -- what is dropped stays dropped, so that the end of a run tells about all its steps
  have dropped := path.iff_guarded fun _ _ _ => nothingDropped_step sockServer_sound
  constructor
  · intro balanced
    have careful := (dropped.mp (nothingDropped_of_balanced orderly balanced)).2
    exact careful.imp preserved
      (fun state label orderly kept fails => kept ((drops_iff_setupFails orderly).mpr fails)) begins
  · intro succeeds
    apply balanced_of_nothingDropped orderly head
    apply dropped.mpr ⟨nothing, _⟩
    exact succeeds.imp preserved
      (fun state label orderly kept drops => kept ((drops_iff_setupFails orderly).mp drops)) begins

def servedRun : List Label :=
  [.main true, .main true, .main true, .main true, .main true, .main true, .main true,
    .thread 0 0, .thread 0 0, .main true, .thread 0 0, .main true, .main true, .main true]

theorem balanced_iff_setups_succeed_served :
    ∃ state, (machine sockServer).run (start sockServer [true]) servedRun = some state ∧
      (Balanced state ↔ (machine sockServer).Path (fun state label => ¬ SetupFails state label)
        (start sockServer [true]) servedRun state) := by
  refine ⟨_, rfl, ?_⟩
  have completed : (machine sockServer).run (start sockServer [true]) servedRun = some _ := rfl
  exact balanced_iff_setups_succeed [true] servedRun _ (Machine.path_of_run completed) rfl

-- malloc returns NULL for the first client: main goes on to its next accept without closing.
def leakRun : List Label :=
  [.main true, .main true, .main true, .main true, .main true, .main false]

theorem failed_malloc_leaks :
    ¬ ∀ state, (machine sockServer).Reachable state → state.main = .head → Balanced state := by
  intro balanced
  have completed : (machine sockServer).run (start sockServer [true]) leakRun = some _ := rfl
  have lawful := balanced _ (Machine.reachable_of_run ⟨[true], rfl⟩ completed) rfl
  obtain ⟨session, phase, member, stage, _⟩ := (lawful.descriptors 2).mp ⟨0, rfl⟩
  obtain rfl := List.mem_singleton.mp member
  cases stage

end Net
