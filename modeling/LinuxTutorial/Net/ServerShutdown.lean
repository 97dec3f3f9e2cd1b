import LinuxTutorial.Net.ServerRank

set_option autoImplicit false

namespace Net

open DescriptorTable Totals Transition

variable {server : Server} {state : State}

structure Quitting (server : Server) (room : Nat) (state : State) : Prop where
  orderly : Orderly server state
  listens : Listens state
  setsUp : SetsUp state
  quit : state.quit = true
  admitted : admitted state ≤ room

def Label.isSignal : Label → Bool
  | .signal => true
  | .main _ | .thread _ _ => false

def unsignalled (_ : State) (label : Label) : Prop := label.isSignal = false

-- The calls that wait for a client, and the signals.
def awaited (state : State) : Label → Bool
  | .main _ => state.main = .accept
  | .thread index _ =>
    match state.sessions[index]?.map Session.stage with
    | some (Stage.thread phase) => phase = .receive ∨ phase = .sslAccept ∨ phase = .sslShutdown
    | _ => false
  | .signal => true

def unaided (state : State) (label : Label) : Prop := awaited state label = false

theorem unaided_unsignalled {label : Label} (own : unaided state label) :
    label.isSignal = false := by
  cases label with
  | main | thread => rfl
  | signal => cases own

theorem mainStep_quit {ok : Bool} {next : State} (moves : MainMoves server state ok next) :
    next.quit = state.quit := by
  have closes : state.closeServerFd.quit = state.quit := by
    cases bound : state.serverFd <;> simp [State.closeServerFd, bound]
  cases moves with
  | setUp _ _ moves => cases moves <;> rfl
  | abandoned | closedServer => exact closes
  | _ => rfl

theorem threadStep_quit {index : Nat} {result : Int} {next : State}
    (moved : step server state (.thread index result) = some next) : next.quit = state.quit := by
  obtain ⟨session, -, moved⟩ := Option.bind_eq_some_iff.mp moved
  cases stage : session.stage with
  | thread phase =>
    simp only [stage] at moved
    split_ifs at moved
    obtain ⟨later, -, moved⟩ := Option.bind_eq_some_iff.mp moved
    cases phase <;> cases moved <;> rfl
  | held | allocated | closing | freeing | released | dropped => simp [stage] at moved

structure Server.Stops (server : Server) : Prop where
  sound : server.Sound
  leaves : server.Leaves
  closes : server.closesUnused = true

theorem quitting_step {room : Nat} {label : Label} {next : State} (stops : server.Stops)
    (quitting : Quitting server room state) (moved : step server state label = some next) :
    Quitting server room next ∧ (label.isSignal = false → remaining next < remaining state) := by
  have orderly := orderly_step stops.sound quitting.orderly moved
  have listens := listens_step stops.closes quitting.orderly quitting.listens moved
  have setsUp := setsUp_step quitting.setsUp moved
  cases label with
  | main ok =>
    have moves := mainStep_moves moved
    have fewer := moves.admits quitting.quit
    exact ⟨⟨orderly, listens, setsUp, (mainStep_quit moves).trans quitting.quit,
      fewer.trans quitting.admitted⟩, fun _ => moves.lowers quitting.quit⟩
  | thread index result =>
    obtain ⟨session, phase, later, move⟩ := step_thread moved
    have same : admitted next = admitted state := by
      simp [admitted, move.sessions, move.main]
    exact ⟨⟨orderly, listens, setsUp, (threadStep_quit moved).trans quitting.quit,
      same.le.trans quitting.admitted⟩, fun _ => move.lowers stops.leaves quitting.quit⟩
  | signal =>
    simp only [step] at moved
    split_ifs at moved
    cases moved
    exact ⟨⟨orderly, listens, setsUp, rfl, quitting.admitted⟩, fun quiet => by cases quiet⟩

theorem quitting_stuck {room : Nat} (quitting : Quitting server room state)
    (stuck : (machine server).Stuck unaided state) :
    state.main = .accept ∨ state.main = .returned := by
  by_cases waits : state.main = .accept
  · exact .inl waits
  · right
    have goes (ok : Bool) : unaided state (.main ok) := decide_eq_false waits
    have fails : mainStep server state false = none := stuck (.main false) (goes false)
    have works : mainStep server state true = none := stuck (.main true) (goes true)
    cases here : state.main with
    | returned => rfl
    | accept => exact absurd here waits
    | setup index =>
      obtain ⟨session, known, busy⟩ := quitting.setsUp index here
      simp only [mainStep, here, known] at works
      cases stage : session.stage <;> simp [stage] at busy
      all_goals simp [setupStep, stage] at works
    | _ => simp [mainStep, here] at fails

theorem quitting_hangs {room : Nat} (stops : server.Stops) (quitting : Quitting server room state)
    (waits : state.main = .accept) :
    ∃ labels last, (machine server).Path unaided state labels last ∧
      (machine server).Stuck unaided last ∧ last.main = .accept := by
  have preserved : (machine server).Preserves unaided
      (fun state => Quitting server room state ∧ state.main = .accept) := by
    rintro state label next ⟨quitting, waits⟩ own moved
    refine ⟨(quitting_step stops quitting moved).1, ?_⟩
    cases label with
    | main ok => simp [unaided, awaited, waits] at own
    | thread index result =>
      obtain ⟨session, phase, later, move⟩ := step_thread moved
      exact move.main.trans waits
    | signal => cases own
  have helped (state : State) (holds : Quitting server room state ∧ state.main = .accept)
      (going : ¬ (machine server).Stuck unaided state) :
      ∃ label next, unaided state label ∧ (machine server).step state label = some next ∧
        remaining next < remaining state := by
    simp only [Machine.Stuck, not_forall] at going
    obtain ⟨label, own, enabled⟩ := going
    obtain ⟨next, moved⟩ := Option.ne_none_iff_exists'.mp enabled
    exact ⟨label, next, own, moved,
      (quitting_step stops holds.1 moved).2 (unaided_unsignalled own)⟩
  obtain ⟨labels, last, path, stuck⟩ := Machine.leads_to remaining
    ((machine server).Stuck unaided) preserved helped state ⟨quitting, waits⟩
  exact ⟨labels, last, path, stuck, (path.keeps preserved ⟨quitting, waits⟩).2⟩

theorem sessionsRemaining_le (sessions : List Session) :
    sessionsRemaining sessions ≤ 12 * sessions.length := by
  have each (stage : Stage) : stage.remaining ≤ 12 := by
    cases stage with
    | thread phase => exact (entry_remaining phase).trans (by omega)
    | held | allocated | closing | freeing | released | dropped => simp [Stage.remaining]
  have bound := List.sum_le_card_nsmul (sessions.map (·.stage.remaining)) 12 fun value member => by
    obtain ⟨session, -, rfl⟩ := List.mem_map.mp member
    exact each session.stage
  simpa [sessionsRemaining, Nat.mul_comm] using bound

theorem main_remaining_le (main : Main) : main.remaining ≤ 19 := by
  cases main <;> simp [Main.remaining]

theorem reachable_quitting (stops : server.Stops) (reached : (machine server).Reachable state)
    (quit : state.quit = true) : Quitting server (admitted state) state := by
  have invariant : Orderly server state ∧ Listens state ∧ SetsUp state := by
    refine @Machine.ReachableBy.holds State Label (machine server) Machine.anyStep
      (fun state => Orderly server state ∧ Listens state ∧ SetsUp state) state reached ?_ ?_
    · rintro _ ⟨inherited, rfl⟩
      exact ⟨orderly_start server inherited, listens_start inherited, nofun⟩
    · rintro state label next ⟨orderly, listens, setsUp⟩ _ moved
      exact ⟨orderly_step stops.sound orderly moved,
        listens_step stops.closes orderly listens moved, setsUp_step setsUp moved⟩
  exact ⟨invariant.1, invariant.2.1, invariant.2.2, quit, Nat.le_refl _⟩

theorem stops_of_kind (kind : server = tcpServer ∨ server = tlsServer) : server.Stops := by
  rcases kind with rfl | rfl
  · exact ⟨tcpServer_sound, tcpServer_leaves, rfl⟩
  · exact ⟨tlsServer_sound, tlsServer_leaves, rfl⟩

theorem quitting_server_stops (kind : server = tcpServer ∨ server = tlsServer)
    {last : State} {labels : List Label} (reached : (machine server).Reachable state)
    (quit : state.quit = true) (path : (machine server).Path unsignalled state labels last) :
    labels.length ≤ 19 + 12 * state.sessions.length ∧
      last.sessions.length ≤ state.sessions.length + 1 ∧
      ((machine server).Stuck unaided last →
        last.main = .accept ∨
          last.main = .returned ∧ ∀ fd, lookup last.table fd ≠ some .listener) ∧
      (last.main = .accept →
        ∃ rest hung, (machine server).Path unaided last rest hung ∧
          (machine server).Stuck unaided hung ∧ hung.main = .accept) := by
  have stops := stops_of_kind kind
  have quitting := reachable_quitting stops reached quit
  have preserved : (machine server).Preserves unsignalled (Quitting server (admitted state)) :=
    fun _ _ _ quitting _ moved => (quitting_step stops quitting moved).1
  have bounded := path.bounded preserved
    (fun _ _ _ quitting quiet moved => (quitting_step stops quitting moved).2 quiet) quitting
  have after : Quitting server (admitted state) last := path.keeps preserved quitting
  refine ⟨?_, ?_, fun stuck => ?_, fun waits => quitting_hangs stops after waits⟩
  · have main := main_remaining_le state.main
    have sessions := sessionsRemaining_le state.sessions
    simp only [remaining] at bounded
    omega
  · have room := after.admitted
    simp only [admitted] at room
    split_ifs at room <;> omega
  · rcases quitting_stuck after stuck with waits | returned
    · exact .inl waits
    · refine .inr ⟨returned, fun fd found => ?_⟩
      have serving := (after.listens fd found).2
      simp [returned, Main.serving] at serving

-- The signal comes while main waits in accept and the first client is being served.
def signalledRun : List Label :=
  [.main true, .main true, .main true, .main true, .main true, .main true, .main true, .main true,
    .main true, .thread 0 0, .signal]

def leavingRun : List Label :=
  [.main true, .main true, .thread 0 5, .main true, .main true, .thread 0 0, .thread 1 0,
    .main true, .main true, .thread 1 0, .thread 0 0, .thread 0 0, .thread 1 0, .main true]

theorem returned_stuck (returned : state.main = .returned) :
    (machine server).Stuck unaided state := by
  intro label own
  cases label with
  | main ok => simp [machine, step, mainStep, returned]
  | thread index result =>
    simp only [machine, step, returned, if_true]
    cases state.sessions[index]? with
    | none => rfl
    | some session => cases stage : session.stage <;> simp [stage]
  | signal => cases own

theorem quitting_server_stops_leaving :
    (∃ state last, (machine tcpServer).run (start tcpServer [true]) signalledRun = some state ∧
      (machine tcpServer).run state leavingRun = some last ∧ last.sessions.length = 2 ∧
      ∀ fd, lookup last.table fd ≠ some .listener) ∧
    ∃ state, (machine tcpServer).run (start tcpServer [true]) signalledRun = some state ∧
      ∃ rest hung, (machine tcpServer).Path unaided state rest hung ∧
        (machine tcpServer).Stuck unaided hung ∧ hung.main = .accept := by
  have signalled : (machine tcpServer).run (start tcpServer [true]) signalledRun = some _ := rfl
  have reached : (machine tcpServer).Reachable _ :=
    Machine.reachable_of_run ⟨[true], rfl⟩ signalled
  constructor
  · have quiet : ∀ label, label ∈ leavingRun → label.isSignal = false := by decide
    have ends := quitting_server_stops (.inl rfl) reached rfl
      (Machine.path_of_labels quiet
        (show (machine tcpServer).run _ leavingRun = some _ from rfl))
    refine ⟨_, _, signalled, rfl, rfl, ?_⟩
    have stuck := ends.2.2.1 (returned_stuck rfl)
    rcases stuck with here | closed
    · cases here
    · exact closed.2
  · have waits := quitting_server_stops (.inl rfl) reached rfl (.nil _)
    exact ⟨_, signalled, waits.2.2.2 rfl⟩

end Net
