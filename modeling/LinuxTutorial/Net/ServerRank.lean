import LinuxTutorial.Net.HeldThreads
import LinuxTutorial.Shared.Progress
import LinuxTutorial.Shared.Totals

set_option autoImplicit false

namespace Net

open DescriptorTable Totals Transition

variable {server : Server} {state : State}

def Phase.remaining : Phase → Nat
  | .sslNew => 8
  | .sslSetFd => 7
  | .sslAccept | .receive => 6
  | .top => 5
  | .sslShutdown => 4
  | .sslFree => 3
  | .close => 2
  | .free => 1
  | .ended => 0

def Stage.remaining : Stage → Nat
  | .held => 12
  | .allocated => 11
  | .closing => 10
  | .freeing => 9
  | .thread phase => phase.remaining
  | .released | .dropped _ => 0

def Main.remaining : Main → Nat
  | .accept => 19
  | .socket => 9
  | .bind => 8
  | .listen => 7
  | .abandon | .setup _ => 6
  | .sleep => 5
  | .head => 4
  | .closeServer => 3
  | .freeContext => 2
  | .leaving => 1
  | .returned => 0

def sessionsRemaining (sessions : List Session) : Nat := (sessions.map (·.stage.remaining)).sum

def remaining (state : State) : Nat := state.main.remaining + sessionsRemaining state.sessions

theorem sessionsRemaining_set {sessions : List Session} {index : Nat} {old : Session}
    (known : sessions[index]? = some old) (new : Session) :
    sessionsRemaining (sessions.set index new) + old.stage.remaining =
      sessionsRemaining sessions + new.stage.remaining :=
  sum_map_set (·.stage.remaining) known new

theorem sessionsRemaining_append (sessions : List Session) (session : Session) :
    sessionsRemaining (sessions ++ [session]) =
      sessionsRemaining sessions + session.stage.remaining := by
  simp only [sessionsRemaining, List.map_append, List.sum_append, List.map_singleton,
    List.sum_singleton]

def Server.Leaves (server : Server) : Prop :=
  ∀ phase result later, server.thread phase true result = some later →
    later.remaining < phase.remaining

theorem tcpServer_leaves : tcpServer.Leaves := by
  intro phase result later called
  cases phase <;> simp [tcpServer, sessionProcessThread] at called
  case receive => split_ifs at called <;> subst called <;> decide
  all_goals subst called; decide

theorem tlsServer_leaves : tlsServer.Leaves := by
  intro phase result later called
  cases phase <;> simp [tlsServer, tlsSessionProcessThread] at called
  case receive => split_ifs at called <;> subst called <;> decide
  case sslAccept => split_ifs at called <;> subst called <;> decide
  all_goals subst called; decide

theorem loopEnd_remaining (server : Server) : server.loopEnd.remaining ≤ 5 := by
  cases sleeps : server.sleeps <;> simp [Server.loopEnd, sleeps, Main.remaining]

theorem entry_remaining (phase : Phase) : phase.remaining ≤ 8 := by
  cases phase <;> decide

theorem SetupMoves.lowers {index : Nat} {session : Session} {ok : Bool} {next : State}
    (moves : SetupMoves server state index session ok next)
    (here : state.main = .setup index) (known : state.sessions[index]? = some session) :
    remaining next < remaining state := by
  have ends := loopEnd_remaining server
  have entry := entry_remaining server.entry
  have place : state.main.remaining = 6 := by rw [here]; rfl
  -- the session that is set up and main together have less to do
  have lower (later : Session) (sessions : next.sessions = state.sessions.set index later)
      (less : next.main.remaining + later.stage.remaining < 6 + session.stage.remaining) :
      remaining next < remaining state := by
    have sum := sessionsRemaining_set known later
    simp only [remaining, sessions, place]
    omega
  cases moves with
  | allocated stage | unwound stage | closed _ stage =>
    refine lower _ rfl ?_
    rw [stage]
    show state.main.remaining + _ < _
    simp [place, Stage.remaining]
  | mallocFailed stage =>
    refine lower _ rfl ?_
    simp [stage, Stage.remaining, Main.remaining]
  | created stage | forgotten stage | freed _ stage =>
    refine lower _ rfl ?_
    rw [stage]
    show server.loopEnd.remaining + _ < _
    simp only [Stage.remaining]
    omega

theorem MainMoves.lowers {ok : Bool} {next : State} (moves : MainMoves server state ok next)
    (quit : state.quit = true) : remaining next < remaining state := by
  have ends := loopEnd_remaining server
  have lower (before after : Main) (here : state.main = before) (goes : next.main = after)
      (sessions : next.sessions = state.sessions) (less : after.remaining < before.remaining) :
      remaining next < remaining state := by
    simp only [remaining, here, goes, sessions]
    omega
  have grows (session : Session) (here : state.main = .accept)
      (sessions : next.sessions = state.sessions ++ [session])
      (less : next.main.remaining + session.stage.remaining < 19) :
      remaining next < remaining state := by
    have place : state.main.remaining = 19 := by rw [here]; rfl
    simp only [remaining, sessions, sessionsRemaining_append, place]
    omega
  cases moves with
  | setUp here known moves => exact moves.lowers here known
  | accepted here =>
    exact grows _ here rfl (by simp [Session.accepted, Stage.remaining, Main.remaining])
  | acceptedZero here =>
    refine grows _ here rfl ?_
    show server.loopEnd.remaining + 0 < 19
    omega
  | notAccepted here =>
    exact lower .accept _ here rfl rfl (show server.loopEnd.remaining < 19 by omega)
  | tested _ here =>
    exact lower .head .closeServer here (by simp [quit]) rfl (by decide)
  | failed here =>
    rcases here with here | here
    · exact lower .bind (if server.closesUnused then .abandon else .returned) here rfl rfl
        (by split_ifs <;> decide)
    · exact lower .listen (if server.closesUnused then .abandon else .returned) here rfl rfl
        (by split_ifs <;> decide)
  | abandoned _ here =>
    exact lower .abandon .returned here rfl (closeServerFd_sessions state) (by decide)
  | closedServer _ here =>
    exact lower .closeServer (if server.tls then .freeContext else .leaving) here rfl
      (closeServerFd_sessions state) (by split_ifs <;> decide)
  | opened here | unopened here => exact lower .socket .bind here rfl rfl (by decide)
  | bound here => exact lower .bind .listen here rfl rfl (by decide)
  | listens here => exact lower .listen .head here rfl rfl (by decide)
  | slept _ here => exact lower .sleep .head here rfl rfl (by decide)
  | freedContext _ here => exact lower .freeContext .leaving here rfl rfl (by decide)
  | left _ here => exact lower .leaving .returned here rfl rfl (by decide)

theorem ThreadMoves.lowers {index : Nat} {session : Session} {phase later : Phase} {next : State}
    (move : ThreadMoves server state index session phase later next) (leaves : server.Leaves)
    (quit : state.quit = true) : remaining next < remaining state := by
  obtain ⟨result, called⟩ := move.called
  have less := leaves phase result later (quit ▸ called)
  have sum := sessionsRemaining_set move.known (session.advance phase later)
  have before : session.stage.remaining = phase.remaining := by rw [move.stage]; rfl
  have after : (session.advance phase later).stage.remaining = later.remaining := rfl
  simp only [remaining, move.main, move.sessions]
  omega

def SetsUp (state : State) : Prop :=
  ∀ index, state.main = .setup index →
    ∃ session, state.sessions[index]? = some session ∧ session.stage.inSetup = true

theorem setsUp_elsewhere {next : State} (away : ∀ index, next.main ≠ .setup index) : SetsUp next :=
  fun index here => absurd here (away index)

theorem loopEnd_away (server : Server) (index : Nat) : server.loopEnd ≠ .setup index := by
  cases sleeps : server.sleeps <;> simp [Server.loopEnd, sleeps]

theorem SetupMoves.setsUp {index : Nat} {session : Session} {ok : Bool} {next : State}
    (moves : SetupMoves server state index session ok next)
    (here : state.main = .setup index) (known : state.sessions[index]? = some session) :
    SetsUp next := by
  have inside : index < state.sessions.length := (List.getElem?_eq_some_iff.mp known).1
  have stays (later : Session) (sessions : next.sessions = state.sessions.set index later)
      (main : next.main = state.main) (busy : later.stage.inSetup = true) : SetsUp next := by
    intro other goes
    obtain rfl : index = other := by simpa [main, here] using goes
    exact ⟨later, by rw [sessions, List.getElem?_set_self inside], busy⟩
  cases moves with
  | allocated | unwound | closed => exact stays _ rfl rfl rfl
  | mallocFailed => exact setsUp_elsewhere (by simp)
  | created | forgotten | freed => exact setsUp_elsewhere (loopEnd_away server)

theorem setsUp_step {label : Label} {next : State} (setsUp : SetsUp state)
    (moved : step server state label = some next) : SetsUp next := by
  cases label with
  | main ok =>
    cases mainStep_moves moved with
    | setUp here known moves => exact moves.setsUp here known
    | accepted =>
      intro index here
      obtain rfl : state.sessions.length = index := by simpa using here
      exact ⟨_, List.getElem?_concat_length, rfl⟩
    | acceptedZero | notAccepted => exact setsUp_elsewhere (loopEnd_away server)
    | tested | failed | closedServer =>
      refine setsUp_elsewhere fun index => ?_
      show ite _ _ _ ≠ _
      split_ifs <;> simp
    | opened | unopened | bound | listens | abandoned | slept | freedContext | left =>
      exact setsUp_elsewhere (by simp)
  | thread index result =>
    obtain ⟨session, phase, later, move⟩ := step_thread moved
    intro other here
    obtain ⟨waiting, known, busy⟩ := setsUp other (move.main ▸ here)
    have different : index ≠ other := by
      rintro rfl
      obtain rfl := Option.some.inj (move.known.symm.trans known)
      simp [move.stage] at busy
    exact ⟨waiting, by rw [move.sessions, List.getElem?_set_ne different, known], busy⟩
  | signal =>
    simp only [step] at moved
    split_ifs at moved
    cases moved
    exact setsUp

def Listens (state : State) : Prop :=
  ∀ fd, lookup state.table fd = some .listener →
    state.serverFd = some fd ∧ state.main.serving = true

theorem Listens.kept {next : State} (listens : Listens state)
    (opens : ∀ fd, lookup next.table fd = some .listener → lookup state.table fd = some .listener)
    (serverFd : next.serverFd = state.serverFd)
    (serving : state.main.serving = true → next.main.serving = true) : Listens next := by
  intro fd found
  obtain ⟨bound, before⟩ := listens fd (opens fd found)
  exact ⟨serverFd.trans bound, serving before⟩

theorem listener_close {table : Table File} {closed fd : Nat}
    (found : lookup (close table closed) fd = some .listener) :
    lookup table fd = some .listener := by
  rw [lookup_close] at found
  split_ifs at found
  exact found

theorem listener_allocate {table : Table File} {index fd : Nat}
    (found : lookup (allocate (.connection index) table) fd = some .listener) :
    lookup table fd = some .listener := by
  rw [lookup_allocate] at found
  split_ifs at found
  · cases found
  · exact found

theorem listens_closeServerFd (listens : Listens state) (fd : Nat) :
    lookup state.closeServerFd.table fd ≠ some .listener := by
  intro found
  cases bound : state.serverFd with
  | none =>
    simp only [State.closeServerFd, bound] at found
    exact absurd (listens fd found).1 (by simp [bound])
  | some server =>
    simp only [State.closeServerFd, bound] at found
    obtain rfl : server = fd :=
      Option.some.inj (bound.symm.trans (listens fd (listener_close found)).1)
    simp [lookup_close] at found

theorem loopEnd_serving (server : Server) : server.loopEnd.serving = true := by
  cases sleeps : server.sleeps <;> simp [Server.loopEnd, sleeps, Main.serving]

theorem SetupMoves.listener {index : Nat} {session : Session} {ok : Bool} {next : State}
    (moves : SetupMoves server state index session ok next) (listens : Listens state) :
    Listens next := by
  have ends := loopEnd_serving server
  cases moves with
  | allocated | unwound => exact listens.kept (fun _ found => found) rfl fun before => before
  | closed => exact listens.kept (fun _ found => listener_close found) rfl fun before => before
  | mallocFailed => exact listens.kept (fun _ found => found) rfl fun _ => rfl
  | created | forgotten | freed => exact listens.kept (fun _ found => found) rfl fun _ => ends

theorem MainMoves.listener {ok : Bool} {next : State} (moves : MainMoves server state ok next)
    (closes : server.closesUnused = true) (orderly : Orderly server state)
    (listens : Listens state) : Listens next := by
  have ends := loopEnd_serving server
  have stays (main : Main) (serving : main.serving = true) :
      Listens { state with main := main } :=
    listens.kept (fun _ found => found) rfl fun _ => serving
  cases moves with
  | setUp _ _ moves => exact moves.listener listens
  | opened here =>
    intro fd found
    refine ⟨?_, rfl⟩
    rw [lookup_allocate] at found
    split_ifs at found with lowest
    · rw [lowest]
    · cases (orderly.fresh here).2 fd _ found
  | unopened here =>
    intro fd found
    cases (orderly.fresh here).2 fd _ found
  | bound | listens | slept => exact stays _ rfl
  | failed => exact stays _ (by simp [closes, Main.serving])
  | tested => exact stays _ (by cases state.quit <;> rfl)
  | notAccepted => exact stays _ ends
  | accepted => exact listens.kept (fun _ found => listener_allocate found) rfl fun _ => rfl
  | acceptedZero => exact listens.kept (fun _ found => listener_allocate found) rfl fun _ => ends
  | abandoned | closedServer =>
    intro fd found
    exact absurd found (listens_closeServerFd listens fd)
  | freedContext _ here =>
    intro fd found
    exact absurd (listens fd found).2 (by simp [here, Main.serving])
  | left _ here =>
    intro fd found
    exact absurd (listens fd found).2 (by simp [here, Main.serving])

theorem listens_threadStep {index : Nat} {session : Session} {phase : Phase} {result : Int}
    {next : State} (listens : Listens state)
    (moved : threadStep server state index session phase result = some next) : Listens next := by
  obtain ⟨later, -, moved⟩ := Option.bind_eq_some_iff.mp moved
  cases phase <;> cases moved
  case close => exact listens.kept (fun _ found => listener_close found) rfl fun before => before
  all_goals exact listens.kept (fun _ found => found) rfl fun before => before

theorem listens_step {label : Label} {next : State} (closes : server.closesUnused = true)
    (orderly : Orderly server state) (listens : Listens state)
    (moved : step server state label = some next) : Listens next := by
  cases label with
  | main ok => exact (mainStep_moves moved).listener closes orderly listens
  | thread index result =>
    obtain ⟨session, -, moved⟩ := Option.bind_eq_some_iff.mp moved
    cases stage : session.stage with
    | thread phase =>
      simp only [stage] at moved
      split_ifs at moved
      exact listens_threadStep listens moved
    | held | allocated | closing | freeing | released | dropped => simp [stage] at moved
  | signal =>
    simp only [step] at moved
    split_ifs at moved
    cases moved
    exact listens

theorem listens_start (inherited : List Bool) : Listens (start server inherited) := by
  intro fd found
  cases (orderly_start server inherited).fresh rfl |>.2 fd _ found

-- The sessions there are, and the one that main may still accept before it looks at the flag.
def admitted (state : State) : Nat := state.sessions.length + if state.main = .accept then 1 else 0

theorem MainMoves.admits {ok : Bool} {next : State} (moves : MainMoves server state ok next)
    (quit : state.quit = true) : admitted next ≤ admitted state := by
  have ends : server.loopEnd ≠ .accept := by
    cases sleeps : server.sleeps <;> simp [Server.loopEnd, sleeps]
  cases moves with
  | setUp here known moves => cases moves <;> simp [admitted, State.setSession, here, ends]
  | accepted here | acceptedZero here | notAccepted here => simp [admitted, here, ends]
  | tested _ here => simp [admitted, quit]
  | failed =>
    cases server.closesUnused <;> simp [admitted]
  | closedServer =>
    cases server.tls <;> simp [admitted]
  | opened | unopened | bound | listens | abandoned | slept | freedContext | left =>
    simp [admitted]

end Net
