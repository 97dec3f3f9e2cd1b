import LinuxTutorial.Net.Books
import LinuxTutorial.Net.ServerSteps

set_option autoImplicit false

namespace Net

open DescriptorTable Transition

def Main.serving : Main → Bool
  | .socket | .freeContext | .leaving | .returned => false
  | _ => true

def Main.listening : Main → Bool
  | .listen | .head | .accept | .setup _ | .sleep | .closeServer => true
  | _ => false

@[simp] def Stage.inSetup : Stage → Bool
  | .held | .allocated | .closing | .freeing => true
  | _ => false

structure Orderly (server : Server) (state : State) : Prop where
  books : Books server state.table state.sessions
  fresh : state.main = .socket →
    state.sessions = [] ∧ ∀ fd file, lookup state.table fd = some file → file = .other
  bound : state.main.listening = true → state.serverFd.isSome = true
  listener : ∀ fd, state.main.serving = true → state.serverFd = some fd →
    lookup state.table fd = some .listener
  -- descriptor 0 was taken by the start of the program, or by socket
  ground : state.main.serving = true → state.serverFd.isSome = true →
    ∃ file, lookup state.table 0 = some file ∧ ∀ index, file ≠ .connection index
  setup : ∀ (index : Nat) session, state.sessions[index]? = some session →
    session.stage.inSetup = true → state.main = .setup index

variable {server : Server} {state : State}

theorem orderly_goto {main : Main} (orderly : Orderly server state) (away : main ≠ .socket)
    (serving : main.serving = true → state.main.serving = true)
    (bound : main.listening = true → state.serverFd.isSome = true)
    (settled : ∀ index, state.main ≠ .setup index) :
    Orderly server { state with main := main } where
  books := orderly.books
  fresh same := absurd same away
  bound := bound
  listener fd here := orderly.listener fd (serving here)
  ground here := orderly.ground (serving here)
  setup index session known busy :=
    absurd (orderly.setup index session known busy) (settled index)

def KeepsOthers (before after : Table File) : Prop :=
  ∀ fd file, (∀ index, file ≠ .connection index) → lookup before fd = some file →
    lookup after fd = some file

theorem keepsOthers_close {table : Table File} {fd index : Nat}
    (connection : lookup table fd = some (.connection index)) :
    KeepsOthers table (close table fd) := by
  intro other file plain found
  rw [lookup_close]
  split_ifs with same
  · rw [same, connection] at found
    exact absurd (Option.some.inj found).symm (plain index)
  · exact found

theorem keepsOthers_allocate (table : Table File) (file : File) :
    KeepsOthers table (allocate file table) := by
  intro fd present _ found
  rw [lookup_allocate]
  split_ifs with taken
  · rw [taken, lookup_lowest] at found
    cases found
  · exact found

theorem orderly_update {table : Table File} {main : Main} {contextRefs : Int} {index : Nat}
    {old session : Session} (orderly : Orderly server state)
    (known : state.sessions[index]? = some old)
    (books : Books server table (state.sessions.set index session))
    (keeps : KeepsOthers state.table table)
    (moved : main = state.main ∨ (state.main = .setup index ∧ main.listening = true))
    (busy : session.stage.inSetup = true → main = .setup index) :
    Orderly server
      { state with
        table := table, main := main, sessions := state.sessions.set index session
        contextRefs := contextRefs } where
  books := books
  fresh socket := by
    have started : state.main = .socket := by
      rcases moved with same | ⟨_, listening⟩
      · exact same ▸ socket
      · simp [show main = .socket from socket, Main.listening] at listening
    simp [(orderly.fresh started).1] at known
  bound listening := by
    apply orderly.bound
    rcases moved with same | ⟨setup, _⟩
    · exact same ▸ listening
    · simp [setup, Main.listening]
  listener fd serving found := by
    apply keeps fd .listener (by simp)
    apply orderly.listener fd _ found
    rcases moved with same | ⟨setup, _⟩
    · exact same ▸ serving
    · simp [setup, Main.serving]
  ground serving bound := by
    have before : state.main.serving = true := by
      rcases moved with same | ⟨setup, _⟩
      · exact same ▸ serving
      · simp [setup, Main.serving]
    obtain ⟨file, found, plain⟩ := orderly.ground before bound
    exact ⟨file, keeps 0 file plain found, plain⟩
  setup other current found inSetup := by
    have found : (state.sessions.set index session)[other]? = some current := found
    rw [getElem?_setSession index other session known] at found
    split_ifs at found with same
    · obtain rfl := Option.some.inj found
      rw [same]
      exact busy inSetup
    · have before := orderly.setup other current found inSetup
      rcases moved with unmoved | ⟨setup, _⟩
      · exact unmoved.trans before
      · rw [setup] at before
        exact absurd (Main.setup.inj before).symm same

theorem orderly_start (server : Server) (inherited : List Bool) :
    Orderly server (start server inherited) where
  books :=
    { connections := fun fd index => by
        simp only [start, lookup, List.getElem?_map]
        cases inherited[fd]? with
        | none => simp
        | some taken => cases taken <;> simp
      accounted := fun index session known => by simp [start] at known }
  fresh _ := by
    constructor
    · rfl
    · intro fd file found
      simp only [start, lookup, List.getElem?_map] at found
      cases taken : inherited[fd]? with
      | none => simp [taken] at found
      | some bit => cases bit <;> simp_all
  bound := nofun
  listener := nofun
  ground := nofun
  setup index session known := by simp [start] at known

@[simp] theorem loopEnd_listening (server : Server) : server.loopEnd.listening = true := by
  unfold Server.loopEnd
  split_ifs <;> rfl

theorem books_connection {table : Table File} {sessions : List Session} {index : Nat}
    {session : Session} (books : Books server table sessions)
    (known : sessions[index]? = some session) (holds : session.stage.holdsSock = true) :
    KeepsOthers table (close table session.sock) :=
  keepsOthers_close (books.sock known holds)

theorem orderly_setup_keeps {main : Main} {index : Nat} {old session : Session}
    (orderly : Orderly server state) (here : state.main = .setup index)
    (known : state.sessions[index]? = some old) (accounted : Accounted server session)
    (sock : session.sock = old.sock) (holds : session.stage.holdsSock = old.stage.holdsSock)
    (moved : main = state.main ∨ main.listening = true)
    (busy : session.stage.inSetup = true → main = .setup index) :
    Orderly server { state.setSession index session with main := main } := by
  have books := books_advance orderly.books known sock holds accounted
  apply orderly_update orderly known books (fun _ _ _ found => found) _ busy
  rcases moved with same | listening
  · exact .inl same
  · exact .inr ⟨here, listening⟩

theorem SetupMoves.orderly {index : Nat} {session : Session} {ok : Bool} {next : State}
    (moves : SetupMoves server state index session ok next) (sound : server.Sound)
    (orderly : Orderly server state) (here : state.main = .setup index)
    (known : state.sessions[index]? = some session) : Orderly server next := by
  have leave : server.loopEnd = state.main ∨ server.loopEnd.listening = true := .inr (by simp)
  have account := orderly.books.accounted index session known
  obtain ⟨closes, mallocs, frees, sslNews, sslFrees⟩ := account
  cases moves with
  | allocated stage =>
    have accounted : Accounted server { session with stage := .allocated, mallocs := 1 } := by
      constructor <;> simp_all
    apply orderly_setup_keeps orderly here known accounted rfl _ (.inl rfl) fun _ => here
    simp [stage]
  | mallocFailed stage =>
    have accounted : Accounted server { session with stage := .dropped false } := by
      constructor <;> simp_all
    apply orderly_setup_keeps orderly here known accounted rfl _ (.inr rfl)
      (by simp [Stage.inSetup])
    simp [stage]
  | created stage =>
    have entry := sound.entry
    have accounted : Accounted server { session with stage := .thread server.entry } := by
      cases tls : server.tls <;> constructor <;>
        simp_all [Phase.holdsSock, Phase.holdsRecord, Phase.holdsSsl]
    apply orderly_setup_keeps orderly here known accounted rfl _ leave (by simp [Stage.inSetup])
    cases tls : server.tls <;> simp_all [Phase.holdsSock]
  | unwound stage =>
    have accounted : Accounted server { session with stage := .closing } := by
      constructor <;> simp_all
    apply orderly_setup_keeps orderly here known accounted rfl _ (.inl rfl) fun _ => here
    simp [stage]
  | forgotten stage =>
    have accounted : Accounted server { session with stage := .dropped true } := by
      constructor <;> simp_all
    apply orderly_setup_keeps orderly here known accounted rfl _ leave (by simp [Stage.inSetup])
    simp [stage]
  | closed ok stage =>
    have held : session.stage.holdsSock = true := by simp [stage]
    have accounted :
        Accounted server { session with stage := .freeing, closes := session.closes + 1 } := by
      constructor <;> simp_all
    have released := books_release orderly.books known held rfl accounted
    exact orderly_update orderly known released (books_connection orderly.books known held)
      (.inl rfl) fun _ => here
  | freed ok stage =>
    have accounted :
        Accounted server { session with stage := .released, frees := session.frees + 1 } := by
      constructor <;> simp_all
    apply orderly_setup_keeps orderly here known accounted rfl _ leave (by simp [Stage.inSetup])
    simp [stage]

theorem accounted_accepted (server : Server) (sock : Nat) (stage : Stage)
    (new : stage = .held ∨ stage = .dropped false) :
    Accounted server (Session.accepted sock stage) := by
  rcases new with rfl | rfl <;> constructor <;> simp [Session.accepted]

theorem orderly_accepted {main : Main} {stage : Stage} (orderly : Orderly server state)
    (here : state.main = .accept) (new : stage = .held ∨ stage = .dropped false)
    (moved : main.listening = true)
    (busy : stage.inSetup = true → main = .setup state.sessions.length) :
    Orderly server
      { state with
        table := allocate (.connection state.sessions.length) state.table
        main := main
        sessions := state.sessions ++ [Session.accepted (lowest state.table) stage] } where
  books := by
    apply books_accept orderly.books rfl _ (accounted_accepted server _ stage new)
    rcases new with rfl | rfl <;> rfl
  fresh socket := by simp [show main = .socket from socket, Main.listening] at moved
  bound _ := orderly.bound (by simp [here, Main.listening])
  listener fd _ found :=
    keepsOthers_allocate _ _ fd .listener (by simp)
      (orderly.listener fd (by simp [here, Main.serving]) found)
  ground _ bound := by
    obtain ⟨file, found, plain⟩ := orderly.ground (by simp [here, Main.serving]) bound
    exact ⟨file, keepsOthers_allocate _ _ 0 file plain found, plain⟩
  setup index session known inSetup := by
    have known : (state.sessions ++ [Session.accepted _ stage])[index]? = some session := known
    rw [List.getElem?_append] at known
    split_ifs at known with before
    · have before := orderly.setup index session known inSetup
      rw [here] at before
      cases before
    · obtain ⟨last, same⟩ : index - state.sessions.length = 0 ∧
          Session.accepted (lowest state.table) stage = session := by
        simpa [List.getElem?_singleton] using known
      subst same
      have position : index = state.sessions.length := by omega
      rw [position]
      exact busy inSetup

theorem orderly_socket (orderly : Orderly server state) (here : state.main = .socket) :
    Orderly server
      { state with
        table := allocate .listener state.table
        serverFd := some (lowest state.table)
        main := .bind } := by
  obtain ⟨empty, other⟩ := orderly.fresh here
  constructor
  · exact books_allocate orderly.books nofun
  · nofun
  · simp
  · intro fd _ found
    obtain rfl := Option.some.inj found
    simp [lookup_allocate]
  · intro _ _
    cases zero : lookup state.table 0 with
    | none =>
      exists .listener
      simp [lookup_allocate, lowest_eq_zero zero]
    | some file =>
      exists file
      constructor
      · exact keepsOthers_allocate _ _ 0 file (by simp [other 0 file zero]) zero
      · simp [other 0 file zero]
  · simp [empty]

theorem orderly_closeServerFd {main : Main} (orderly : Orderly server state)
    (serving : state.main.serving = true) (settled : ∀ index, state.main ≠ .setup index)
    (away : main = .freeContext ∨ main = .leaving ∨ main = .returned) :
    Orderly server { state.closeServerFd with main := main } := by
  have inactive : main.serving = false ∧ main.listening = false ∧ main ≠ .socket := by
    rcases away with rfl | rfl | rfl <;> simp [Main.serving, Main.listening]
  have unlistening : main.listening = true → state.serverFd.isSome = true := by
    simp [inactive.2.1]
  have unserving : main.serving = true → state.main.serving = true := by simp [inactive.1]
  unfold State.closeServerFd
  cases bound : state.serverFd with
  | none => exact orderly_goto orderly inactive.2.2 unserving unlistening settled
  | some fd =>
    have mine := orderly.listener fd serving bound
    have left := orderly_goto orderly inactive.2.2 unserving unlistening settled
    constructor
    · exact books_close orderly.books (by simp [mine])
    · intro socket
      exact absurd socket inactive.2.2
    · intro active
      exact absurd active (by simp [inactive.2.1])
    · intro _ active
      simp [inactive.1] at active
    · intro active
      simp [inactive.1] at active
    · exact left.setup

theorem orderly_socketFailed (orderly : Orderly server state) (here : state.main = .socket) :
    Orderly server { state with serverFd := none, main := .bind } where
  books := orderly.books
  fresh := nofun
  bound := nofun
  listener _ _ := nofun
  ground _ := nofun
  setup index session known := by
    have known : state.sessions[index]? = some session := known
    simp [(orderly.fresh here).1] at known

theorem MainMoves.orderly {ok : Bool} {next : State} (moves : MainMoves server state ok next)
    (sound : server.Sound) (orderly : Orderly server state) : Orderly server next := by
  have bound (listening : state.main.listening = true) : state.serverFd.isSome = true :=
    orderly.bound listening
  cases moves with
  | opened here => exact orderly_socket orderly here
  | unopened here => exact orderly_socketFailed orderly here
  | bound here present =>
    exact orderly_goto orderly nofun (by simp [here, Main.serving]) (fun _ => present)
      (by simp [here])
  | listens here =>
    have present := bound (by simp [here, Main.listening])
    exact orderly_goto orderly nofun (by simp [here, Main.serving]) (fun _ => present)
      (by simp [here])
  | failed here =>
    have serving : state.main.serving = true := by
      rcases here with here | here <;> simp [here, Main.serving]
    have settled (index : Nat) : state.main ≠ .setup index := by
      rcases here with here | here <;> simp [here]
    apply orderly_goto orderly _ (fun _ => serving) _ settled
    · split_ifs <;> simp
    · split_ifs <;> simp [Main.listening]
  | abandoned ok here =>
    exact orderly_closeServerFd orderly (by simp [here, Main.serving]) (by simp [here])
      (.inr (.inr rfl))
  | tested ok here =>
    have present := bound (by simp [here, Main.listening])
    apply orderly_goto orderly _ (by simp [here, Main.serving]) (fun _ => present) (by simp [here])
    split_ifs <;> simp
  | accepted here => exact orderly_accepted orderly here (.inl rfl) rfl fun _ => rfl
  | acceptedZero here =>
    exact orderly_accepted orderly here (.inr rfl) (loopEnd_listening server) nofun
  | notAccepted here =>
    have present := bound (by simp [here, Main.listening])
    apply orderly_goto orderly _ (by simp [here, Main.serving]) (fun _ => present) (by simp [here])
    unfold Server.loopEnd
    split_ifs <;> simp
  | setUp here known moves => exact moves.orderly sound orderly here known
  | slept ok here =>
    have present := bound (by simp [here, Main.listening])
    exact orderly_goto orderly nofun (by simp [here, Main.serving]) (fun _ => present)
      (by simp [here])
  | closedServer ok here =>
    apply orderly_closeServerFd orderly (by simp [here, Main.serving]) (by simp [here])
    split_ifs <;> simp
  | freedContext ok here =>
    have left : Orderly server { state with main := .leaving } :=
      orderly_goto orderly nofun nofun nofun (by simp [here])
    exact ⟨left.books, left.fresh, left.bound, left.listener, left.ground, left.setup⟩
  | left ok here => exact orderly_goto orderly nofun nofun nofun (by simp [here])

theorem orderly_threadStep {index : Nat} {session : Session} {phase : Phase} {result : Int}
    {next : State} (sound : server.Sound) (orderly : Orderly server state)
    (known : state.sessions[index]? = some session) (stage : session.stage = .thread phase)
    (moved : threadStep server state index session phase result = some next) :
    Orderly server next := by
  obtain ⟨later, called, moved⟩ := Option.bind_eq_some_iff.mp moved
  have follows := sound.follows phase state.quit result later called
  have books := orderly.books
  have accounted := accounted_advance follows stage (books.accounted index session known)
  have unchanged : KeepsOthers state.table state.table := fun _ _ _ found => found
  by_cases closing : phase = .close
  · subst closing
    cases moved
    have held : session.stage.holdsSock = true := by simp [stage, Phase.holdsSock]
    have released : (session.advance .close later).stage.holdsSock = false := by
      simp [Session.advance, follows.sock]
    exact orderly_update orderly known (books_release books known held released accounted)
      (books_connection books known held) (.inl rfl) (by simp [Session.advance, Stage.inSetup])
  · have holds : (session.advance phase later).stage.holdsSock = session.stage.holdsSock := by
      simp [Session.advance, follows.sock, stage, closing]
    have advanced : Books server state.table
        (state.sessions.set index (session.advance phase later)) :=
      books_advance books known rfl holds accounted
    cases phase
    case close => exact absurd rfl closing
    all_goals
      cases moved
      exact orderly_update orderly known advanced unchanged (.inl rfl)
        (by simp [Session.advance, Stage.inSetup])

theorem orderly_step {label : Label} {next : State} (sound : server.Sound)
    (orderly : Orderly server state) (moved : step server state label = some next) :
    Orderly server next := by
  cases label with
  | main ok => exact (mainStep_moves moved).orderly sound orderly
  | thread index result =>
    obtain ⟨session, known, moved⟩ := Option.bind_eq_some_iff.mp moved
    cases stage : session.stage with
    | thread phase =>
      simp only [stage] at moved
      split_ifs at moved
      exact orderly_threadStep sound orderly known stage moved
    | held | allocated | closing | freeing | released | dropped => simp [stage] at moved
  | signal =>
    simp only [step] at moved
    split_ifs at moved
    cases moved
    exact ⟨orderly.books, orderly.fresh, orderly.bound, orderly.listener, orderly.ground,
      orderly.setup⟩

theorem orderly_preserved (sound : server.Sound) :
    (machine server).Preserves Machine.anyStep (Orderly server) :=
  fun _ _ _ orderly _ moved => orderly_step sound orderly moved

end Net
