import LinuxTutorial.Net.Orderly

set_option autoImplicit false

namespace Net

open DescriptorTable Transition

variable {server : Server} {state : State}

def Stage.isDropped : Stage → Bool
  | .dropped _ => true
  | _ => false

/-- A step after which nobody has something that was acquired. -/
inductive Drops (server : Server) (state : State) : Label → Prop
  -- accept returned 0, which main takes for a failure
  | zero (here : state.main = .accept) (lowest : lowest state.table = 0) :
      Drops server state (.main true)
  -- malloc or pthread_create failed
  | setup (index : Nat) (session : Session) (here : state.main = .setup index)
      (known : state.sessions[index]? = some session)
      (stage : session.stage = .held ∨ session.stage = .allocated)
      (careless : server.cleansUp = false) : Drops server state (.main false)

def NothingDropped (sessions : List Session) : Prop :=
  ∀ session, session ∈ sessions → session.stage.isDropped = false

theorem forall_mem_set {α : Type} {good : α → Prop} {index : Nat} {old new : α} {list : List α}
    (known : list[index]? = some old) (before : good old) :
    (∀ current, current ∈ list.set index new → good current) ↔
      (∀ current, current ∈ list → good current) ∧ good new := by
  have inside := (List.getElem?_eq_some_iff.mp known).1
  constructor
  · intro all
    constructor
    · intro current member
      obtain ⟨position, found⟩ := List.getElem?_of_mem member
      by_cases same : position = index
      · rw [same, known] at found
        obtain rfl := Option.some.inj found
        exact before
      · apply all current
        apply List.mem_of_getElem?
        rw [List.getElem?_set_ne fun equal => same equal.symm]
        exact found
    · exact all new (List.mem_set inside new)
  · rintro ⟨all, kept⟩ current member
    rcases List.mem_or_eq_of_mem_set member with earlier | same
    · exact all current earlier
    · exact same ▸ kept

theorem nothingDropped_set {index : Nat} {old session : Session} {sessions : List Session}
    (known : sessions[index]? = some old) (before : old.stage.isDropped = false) :
    NothingDropped (sessions.set index session) ↔
      NothingDropped sessions ∧ session.stage.isDropped = false :=
  @forall_mem_set Session (·.stage.isDropped = false) index old session sessions known before

theorem not_drops_elsewhere {ok : Bool} (accept : state.main ≠ .accept)
    (setup : ∀ index, state.main ≠ .setup index) : ¬ Drops server state (.main ok) := by
  intro drops
  cases drops with
  | zero here => exact accept here
  | setup index _ here => exact setup index here

theorem drops_setup_iff {index : Nat} {session : Session} {ok : Bool}
    (here : state.main = .setup index) (known : state.sessions[index]? = some session) :
    Drops server state (.main ok) ↔ ok = false ∧ server.cleansUp = false ∧
      (session.stage = .held ∨ session.stage = .allocated) := by
  constructor
  · intro drops
    cases drops with
    | zero accepting => simp [here] at accepting
    | setup other current setup found stage careless =>
      obtain rfl := Main.setup.inj (here.symm.trans setup)
      obtain rfl := Option.some.inj (known.symm.trans found)
      exact ⟨rfl, careless, stage⟩
  · rintro ⟨rfl, careless, stage⟩
    exact .setup index session here known stage careless

theorem SetupMoves.nothingDropped {index : Nat} {session : Session} {ok : Bool} {next : State}
    (moves : SetupMoves server state index session ok next) (sound : server.Sound)
    (here : state.main = .setup index) (known : state.sessions[index]? = some session) :
    NothingDropped next.sessions ↔
      NothingDropped state.sessions ∧ ¬ Drops server state (.main ok) := by
  rw [drops_setup_iff here known]
  cases moves with
  | mallocFailed stage checks =>
    have careless : server.cleansUp = false := by
      cases cleans : server.cleansUp with
      | false => rfl
      | true => simp [sound.cleansUp cleans] at checks
    simp [State.setSession, nothingDropped_set known, stage, Stage.isDropped, careless]
  | unwound stage cleans =>
    simp [State.setSession, nothingDropped_set known, stage, Stage.isDropped, cleans]
  | forgotten stage careless =>
    simp [State.setSession, nothingDropped_set known, stage, Stage.isDropped, careless]
  | allocated stage | created stage | closed ok stage | freed ok stage =>
    simp [State.setSession, nothingDropped_set known, stage, Stage.isDropped]

theorem nothingDropped_append (sessions : List Session) (session : Session) :
    NothingDropped (sessions ++ [session]) ↔
      NothingDropped sessions ∧ session.stage.isDropped = false := by
  simp [NothingDropped, or_imp, forall_and]

theorem MainMoves.nothingDropped {ok : Bool} {next : State}
    (moves : MainMoves server state ok next) (sound : server.Sound) :
    NothingDropped next.sessions ↔
      NothingDropped state.sessions ∧ ¬ Drops server state (.main ok) := by
  cases moves with
  | accepted here positive =>
    have kept : ¬ Drops server state (.main true) := by
      intro drops
      cases drops with
      | zero _ zero => omega
    rw [nothingDropped_append]
    simp [kept, Session.accepted, Stage.isDropped]
  | acceptedZero here zero =>
    have drops : Drops server state (.main true) := .zero here zero
    rw [nothingDropped_append]
    simp [drops, Session.accepted, Stage.isDropped]
  | notAccepted here =>
    have kept : ¬ Drops server state (.main false) := by
      intro drops
      cases drops with
      | setup index _ setup => simp [here] at setup
    simp [kept]
  | setUp here known moves => exact moves.nothingDropped sound here known
  | failed here =>
    have kept : ¬ Drops server state (.main false) := by
      rcases here with here | here <;> exact not_drops_elsewhere (by simp [here]) (by simp [here])
    simp [kept]
  | opened here | unopened here | bound here | listens here | abandoned ok here | tested ok here
  | slept ok here | closedServer ok here | freedContext ok here | left ok here =>
    have kept (ok : Bool) : ¬ Drops server state (.main ok) :=
      not_drops_elsewhere (by simp [here]) (by simp [here])
    simp [kept]

theorem nothingDropped_step {label : Label} {next : State} (sound : server.Sound)
    (moved : step server state label = some next) :
    NothingDropped next.sessions ↔
      NothingDropped state.sessions ∧ ¬ Drops server state label := by
  cases label with
  | main ok => exact (mainStep_moves moved).nothingDropped sound
  | thread index result =>
    have kept : ¬ Drops server state (.thread index result) := by
      intro drops
      cases drops
    obtain ⟨session, phase, later, move⟩ := step_thread moved
    have before : session.stage.isDropped = false := by simp [move.stage, Stage.isDropped]
    rw [move.sessions, nothingDropped_set move.known before]
    simp [kept, Session.advance, Stage.isDropped]
  | signal =>
    have kept : ¬ Drops server state .signal := by
      intro drops
      cases drops
    simp only [step] at moved
    split_ifs at moved
    cases moved
    simp [kept]

theorem lowest_ne_zero (orderly : Orderly server state) (here : state.main = .accept) :
    lowest state.table ≠ 0 := by
  intro zero
  have serving : state.main.serving = true := by simp [here, Main.serving]
  have bound := orderly.bound (by simp [here, Main.listening])
  obtain ⟨file, found, _⟩ := orderly.ground serving bound
  have free := lookup_lowest state.table
  rw [zero, found] at free
  cases free

theorem not_drops {label : Label} (orderly : Orderly server state)
    (careful : server.cleansUp = true) : ¬ Drops server state label := by
  intro drops
  cases drops with
  | zero here least => exact lowest_ne_zero orderly here least
  | setup index _ _ _ _ careless => simp [careful] at careless

def Phase.usesSock : Phase → Bool
  | .sslSetFd | .sslAccept | .receive | .sslShutdown | .close => true
  | _ => false

def Phase.usesRecord : Phase → Bool
  | .top | .ended => false
  | _ => true

def Phase.usesSsl : Phase → Bool
  | .sslSetFd | .sslAccept | .receive | .sslShutdown | .sslFree => true
  | _ => false

structure Owned (server : Server) (state : State) : Prop where
  owner : ∀ fd index, lookup state.table fd = some (.connection index) →
    ∃ session, state.sessions[index]? = some session ∧ session.sock = fd ∧ session.closes = 0 ∧
      (state.main = .setup index ∨ ∃ phase, session.stage = .thread phase)
  unclosed : ∀ (index : Nat) session, state.sessions[index]? = some session →
    session.closes = 0 → lookup state.table session.sock = some (.connection index)
  distinct : ∀ (one two : Nat) first second, state.sessions[one]? = some first →
    state.sessions[two]? = some second → first.closes = 0 → second.closes = 0 →
      first.sock = second.sock → one = two
  once : ∀ session, session ∈ state.sessions →
    session.closes ≤ 1 ∧ session.frees ≤ 1 ∧ session.sslFrees ≤ 1
  finished : ∀ session, session ∈ state.sessions →
    session.stage = .thread .ended ∨ session.stage = .released →
      session.closes = 1 ∧ session.mallocs = 1 ∧ session.frees = 1 ∧
        session.sslFrees = session.sslNews
  ssl : ∀ session, session ∈ state.sessions → session.stage = .thread .ended →
    session.sslFrees = if server.tls then 1 else 0
  -- what a call is given is still there, and still that of the session
  threadUses : ∀ (index : Nat) session phase, state.sessions[index]? = some session →
    session.stage = .thread phase →
      (phase.usesSock = true → lookup state.table session.sock = some (.connection index)) ∧
      (phase.usesRecord = true → session.mallocs = 1 ∧ session.frees = 0) ∧
      (server.tls = true → phase.usesSsl = true → session.sslNews = 1 ∧ session.sslFrees = 0)
  mainUses : ∀ (index : Nat) session, state.sessions[index]? = some session →
    (session.stage = .allocated ∨ session.stage = .closing →
      lookup state.table session.sock = some (.connection index)) ∧
    (session.stage.inSetup = true → session.stage ≠ .held →
      session.mallocs = 1 ∧ session.frees = 0)

theorem accounted_holdsSock {session : Session} (accounted : Accounted server session) :
    session.closes = 0 ↔ session.stage.holdsSock = true := by
  rw [accounted.closes]
  split_ifs with holds
  · exact ⟨fun _ => holds, fun _ => rfl⟩
  · exact ⟨nofun, fun held => absurd held holds⟩

theorem accounted_once {session : Session} (accounted : Accounted server session) :
    session.closes ≤ 1 ∧ session.frees ≤ 1 ∧ session.sslFrees ≤ 1 := by
  obtain ⟨closes, mallocs, frees, sslNews, sslFrees⟩ := accounted
  split_ifs at closes mallocs frees sslNews sslFrees <;> omega

theorem orderly_owned (orderly : Orderly server state) (nothing : NothingDropped state.sessions) :
    Owned server state := by
  have books := orderly.books
  have account (session : Session) (member : session ∈ state.sessions) :
      Accounted server session := by
    obtain ⟨index, known⟩ := List.getElem?_of_mem member
    exact books.accounted index session known
  have unclosed (index : Nat) (session : Session) (known : state.sessions[index]? = some session)
      (unclosed : session.closes = 0) :
      lookup state.table session.sock = some (.connection index) :=
    books.sock known ((accounted_holdsSock (books.accounted index session known)).mp unclosed)
  constructor
  · intro fd index found
    obtain ⟨session, known, sock, holds⟩ := (books.connections fd index).mp found
    have accounted := books.accounted index session known
    refine ⟨session, known, sock, (accounted_holdsSock accounted).mpr holds, ?_⟩
    have kept := nothing session (List.mem_of_getElem? known)
    cases stage : session.stage with
    | thread phase => exact .inr ⟨phase, rfl⟩
    | dropped record => simp [stage, Stage.isDropped] at kept
    | released => simp [stage] at holds
    | held | allocated | closing | freeing =>
      exact .inl (orderly.setup index session known (by simp [stage]))
  · exact unclosed
  · intro one two first second firstKnown secondKnown firstOpen secondOpen same
    have firstOwns := unclosed one first firstKnown firstOpen
    have secondOwns := unclosed two second secondKnown secondOpen
    rw [same, secondOwns] at firstOwns
    simpa using firstOwns.symm
  · intro session member
    exact accounted_once (account session member)
  · intro session member ended
    obtain ⟨closes, mallocs, frees, sslNews, sslFrees⟩ := account session member
    rcases ended with stage | stage <;>
      simp_all [Phase.holdsSock, Phase.holdsRecord, Phase.holdsSsl]
  · intro session member stage
    obtain ⟨closes, mallocs, frees, sslNews, sslFrees⟩ := account session member
    simp_all [Phase.holdsSsl]
  · intro index session phase known stage
    have accounted := books.accounted index session known
    obtain ⟨closes, mallocs, frees, sslNews, sslFrees⟩ := accounted
    refine ⟨fun uses => ?_, fun uses => ?_, fun tls uses => ?_⟩
    · apply books.sock known
      cases phase <;> simp_all [Phase.usesSock, Phase.holdsSock]
    · cases phase <;> simp_all [Phase.usesRecord, Phase.holdsRecord]
    · cases phase <;> simp_all [Phase.usesSsl, Phase.holdsSsl]
  · intro index session known
    have accounted := books.accounted index session known
    obtain ⟨closes, mallocs, frees, sslNews, sslFrees⟩ := accounted
    constructor
    · intro stage
      apply books.sock known
      rcases stage with stage | stage <;> simp [stage]
    · intro busy later
      cases stage : session.stage <;> simp_all

theorem orderly_reachable (sound : server.Sound) (reached : (machine server).Reachable state) :
    Orderly server state := by
  apply reached.holds _ (orderly_preserved sound)
  rintro _ ⟨inherited, rfl⟩
  exact orderly_start server inherited

theorem careful_reachable (sound : server.Sound) (careful : server.cleansUp = true)
    (reached : (machine server).Reachable state) : NothingDropped state.sessions := by
  have both : Orderly server state ∧ NothingDropped state.sessions := by
    apply reached.holds
    · rintro _ ⟨inherited, rfl⟩
      exact ⟨orderly_start server inherited, nofun⟩
    · intro before label after holds _ moved
      have drops : ¬ Drops server before label := not_drops holds.1 careful
      exact ⟨orderly_step sound holds.1 moved,
        (nothingDropped_step sound moved).mpr ⟨holds.2, drops⟩⟩
  exact both.2

theorem session_owns_descriptor (server : Server) (kind : server = tcpServer ∨ server = tlsServer)
    (state : State) (reached : (machine server).Reachable state) : Owned server state := by
  rcases kind with rfl | rfl
  · exact orderly_owned (orderly_reachable tcpServer_sound reached)
      (careful_reachable tcpServer_sound rfl reached)
  · exact orderly_owned (orderly_reachable tlsServer_sound reached)
      (careful_reachable tlsServer_sound rfl reached)

-- Descriptor 0 is closed; the thread of the first client is not created, the second client
-- gets the same descriptor and sends one chunk before it leaves.
def tlsRun : List Label :=
  [.main true, .main true, .main true, .main true, .main true, .main true, .main false, .main true,
    .main true, .main true, .main true, .main true, .main true, .main true, .thread 1 0,
    .thread 1 0, .thread 1 1, .thread 1 0, .thread 1 5, .thread 1 0, .thread 1 0, .thread 1 0,
    .thread 1 0, .thread 1 0]

theorem session_owns_descriptor_tls :
    ∃ state, (machine tlsServer).run (start tlsServer [false, true]) tlsRun = some state ∧
      Owned tlsServer state := by
  refine ⟨_, rfl, ?_⟩
  have completed : (machine tlsServer).run (start tlsServer [false, true]) tlsRun = some _ := rfl
  exact session_owns_descriptor tlsServer (.inr rfl) _
    (Machine.reachable_of_run ⟨[false, true], rfl⟩ completed)

end Net
