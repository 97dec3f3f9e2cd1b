import LinuxTutorial.Net.AcceptServer

set_option autoImplicit false

namespace Net

open DescriptorTable

def Phase.holdsSock : Phase → Bool
  | .free | .ended => false
  | _ => true

def Phase.holdsRecord : Phase → Bool
  | .ended => false
  | _ => true

def Phase.holdsSsl : Phase → Bool
  | .sslSetFd | .sslAccept | .top | .receive | .sslShutdown | .sslFree => true
  | .sslNew | .close | .free | .ended => false

@[simp] def Stage.holdsSock : Stage → Bool
  | .held | .allocated | .closing | .dropped _ => true
  | .freeing | .released => false
  | .thread phase => phase.holdsSock

@[simp] def Stage.holdsRecord : Stage → Bool
  | .allocated | .closing | .freeing => true
  | .held | .released => false
  | .thread phase => phase.holdsRecord
  | .dropped record => record

@[simp] def Stage.hadRecord : Stage → Bool
  | .held => false
  | .dropped record => record
  | _ => true

@[simp] def Stage.holdsSsl : Stage → Bool
  | .thread phase => phase.holdsSsl
  | _ => false

@[simp] def Stage.hadSsl : Stage → Bool
  | .thread phase => phase ≠ .sslNew
  | _ => false

structure Accounted (server : Server) (session : Session) : Prop where
  closes : session.closes = if session.stage.holdsSock then 0 else 1
  mallocs : session.mallocs = if session.stage.hadRecord then 1 else 0
  frees : session.mallocs = session.frees + if session.stage.holdsRecord then 1 else 0
  sslNews : session.sslNews = if server.tls ∧ session.stage.hadSsl then 1 else 0
  sslFrees : session.sslNews =
    session.sslFrees + if server.tls ∧ session.stage.holdsSsl then 1 else 0

/-- The thread gives up exactly what it releases in `phase` when it goes to `next`. -/
structure Follows (tls : Bool) (phase next : Phase) : Prop where
  sock : next.holdsSock = (phase.holdsSock && phase ≠ .close)
  record : next.holdsRecord = (phase.holdsRecord && phase ≠ .free)
  ssl : tls = true → next.holdsSsl = ((phase.holdsSsl || phase = .sslNew) && phase ≠ .sslFree)
  later : tls = true → next ≠ .sslNew
  plain : tls = false → phase ≠ .sslNew ∧ phase ≠ .sslFree

structure Server.Sound (server : Server) : Prop where
  entry : server.entry = if server.tls then .sslNew else .top
  follows : ∀ phase quit result next, server.thread phase quit result = some next →
    Follows server.tls phase next
  cleansUp : server.cleansUp = true → server.checksMalloc = false

theorem follows_plain {phase next : Phase}
    (moved : phase = .top ∧ (next = .close ∨ next = .receive) ∨
      phase = .receive ∧ (next = .close ∨ next = .top) ∨
      phase = .close ∧ next = .free ∨ phase = .free ∧ next = .ended) :
    Follows false phase next := by
  rcases moved with ⟨rfl, rfl | rfl⟩ | ⟨rfl, rfl | rfl⟩ | ⟨rfl, rfl⟩ | ⟨rfl, rfl⟩ <;>
    constructor <;> simp [Phase.holdsSock, Phase.holdsRecord]

theorem tcpServer_sound : tcpServer.Sound where
  entry := rfl
  follows phase quit result next moved := by
    apply follows_plain
    cases phase <;> cases moved
    case top => cases quit <;> simp
    case receive => split_ifs <;> simp
    case close => simp
    case free => simp
  cleansUp := fun _ => rfl

theorem sockServer_sound : sockServer.Sound where
  entry := rfl
  follows phase quit result next moved := by
    apply follows_plain
    cases phase <;> cases moved
    case top => cases quit <;> simp
    case receive => split_ifs <;> simp
    case close => simp
    case free => simp
  cleansUp := nofun

theorem tlsServer_sound : tlsServer.Sound where
  entry := rfl
  follows phase quit result next moved := by
    cases phase <;> cases moved
    case top => cases quit <;> exact ⟨rfl, rfl, fun _ => rfl, fun _ => by decide, nofun⟩
    case receive =>
      split_ifs <;> exact ⟨rfl, rfl, fun _ => rfl, fun _ => by decide, nofun⟩
    case sslAccept =>
      split_ifs <;> exact ⟨rfl, rfl, fun _ => rfl, fun _ => by decide, nofun⟩
    all_goals exact ⟨rfl, rfl, fun _ => rfl, fun _ => by decide, nofun⟩
  cleansUp := fun _ => rfl

theorem accounted_advance {server : Server} {session : Session} {phase next : Phase}
    (follows : Follows server.tls phase next) (stage : session.stage = .thread phase)
    (accounted : Accounted server session) :
    Accounted server (session.advance phase next) := by
  obtain ⟨closes, mallocs, frees, sslNews, sslFrees⟩ := accounted
  simp only [stage, Stage.holdsSock, Stage.hadRecord, Stage.holdsRecord, Stage.hadSsl,
    Stage.holdsSsl, if_true] at closes mallocs frees sslNews sslFrees
  constructor
  · by_cases closing : phase = .close
    · have released : next.holdsSock = false := by simp [follows.sock, closing]
      have held : phase.holdsSock = true := by rw [closing]; rfl
      rw [if_pos held] at closes
      simp [Session.advance, Stage.holdsSock, closing, released, closes]
    · simp_all [Session.advance, Stage.holdsSock, follows.sock]
  · simpa [Session.advance, Stage.hadRecord] using mallocs
  · by_cases freeing : phase = .free
    · have released : next.holdsRecord = false := by simp [follows.record, freeing]
      have held : phase.holdsRecord = true := by rw [freeing]; rfl
      rw [if_pos held] at frees
      simp [Session.advance, Stage.holdsRecord, freeing, released, frees]
    · simp_all [Session.advance, Stage.holdsRecord, follows.record]
  · cases tls : server.tls with
    | true =>
      have later := follows.later tls
      by_cases starting : phase = .sslNew <;>
        simp_all [Session.advance, Stage.hadSsl]
    | false =>
      have plain := follows.plain tls
      simp_all [Session.advance]
  · cases tls : server.tls with
    | true =>
      have ssl := follows.ssl tls
      by_cases starting : phase = .sslNew
      · simp_all [Session.advance, Stage.holdsSsl, Phase.holdsSsl]
      · by_cases freeing : phase = .sslFree <;>
          simp_all [Session.advance, Stage.holdsSsl, Phase.holdsSsl]
    | false =>
      have plain := follows.plain tls
      simp_all [Session.advance]

structure Books (server : Server) (table : Table File) (sessions : List Session) : Prop where
  connections : ∀ fd index, lookup table fd = some (.connection index) ↔
    ∃ session, sessions[index]? = some session ∧ session.sock = fd ∧
      session.stage.holdsSock = true
  accounted : ∀ (index : Nat) session, sessions[index]? = some session → Accounted server session

variable {server : Server} {table : Table File} {sessions : List Session}

theorem Books.sock (books : Books server table sessions) {index : Nat} {session : Session}
    (known : sessions[index]? = some session) (holds : session.stage.holdsSock = true) :
    lookup table session.sock = some (.connection index) :=
  (books.connections _ _).mpr ⟨session, known, rfl, holds⟩

theorem books_allocate {file : File} (books : Books server table sessions)
    (other : ∀ index, file ≠ .connection index) :
    Books server (allocate file table) sessions where
  connections fd index := by
    rw [lookup_allocate, ← books.connections]
    split_ifs with taken
    · have free := lookup_lowest table
      simp [taken, free, other index]
    · rfl
  accounted := books.accounted

theorem books_close {fd : Nat} (books : Books server table sessions)
    (other : ∀ index, lookup table fd ≠ some (.connection index)) :
    Books server (close table fd) sessions where
  connections closed index := by
    rw [lookup_close, ← books.connections]
    split_ifs with same
    · simp [same, other index]
    · rfl
  accounted := books.accounted

theorem getElem?_setSession (index other : Nat) (session : Session) {old : Session}
    (known : sessions[index]? = some old) :
    (sessions.set index session)[other]? =
      if other = index then some session else sessions[other]? := by
  have inside := (List.getElem?_eq_some_iff.mp known).1
  by_cases same : other = index
  · rw [same, List.getElem?_set_self inside, if_pos rfl]
  · rw [List.getElem?_set_ne fun equal => same equal.symm, if_neg same]

theorem books_accept {session : Session} (books : Books server table sessions)
    (sock : session.sock = lowest table) (holds : session.stage.holdsSock = true)
    (accounted : Accounted server session) :
    Books server (allocate (.connection sessions.length) table) (sessions ++ [session]) where
  connections fd index := by
    rw [lookup_allocate]
    by_cases new : index = sessions.length
    · have absent : ∀ fd, lookup table fd ≠ some (.connection sessions.length) := by
        intro fd open'
        obtain ⟨old, known, _⟩ := (books.connections _ _).mp open'
        simp at known
      subst new
      by_cases taken : fd = lowest table
      · simp only [taken, if_true, List.getElem?_concat_length, Option.some.injEq,
          exists_eq_left', sock, holds, and_self]
      · have different : session.sock ≠ fd := fun same => taken (same.symm.trans sock)
        simp [taken, absent fd, different]
    · have kept : (sessions ++ [session])[index]? = sessions[index]? := by
        rw [List.getElem?_append]
        split_ifs with before
        · rfl
        · have after : sessions[index]? = none := List.getElem?_eq_none (by omega)
          have later : index - sessions.length ≠ 0 := by omega
          simp [after, later]
      rw [kept, ← books.connections]
      by_cases taken : fd = lowest table
      · have free := lookup_lowest table
        have other : sessions.length ≠ index := fun same => new same.symm
        simp [taken, free, other]
      · simp [taken]
  accounted index other known := by
    rcases List.mem_append.mp (List.mem_of_getElem? known) with earlier | last
    · obtain ⟨position, found⟩ := List.getElem?_of_mem earlier
      exact books.accounted position other found
    · rw [List.mem_singleton.mp last]
      exact accounted

theorem books_advance {index : Nat} {old session : Session} (books : Books server table sessions)
    (known : sessions[index]? = some old) (sock : session.sock = old.sock)
    (holds : session.stage.holdsSock = old.stage.holdsSock)
    (accounted : Accounted server session) :
    Books server table (sessions.set index session) where
  connections fd other := by
    rw [books.connections, getElem?_setSession index other session known]
    by_cases same : other = index
    · subst same
      simp only [known, if_true, Option.some.injEq, exists_eq_left', sock, holds]
    · rw [if_neg same]
  accounted other current found := by
    rw [getElem?_setSession index other session known] at found
    split_ifs at found
    · obtain rfl := Option.some.inj found
      exact accounted
    · exact books.accounted other current found

theorem books_release {index : Nat} {old session : Session} (books : Books server table sessions)
    (known : sessions[index]? = some old) (held : old.stage.holdsSock = true)
    (released : session.stage.holdsSock = false) (accounted : Accounted server session) :
    Books server (close table old.sock) (sessions.set index session) where
  connections fd other := by
    have owner := books.sock known held
    rw [lookup_close, getElem?_setSession index other session known]
    by_cases same : other = index
    · subst same
      simp only [if_true, Option.some.injEq, exists_eq_left', released, Bool.false_eq_true,
        and_false, iff_false]
      split_ifs with closed
      · simp
      · intro still
        obtain ⟨current, found, sock, _⟩ := (books.connections _ _).mp still
        obtain rfl := Option.some.inj (known.symm.trans found)
        exact closed sock.symm
    · rw [if_neg same, ← books.connections]
      split_ifs with closed
      · rw [closed, owner]
        have different : index ≠ other := fun equal => same equal.symm
        simp [different]
      · rfl
  accounted other current found := by
    rw [getElem?_setSession index other session known] at found
    split_ifs at found
    · obtain rfl := Option.some.inj found
      exact accounted
    · exact books.accounted other current found

end Net
