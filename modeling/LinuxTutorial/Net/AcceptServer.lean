import LinuxTutorial.Shared.DescriptorTable
import LinuxTutorial.Shared.Transition

set_option autoImplicit false

/-!
The three servers are one program with a thread function of its own for each and a few
differences in what main does on a failure. A session is known by the number of its
connection; its counters record the calls made for it.
-/

namespace Net

open DescriptorTable

inductive File where
  | other
  | listener
  | connection (index : Nat)
  deriving DecidableEq

/-- Where the thread of a session is: about to make the call, or at the head of its loop. -/
inductive Phase where
  | sslNew
  | sslSetFd
  | sslAccept
  | top
  | receive
  | sslShutdown
  | sslFree
  | close
  | free
  | ended
  deriving DecidableEq

/-- Who has the session: main on its way to a thread, the thread, nobody after a release, or
nobody although something of it (the descriptor, perhaps also the record) is still there. -/
inductive Stage where
  | held
  | allocated
  | closing
  | freeing
  | thread (phase : Phase)
  | released
  | dropped (record : Bool)
  deriving DecidableEq

structure Session where
  sock : Nat
  stage : Stage
  mallocs : Nat
  closes : Nat
  frees : Nat
  sslNews : Nat
  sslFrees : Nat

inductive Main where
  | socket
  | bind
  | listen
  | abandon
  | head
  | accept
  -- from the return of accept to the end of the if
  | setup (index : Nat)
  | sleep
  | closeServer
  | freeContext
  -- after the last call of main, while the process is still there
  | leaving
  | returned
  deriving DecidableEq

structure Server where
  entry : Phase
  -- the next phase, from g_app_quit and the result of the call
  thread : Phase → Bool → Int → Option Phase
  tls : Bool
  handlesSignals : Bool
  -- on a failure of bind or listen
  closesUnused : Bool
  checksMalloc : Bool
  -- on a failure of pthread_create
  cleansUp : Bool
  sleeps : Bool

structure State where
  table : Table File
  serverFd : Option Nat
  quit : Bool
  main : Main
  sessions : List Session
  contextRefs : Int

/-- `main ok`: main goes on, and a call it makes here succeeds or fails. -/
inductive Label where
  | main (ok : Bool)
  | thread (index : Nat) (result : Int)
  | signal

-- session_process_thread of net/tcp_server.c, process_thread of ipc/sock_server.c
def sessionProcessThread : Phase → Bool → Int → Option Phase
  | .top, quit, _ => some (if quit then .close else .receive)
  | .receive, _, rsize => some (if rsize = -1 then .close else if rsize = 0 then .close else .top)
  | .close, _, _ => some .free
  | .free, _, _ => some .ended
  | _, _, _ => none

def processThread : Phase → Bool → Int → Option Phase
  | .top, quit, _ => some (if quit then .close else .receive)
  | .receive, _, rsize => some (if 0 > rsize then .close else if 0 = rsize then .close else .top)
  | .close, _, _ => some .free
  | .free, _, _ => some .ended
  | _, _, _ => none

-- session_process_thread of net/tls_server.c
def tlsSessionProcessThread : Phase → Bool → Int → Option Phase
  | .sslNew, _, _ => some .sslSetFd
  | .sslSetFd, _, _ => some .sslAccept
  | .sslAccept, _, result => some (if result = -1 then .sslFree else .top)
  | .top, quit, _ => some (if quit then .sslShutdown else .receive)
  | .receive, _, rsize =>
    some (if rsize = -1 then .sslShutdown else if rsize = 0 then .sslShutdown else .top)
  | .sslShutdown, _, _ => some .sslFree
  | .sslFree, _, _ => some .close
  | .close, _, _ => some .free
  | .free, _, _ => some .ended
  | .ended, _, _ => none

def tcpServer : Server where
  entry := .top
  thread := sessionProcessThread
  tls := false
  handlesSignals := true
  closesUnused := true
  checksMalloc := false
  cleansUp := true
  sleeps := true

def tlsServer : Server where
  entry := .sslNew
  thread := tlsSessionProcessThread
  tls := true
  handlesSignals := true
  closesUnused := true
  checksMalloc := false
  cleansUp := true
  sleeps := true

def sockServer : Server where
  entry := .top
  thread := processThread
  tls := false
  handlesSignals := false
  closesUnused := false
  checksMalloc := true
  cleansUp := false
  sleeps := false

def Session.accepted (sock : Nat) (stage : Stage) : Session :=
  { sock := sock, stage := stage, mallocs := 0, closes := 0, frees := 0, sslNews := 0
    sslFrees := 0 }

def Session.advance (session : Session) (phase next : Phase) : Session :=
  { session with
    stage := .thread next
    closes := session.closes + if phase = .close then 1 else 0
    frees := session.frees + if phase = .free then 1 else 0
    sslNews := session.sslNews + if phase = .sslNew then 1 else 0
    sslFrees := session.sslFrees + if phase = .sslFree then 1 else 0 }

-- Closing what socket returned; after a failure that is -1, and close has no effect.
def State.closeServerFd (state : State) : State :=
  match state.serverFd with
  | some fd => { state with table := close state.table fd }
  | none => state

def State.setSession (state : State) (index : Nat) (session : Session) : State :=
  { state with sessions := state.sessions.set index session }

def Server.loopEnd (server : Server) : Main := if server.sleeps then .sleep else .head

def setupStep (server : Server) (state : State) (index : Nat) (session : Session) (ok : Bool) :
    Option State :=
  match session.stage with
  | .held =>
    if ok then
      some (state.setSession index { session with stage := .allocated, mallocs := 1 })
    else if server.checksMalloc then
      some { state.setSession index { session with stage := .dropped false } with main := .head }
    -- malloc succeeds where its result is not looked at
    else none
  | .allocated =>
    if ok then
      some { state.setSession index { session with stage := .thread server.entry } with
        main := server.loopEnd }
    else if server.cleansUp then
      some (state.setSession index { session with stage := .closing })
    else
      some { state.setSession index { session with stage := .dropped true } with
        main := server.loopEnd }
  | .closing =>
    some { state.setSession index
        { session with stage := .freeing, closes := session.closes + 1 } with
      table := close state.table session.sock }
  | .freeing =>
    some { state.setSession index
        { session with stage := .released, frees := session.frees + 1 } with
      main := server.loopEnd }
  | _ => none

-- accept has taken a descriptor, and main goes on if (0 < client_fd).
def acceptStep (server : Server) (state : State) : State :=
  let fd := lowest state.table
  let index := state.sessions.length
  let accepted := { state with table := allocate (.connection index) state.table }
  if 0 < fd then
    { accepted with
      sessions := state.sessions ++ [Session.accepted fd .held]
      main := .setup index }
  else
    { accepted with
      sessions := state.sessions ++ [Session.accepted fd (.dropped false)]
      main := server.loopEnd }

def mainStep (server : Server) (state : State) (ok : Bool) : Option State :=
  let failed := { state with main := if server.closesUnused then .abandon else .returned }
  match state.main with
  | .socket =>
    if ok then
      some { state with
        table := allocate .listener state.table
        serverFd := some (lowest state.table)
        main := .bind }
    else some { state with serverFd := none, main := .bind }
  -- bind of -1 does not succeed
  | .bind =>
    if ok then
      if state.serverFd.isSome then some { state with main := .listen } else none
    else some failed
  | .listen => some (if ok then { state with main := .head } else failed)
  | .abandon => some { state.closeServerFd with main := .returned }
  | .head => some { state with main := if state.quit then .closeServer else .accept }
  | .accept =>
    some (if ok then acceptStep server state else { state with main := server.loopEnd })
  | .setup index => do
    let session ← state.sessions[index]?
    setupStep server state index session ok
  | .sleep => some { state with main := .head }
  | .closeServer =>
    some { state.closeServerFd with main := if server.tls then .freeContext else .leaving }
  | .freeContext => some { state with contextRefs := state.contextRefs - 1, main := .leaving }
  | .leaving => some { state with main := .returned }
  | .returned => none

def threadStep (server : Server) (state : State) (index : Nat) (session : Session) (phase : Phase)
    (result : Int) : Option State := do
  let next ← server.thread phase state.quit result
  let moved := state.setSession index (session.advance phase next)
  match phase with
  | .close => some { moved with table := close state.table session.sock }
  | .sslNew => some { moved with contextRefs := state.contextRefs + 1 }
  | .sslFree => some { moved with contextRefs := state.contextRefs - 1 }
  | _ => some moved

def step (server : Server) (state : State) : Label → Option State
  | .main ok => mainStep server state ok
  | .thread index result => do
    let session ← state.sessions[index]?
    match session.stage with
    -- the threads end with the process
    | .thread phase =>
      if state.main = .returned then none else threadStep server state index session phase result
    | _ => none
  | .signal => if server.handlesSignals then some { state with quit := true } else none

-- `inherited`: which descriptors are open when main starts.
def start (server : Server) (inherited : List Bool) : State where
  table := inherited.map fun taken => if taken then some .other else none
  serverFd := none
  quit := false
  main := .socket
  sessions := []
  contextRefs := if server.tls then 1 else 0

def machine (server : Server) : Transition.Machine State Label where
  initial state := ∃ inherited, state = start server inherited
  step := step server

end Net
