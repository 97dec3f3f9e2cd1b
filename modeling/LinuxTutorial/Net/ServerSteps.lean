import LinuxTutorial.Net.AcceptServer
import Mathlib.Tactic.Cases

set_option autoImplicit false

namespace Net

open DescriptorTable Transition

variable {server : Server} {state : State}

inductive SetupMoves (server : Server) (state : State) (index : Nat) (session : Session) :
    Bool → State → Prop
  | allocated (stage : session.stage = .held) :
      SetupMoves server state index session true
        (state.setSession index { session with stage := .allocated, mallocs := 1 })
  | mallocFailed (stage : session.stage = .held) (checks : server.checksMalloc = true) :
      SetupMoves server state index session false
        { state.setSession index { session with stage := .dropped false } with main := .head }
  | created (stage : session.stage = .allocated) :
      SetupMoves server state index session true
        { state.setSession index { session with stage := .thread server.entry } with
          main := server.loopEnd }
  | unwound (stage : session.stage = .allocated) (cleans : server.cleansUp = true) :
      SetupMoves server state index session false
        (state.setSession index { session with stage := .closing })
  | forgotten (stage : session.stage = .allocated) (careless : server.cleansUp = false) :
      SetupMoves server state index session false
        { state.setSession index { session with stage := .dropped true } with
          main := server.loopEnd }
  | closed (ok : Bool) (stage : session.stage = .closing) :
      SetupMoves server state index session ok
        { state.setSession index
            { session with stage := .freeing, closes := session.closes + 1 } with
          table := close state.table session.sock }
  | freed (ok : Bool) (stage : session.stage = .freeing) :
      SetupMoves server state index session ok
        { state.setSession index
            { session with stage := .released, frees := session.frees + 1 } with
          main := server.loopEnd }

inductive MainMoves (server : Server) (state : State) : Bool → State → Prop
  | opened (here : state.main = .socket) :
      MainMoves server state true
        { state with
          table := allocate .listener state.table
          serverFd := some (lowest state.table)
          main := .bind }
  | unopened (here : state.main = .socket) :
      MainMoves server state false { state with serverFd := none, main := .bind }
  | bound (here : state.main = .bind) (present : state.serverFd.isSome = true) :
      MainMoves server state true { state with main := .listen }
  | listens (here : state.main = .listen) :
      MainMoves server state true { state with main := .head }
  | failed (here : state.main = .bind ∨ state.main = .listen) :
      MainMoves server state false
        { state with main := if server.closesUnused then .abandon else .returned }
  | abandoned (ok : Bool) (here : state.main = .abandon) :
      MainMoves server state ok { state.closeServerFd with main := .returned }
  | tested (ok : Bool) (here : state.main = .head) :
      MainMoves server state ok
        { state with main := if state.quit then .closeServer else .accept }
  | accepted (here : state.main = .accept) (positive : 0 < lowest state.table) :
      MainMoves server state true
        { state with
          table := allocate (.connection state.sessions.length) state.table
          sessions := state.sessions ++ [Session.accepted (lowest state.table) .held]
          main := .setup state.sessions.length }
  | acceptedZero (here : state.main = .accept) (zero : lowest state.table = 0) :
      MainMoves server state true
        { state with
          table := allocate (.connection state.sessions.length) state.table
          sessions := state.sessions ++ [Session.accepted (lowest state.table) (.dropped false)]
          main := server.loopEnd }
  | notAccepted (here : state.main = .accept) :
      MainMoves server state false { state with main := server.loopEnd }
  | setUp {ok : Bool} {index : Nat} {session : Session} {next : State}
      (here : state.main = .setup index) (known : state.sessions[index]? = some session)
      (moves : SetupMoves server state index session ok next) : MainMoves server state ok next
  | slept (ok : Bool) (here : state.main = .sleep) :
      MainMoves server state ok { state with main := .head }
  | closedServer (ok : Bool) (here : state.main = .closeServer) :
      MainMoves server state ok
        { state.closeServerFd with main := if server.tls then .freeContext else .leaving }
  | freedContext (ok : Bool) (here : state.main = .freeContext) :
      MainMoves server state ok
        { state with contextRefs := state.contextRefs - 1, main := .leaving }
  | left (ok : Bool) (here : state.main = .leaving) :
      MainMoves server state ok { state with main := .returned }

theorem setupStep_moves {index : Nat} {session : Session} {ok : Bool} {next : State}
    (moved : setupStep server state index session ok = some next) :
    SetupMoves server state index session ok next := by
  unfold setupStep at moved
  cases stage : session.stage with
  | held =>
    cases ok with
    | true =>
      simp only [stage, if_true, Option.some.injEq] at moved
      exact moved ▸ .allocated stage
    | false =>
      simp only [stage, Bool.false_eq_true, if_false] at moved
      split_ifs at moved with checks
      cases moved
      exact .mallocFailed stage checks
  | allocated =>
    cases ok with
    | true =>
      simp only [stage, if_true, Option.some.injEq] at moved
      exact moved ▸ .created stage
    | false =>
      simp only [stage, Bool.false_eq_true, if_false] at moved
      split_ifs at moved with cleans <;> cases moved
      · exact .unwound stage cleans
      · exact .forgotten stage (Bool.eq_false_iff.mpr cleans)
  | closing =>
    simp only [stage, Option.some.injEq] at moved
    exact moved ▸ .closed ok stage
  | freeing =>
    simp only [stage, Option.some.injEq] at moved
    exact moved ▸ .freed ok stage
  | thread | released | dropped => simp [stage] at moved

theorem mainStep_moves {ok : Bool} {next : State}
    (moved : mainStep server state ok = some next) : MainMoves server state ok next := by
  unfold mainStep at moved
  cases here : state.main with
  | socket =>
    simp only [here] at moved
    cases ok <;> cases moved
    · exact .unopened here
    · exact .opened here
  | bind =>
    cases ok with
    | true =>
      simp only [here, if_true] at moved
      split_ifs at moved with present
      cases moved
      exact .bound here present
    | false =>
      simp only [here, Bool.false_eq_true, if_false, Option.some.injEq] at moved
      exact moved ▸ .failed (.inl here)
  | listen =>
    simp only [here] at moved
    cases ok <;> cases moved
    · exact .failed (.inr here)
    · exact .listens here
  | abandon =>
    simp only [here, Option.some.injEq] at moved
    exact moved ▸ .abandoned ok here
  | head =>
    simp only [here, Option.some.injEq] at moved
    exact moved ▸ .tested ok here
  | accept =>
    cases ok with
    | true =>
      simp only [here, acceptStep, if_true] at moved
      split_ifs at moved with positive <;> cases moved
      · exact .accepted here positive
      · exact .acceptedZero here (by omega)
    | false =>
      simp only [here, Bool.false_eq_true, if_false, Option.some.injEq] at moved
      exact moved ▸ .notAccepted here
  | setup index =>
    simp only [here] at moved
    obtain ⟨session, known, moved⟩ := Option.bind_eq_some_iff.mp moved
    exact .setUp here known (setupStep_moves moved)
  | sleep =>
    simp only [here, Option.some.injEq] at moved
    exact moved ▸ .slept ok here
  | closeServer =>
    simp only [here, Option.some.injEq] at moved
    exact moved ▸ .closedServer ok here
  | freeContext =>
    simp only [here, Option.some.injEq] at moved
    exact moved ▸ .freedContext ok here
  | leaving =>
    simp only [here, Option.some.injEq] at moved
    exact moved ▸ .left ok here
  | returned => simp [here] at moved

def Stage.threadless (stage : Stage) : Prop := ∀ phase, stage ≠ .thread phase

inductive SessionsMove (server : Server) (before : List Session) : List Session → Prop
  | kept : SessionsMove server before before
  | accepted (session : Session) (idle : session.stage.threadless) :
      SessionsMove server before (before ++ [session])
  | setUp (index : Nat) (old session : Session) (known : before[index]? = some old)
      (idle : old.stage.threadless)
      (entry : session.stage.threadless ∨ session.stage = .thread server.entry) :
      SessionsMove server before (before.set index session)

theorem SetupMoves.sessions {index : Nat} {session : Session} {ok : Bool} {next : State}
    (moves : SetupMoves server state index session ok next)
    (known : state.sessions[index]? = some session) :
    SessionsMove server state.sessions next.sessions := by
  have replaced (later : Session) (idle : session.stage.threadless)
      (entry : later.stage.threadless ∨ later.stage = .thread server.entry) :
      SessionsMove server state.sessions (state.sessions.set index later) :=
    .setUp index session later known idle entry
  cases moves with
  | created stage =>
    apply replaced
    · simp [Stage.threadless, stage]
    · exact .inr rfl
  | allocated stage | mallocFailed stage | unwound stage | forgotten stage | closed _ stage
  | freed _ stage =>
    apply replaced
    · simp [Stage.threadless, stage]
    · simp [Stage.threadless]

@[simp] theorem closeServerFd_sessions (state : State) :
    state.closeServerFd.sessions = state.sessions := by
  cases bound : state.serverFd <;> simp [State.closeServerFd, bound]

theorem MainMoves.sessions {ok : Bool} {next : State} (moves : MainMoves server state ok next) :
    SessionsMove server state.sessions next.sessions := by
  cases moves with
  | accepted | acceptedZero =>
    apply SessionsMove.accepted
    simp [Stage.threadless, Session.accepted]
  | setUp here known moves => exact moves.sessions known
  | abandoned | closedServer =>
    rw [closeServerFd_sessions]
    exact .kept
  | opened | unopened | bound | listens | failed | tested | notAccepted | slept | freedContext
  | left => exact .kept

structure ThreadMoves (server : Server) (state : State) (index : Nat) (session : Session)
    (phase later : Phase) (next : State) : Prop where
  known : state.sessions[index]? = some session
  stage : session.stage = .thread phase
  running : state.main ≠ .returned
  called : ∃ result, server.thread phase state.quit result = some later
  sessions : next.sessions = state.sessions.set index (session.advance phase later)
  main : next.main = state.main
  contextRefs : next.contextRefs = state.contextRefs + (if phase = .sslNew then 1 else 0) -
    (if phase = .sslFree then 1 else 0)

theorem step_thread {index : Nat} {result : Int} {next : State}
    (moved : step server state (.thread index result) = some next) :
    ∃ session phase later, ThreadMoves server state index session phase later next := by
  obtain ⟨session, known, moved⟩ := Option.bind_eq_some_iff.mp moved
  cases stage : session.stage with
  | thread phase =>
    simp only [stage] at moved
    split_ifs at moved with ended
    obtain ⟨later, called, moved⟩ := Option.bind_eq_some_iff.mp moved
    refine ⟨session, phase, later, known, stage, ended, ⟨result, called⟩, ?_, ?_, ?_⟩ <;>
      cases phase <;> cases moved <;> simp [State.setSession]
  | held | allocated | closing | freeing | released | dropped => simp [stage] at moved

end Net
