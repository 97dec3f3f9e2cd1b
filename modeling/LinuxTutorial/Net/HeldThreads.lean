import LinuxTutorial.Net.Ownership
import Mathlib.Data.List.Count

set_option autoImplicit false

/-!
pthread_create is given no attributes, and none of the three programs joins or detaches the
thread of a session: a thread that was created stays held, also when it has terminated.
-/

namespace Net

open Transition

def Stage.heldThread : Stage → Bool
  | .thread _ => true
  | _ => false

def Stage.runningThread : Stage → Bool
  | .thread phase => phase ≠ .ended
  | _ => false

def heldThreads (state : State) : Nat := state.sessions.countP (·.stage.heldThread)

def runningThreads (state : State) : Nat := state.sessions.countP (·.stage.runningThread)

def ThreadEnds (state : State) (label : Label) : Prop :=
  ∃ index result session, label = .thread index result ∧
    state.sessions[index]? = some session ∧ session.stage = .thread .free

def NoneEnded (sessions : List Session) : Prop :=
  ∀ session, session ∈ sessions → session.stage ≠ .thread .ended

theorem heldThread_of_running {stage : Stage} (running : stage.runningThread = true) :
    stage.heldThread = true := by
  cases stage with
  | thread phase => rfl
  | held | allocated | closing | freeing | released | dropped => cases running

theorem held_le_running_iff (sessions : List Session) :
    sessions.countP (·.stage.heldThread) ≤ sessions.countP (·.stage.runningThread) ↔
      NoneEnded sessions := by
  induction sessions with
  | nil => simp [NoneEnded]
  | cons session sessions ih =>
    have fewer : sessions.countP (·.stage.runningThread) ≤ sessions.countP (·.stage.heldThread) :=
      List.countP_mono_left fun _ _ => heldThread_of_running
    have split : NoneEnded (session :: sessions) ↔
        session.stage ≠ .thread .ended ∧ NoneEnded sessions := by simp [NoneEnded]
    rw [split, ← ih, List.countP_cons, List.countP_cons]
    by_cases ended : session.stage = .thread .ended
    · have held : session.stage.heldThread = true := by rw [ended]; rfl
      have terminated : session.stage.runningThread = false := by rw [ended]; rfl
      rw [if_pos held, terminated]
      simp only [ended, Bool.false_eq_true, if_false, ne_eq, not_true_eq_false, false_and,
        iff_false]
      omega
    · have same : session.stage.heldThread = session.stage.runningThread := by
        cases stage : session.stage with
        | thread phase =>
          have going : phase ≠ .ended := fun last => ended (stage.trans (congrArg _ last))
          simp [Stage.heldThread, Stage.runningThread, going]
        | held | allocated | closing | freeing | released | dropped => rfl
      simp [same, ended]

variable {server : Server} {state : State}

theorem noneEnded_main {before after : List Session} (sound : server.Sound)
    (moved : SessionsMove server before after) : NoneEnded after ↔ NoneEnded before := by
  cases moved with
  | kept => rfl
  | accepted session idle =>
    have other : session.stage ≠ .thread .ended := idle .ended
    simp [NoneEnded, or_imp, forall_and, other]
  | setUp index old session known idle entry =>
    have started : session.stage ≠ .thread .ended := by
      rcases entry with idle | same
      · exact idle .ended
      · rw [same, sound.entry]
        split_ifs <;> simp
    have replaced := @forall_mem_set Session (·.stage ≠ .thread .ended) index old session before
      known (idle .ended)
    rw [NoneEnded, replaced]
    simp [NoneEnded, started]

theorem noneEnded_step {label : Label} {next : State} (sound : server.Sound)
    (stops : ∀ quit result, server.thread .ended quit result = none)
    (moved : step server state label = some next) :
    NoneEnded next.sessions ↔ NoneEnded state.sessions ∧ ¬ ThreadEnds state label := by
  cases label with
  | main ok =>
    have stays : ¬ ThreadEnds state (.main ok) := by simp [ThreadEnds]
    rw [noneEnded_main sound (mainStep_moves moved).sessions]
    simp [stays]
  | thread index result =>
    obtain ⟨session, phase, later, move⟩ := step_thread moved
    obtain ⟨_, called⟩ := move.called
    have follows := (sound.follows _ _ _ _ called).record
    have ends : ThreadEnds state (.thread index result) ↔ phase = .free := by
      constructor
      · rintro ⟨_, _, current, same, known, stage⟩
        cases same
        obtain rfl := Option.some.inj (move.known.symm.trans known)
        simpa [move.stage] using stage
      · rintro rfl
        exact ⟨index, result, session, rfl, move.known, move.stage⟩
    rw [ends, move.sessions]
    have going : phase ≠ .ended := by
      rintro rfl
      rw [stops] at called
      cases called
    have before : session.stage ≠ .thread .ended := by simp [move.stage, going]
    have last : later = .ended ↔ phase = .free := by
      cases phase <;> cases later <;> simp_all [Phase.holdsRecord]
    have replaced := @forall_mem_set Session (·.stage ≠ .thread .ended) index session
      (session.advance phase later) state.sessions move.known before
    rw [NoneEnded, replaced]
    simp [NoneEnded, Session.advance, last]
  | signal =>
    have stays : ¬ ThreadEnds state .signal := by simp [ThreadEnds]
    simp only [step] at moved
    split_ifs at moved
    cases moved
    simp [stays]

theorem servers_sound (kind : server = tcpServer ∨ server = tlsServer ∨ server = sockServer) :
    server.Sound ∧ ∀ quit result, server.thread .ended quit result = none := by
  rcases kind with rfl | rfl | rfl
  · exact ⟨tcpServer_sound, fun _ _ => rfl⟩
  · exact ⟨tlsServer_sound, fun _ _ => rfl⟩
  · exact ⟨sockServer_sound, fun _ _ => rfl⟩

theorem threads_reclaimed_iff_none_ends (server : Server)
    (kind : server = tcpServer ∨ server = tlsServer ∨ server = sockServer) (inherited : List Bool)
    (labels : List Label) (state : State)
    (path : (machine server).Path Machine.anyStep (start server inherited) labels state) :
    heldThreads state ≤ runningThreads state ↔
      (machine server).Path (fun state label => ¬ ThreadEnds state label)
        (start server inherited) labels state := by
  obtain ⟨sound, stops⟩ := servers_sound kind
  have exactly := path.iff_guarded fun _ _ _ => noneEnded_step sound stops
  have begins : NoneEnded (start server inherited).sessions := by simp [NoneEnded, start]
  unfold heldThreads runningThreads
  rw [held_le_running_iff, exactly]
  simp [begins]

def busyRun : List Label :=
  [.main true, .main true, .main true, .main true, .main true, .main true, .main true,
    .thread 0 0, .thread 0 7]

theorem threads_reclaimed_iff_none_ends_busy :
    ∃ state, (machine tcpServer).run (start tcpServer [true]) busyRun = some state ∧
      (heldThreads state ≤ runningThreads state ↔
        (machine tcpServer).Path (fun state label => ¬ ThreadEnds state label)
          (start tcpServer [true]) busyRun state) := by
  have completed : (machine tcpServer).run (start tcpServer [true]) busyRun = some _ := rfl
  refine ⟨_, completed, ?_⟩
  exact threads_reclaimed_iff_none_ends tcpServer (.inl rfl) [true] busyRun _
    (Machine.path_of_run completed)

def partedRun : List Label := busyRun ++ [.thread 0 0, .thread 0 0, .thread 0 0, .thread 0 0]

theorem ended_thread_stays_held :
    ¬ ∀ state, (machine tcpServer).Reachable state →
      heldThreads state ≤ runningThreads state := by
  intro reclaimed
  have completed : (machine tcpServer).run (start tcpServer [true]) partedRun = some _ := rfl
  have bounded := reclaimed _ (Machine.reachable_of_run ⟨[true], rfl⟩ completed)
  exact absurd bounded (by decide)

end Net
