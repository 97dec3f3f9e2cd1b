import LinuxTutorial.Net.Ownership
import Mathlib.Data.List.Count

set_option autoImplicit false

namespace Net

open Transition

def ThreadAt (state : State) (label : Label) (phase : Phase) : Prop :=
  ∃ index result session, label = .thread index result ∧
    state.sessions[index]? = some session ∧ session.stage = .thread phase

-- SSL_CTX_free in main, or SSL_free in a thread.
def GivesBack (state : State) (label : Label) : Prop :=
  (state.main = .freeContext ∧ ∃ ok, label = .main ok) ∨ ThreadAt state label .sslFree

-- A thread was created, and has not called SSL_new(session->ctx) yet.
def Starting (state : State) : Prop :=
  ∃ session, session ∈ state.sessions ∧ session.stage = .thread .sslNew

-- SSL_new only on a context with a reference, and no reference is given back that is not there.
def ContextAlive (state : State) (label : Label) : Prop :=
  (ThreadAt state label .sslNew → 0 < state.contextRefs) ∧
    (GivesBack state label → 0 < state.contextRefs)

def Alive (state : State) : Prop :=
  ∀ label next, step tlsServer state label = some next → ContextAlive state label

def LastReferenceLate (state : State) (label : Label) : Prop :=
  GivesBack state label → state.contextRefs = 1 → ¬ Starting state

def liveObjects (sessions : List Session) : Nat := sessions.countP (·.stage.holdsSsl)

structure Counted (state : State) : Prop where
  references : state.main ≠ .returned →
    state.contextRefs = (if state.main = .leaving then 0 else 1) + (liveObjects state.sessions : Int)

variable {state : State}

theorem holdsSsl_of_threadless {stage : Stage} (idle : stage.threadless) :
    stage.holdsSsl = false := by
  cases stage with
  | thread phase => exact absurd rfl (idle phase)
  | held | allocated | closing | freeing | released | dropped => rfl

theorem liveObjects_set {index : Nat} {old session : Session} {sessions : List Session}
    (known : sessions[index]? = some old) :
    (liveObjects (sessions.set index session) : Int) = liveObjects sessions -
      (if old.stage.holdsSsl then 1 else 0) + if session.stage.holdsSsl then 1 else 0 := by
  obtain ⟨inside, found⟩ := List.getElem?_eq_some_iff.mp known
  have mine : old.stage.holdsSsl = true → 0 < liveObjects sessions := by
    intro holds
    apply List.countP_pos_iff.mpr
    exact ⟨old, List.mem_of_getElem? known, holds⟩
  have count := @List.countP_set Session (·.stage.holdsSsl) sessions index session inside
  simp only [found] at count
  unfold liveObjects at mine ⊢
  rw [count]
  split_ifs at mine ⊢ with held <;> grind

theorem liveObjects_main {before after : List Session}
    (moved : SessionsMove tlsServer before after) : liveObjects after = liveObjects before := by
  cases moved with
  | kept => rfl
  | accepted session idle =>
    rw [liveObjects, List.countP_append, List.countP_singleton, holdsSsl_of_threadless idle]
    rfl
  | setUp index old session known idle entry =>
    have none : session.stage.holdsSsl = false := by
      rcases entry with idle | same
      · exact holdsSsl_of_threadless idle
      · rw [same]
        rfl
    have count := @liveObjects_set index old session before known
    rw [holdsSsl_of_threadless idle, none] at count
    simp only [Bool.false_eq_true, if_false] at count
    omega

theorem liveObjects_thread {index : Nat} {session : Session} {phase later : Phase} {next : State}
    (moved : ThreadMoves tlsServer state index session phase later next) :
    (liveObjects next.sessions : Int) = liveObjects state.sessions +
      (if phase = .sslNew then 1 else 0) - (if phase = .sslFree then 1 else 0) := by
  obtain ⟨result, called⟩ := moved.called
  have follows := (tlsServer_sound.follows _ _ _ _ called).ssl rfl
  rw [moved.sessions, liveObjects_set moved.known, moved.stage]
  simp only [Session.advance, Stage.holdsSsl, follows]
  cases phase <;> simp [Phase.holdsSsl]

inductive MainGoes (before after : State) : Prop
  | frees (here : before.main = .freeContext) (there : after.main = .leaving)
      (given : after.contextRefs = before.contextRefs - 1)
  | returns (here : before.main = .leaving) (there : after.main = .returned)
  | keeps (freeing : before.main ≠ .freeContext) (left : before.main ≠ .leaving)
      (returned : before.main ≠ .returned) (leaves : after.main ≠ .leaving)
      (kept : after.contextRefs = before.contextRefs)

theorem SetupMoves.goes {index : Nat} {session : Session} {ok : Bool} {next : State}
    (moves : SetupMoves tlsServer state index session ok next)
    (here : state.main = .setup index) : MainGoes state next := by
  cases moves <;> apply MainGoes.keeps <;> simp [State.setSession, here, Server.loopEnd, tlsServer]

theorem MainMoves.goes {ok : Bool} {next : State} (moves : MainMoves tlsServer state ok next) :
    MainGoes state next := by
  cases moves with
  | freedContext ok here => exact .frees here rfl rfl
  | left ok here => exact .returns here rfl
  | setUp here known moves => exact moves.goes here
  | failed here =>
    rcases here with here | here <;> apply MainGoes.keeps <;> simp [here, tlsServer]
  | tested ok here =>
    apply MainGoes.keeps <;> simp [here]
    split_ifs <;> simp
  | abandoned ok here | closedServer ok here =>
    cases bound : state.serverFd <;> apply MainGoes.keeps <;>
      simp [here, State.closeServerFd, bound, tlsServer]
  | opened here | unopened here | bound here | listens here | accepted here | acceptedZero here
  | notAccepted here | slept ok here =>
    apply MainGoes.keeps <;> simp [here, Server.loopEnd, tlsServer]

theorem counted_step {label : Label} {next : State} (counted : Counted state)
    (moved : step tlsServer state label = some next) : Counted next where
  references going := by
    cases label with
    | main ok =>
      rw [liveObjects_main (mainStep_moves moved).sessions]
      cases (mainStep_moves moved).goes with
      | frees here there given =>
        have before := counted.references (by simp [here])
        rw [given, before, here, there]
        simp only [reduceCtorEq, if_false, if_true]
        omega
      | returns here there => exact absurd there going
      | keeps freeing left returned leaves kept =>
        have before := counted.references returned
        rw [kept, before, if_neg left, if_neg leaves]
    | thread index result =>
      obtain ⟨session, phase, later, move⟩ := step_thread moved
      have before := counted.references move.running
      rw [move.contextRefs, before, move.main, liveObjects_thread move]
      omega
    | signal =>
      simp only [step] at moved
      split_ifs at moved
      cases moved
      exact counted.references going

theorem counted_start (inherited : List Bool) : Counted (start tlsServer inherited) where
  references _ := by simp [start, tlsServer, liveObjects]

theorem references_nonnegative (counted : Counted state) (going : state.main ≠ .returned) :
    0 ≤ state.contextRefs := by
  rw [counted.references going]
  split_ifs <;> omega

theorem positive_of_givesBack {label : Label} (counted : Counted state)
    (going : state.main ≠ .returned) (gives : GivesBack state label) : 0 < state.contextRefs := by
  rw [counted.references going]
  rcases gives with ⟨here, _⟩ | ⟨index, result, session, _, known, stage⟩
  · rw [here]
    simp
    omega
  · have live : 0 < liveObjects state.sessions := by
      apply List.countP_pos_iff.mpr
      exact ⟨session, List.mem_of_getElem? known, by simp [stage, Phase.holdsSsl]⟩
    split_ifs <;> omega

theorem alive_iff (counted : Counted state) :
    Alive state ↔ (state.main ≠ .returned → Starting state → 0 < state.contextRefs) := by
  constructor
  · intro alive going starting
    obtain ⟨session, member, stage⟩ := starting
    obtain ⟨index, known⟩ := List.getElem?_of_mem member
    have moved : ∃ next, step tlsServer state (.thread index 0) = some next := by
      simp [step, known, stage, going, threadStep, tlsServer, tlsSessionProcessThread]
    obtain ⟨next, moved⟩ := moved
    exact (alive _ next moved).1 ⟨index, 0, session, rfl, known, stage⟩
  · intro positive label next moved
    have going : ThreadAt state label .sslNew ∨ GivesBack state label → state.main ≠ .returned := by
      intro acts returned
      cases label with
      | main ok => simp [step, mainStep, returned] at moved
      | thread index result =>
        obtain ⟨session, phase, later, move⟩ := step_thread moved
        exact move.running returned
      | signal => simp [ThreadAt, GivesBack] at acts
    constructor
    · rintro ⟨index, result, session, same, known, stage⟩
      apply positive (going (.inl ⟨index, result, session, same, known, stage⟩))
      exact ⟨session, List.mem_of_getElem? known, stage⟩
    · intro gives
      exact positive_of_givesBack counted (going (.inr gives)) gives

theorem threadAt_stage {index : Nat} {result : Int} {session : Session} {phase : Phase}
    (known : state.sessions[index]? = some session) :
    ThreadAt state (.thread index result) phase ↔ session.stage = .thread phase := by
  constructor
  · rintro ⟨_, _, current, same, found, stage⟩
    cases same
    obtain rfl := Option.some.inj (known.symm.trans found)
    exact stage
  · intro stage
    exact ⟨index, result, session, rfl, known, stage⟩

theorem starting_thread {index : Nat} {session : Session} {phase later : Phase} {next : State}
    (moved : ThreadMoves tlsServer state index session phase later next)
    (made : phase ≠ .sslNew) : Starting next ↔ Starting state := by
  obtain ⟨result, called⟩ := moved.called
  have started : later ≠ .sslNew := (tlsServer_sound.follows _ _ _ _ called).later rfl
  have replaced := @forall_mem_set Session (·.stage ≠ .thread .sslNew) index session
    (session.advance phase later) state.sessions moved.known (by simp [moved.stage, made])
  have none : (∀ current, current ∈ next.sessions → current.stage ≠ .thread .sslNew) ↔
      ∀ current, current ∈ state.sessions → current.stage ≠ .thread .sslNew := by
    rw [moved.sessions, replaced]
    simp [Session.advance, started]
  have both := not_congr none
  simpa [Starting] using both

theorem alive_step {label : Label} {next : State} (counted : Counted state) (alive : Alive state)
    (moved : step tlsServer state label = some next) :
    Alive next ↔ LastReferenceLate state label := by
  have safe := (alive_iff counted).mp alive
  rw [alive_iff (counted_step counted moved)]
  cases label with
  | main ok =>
    have gives : GivesBack state (.main ok) ↔ state.main = .freeContext := by
      simp [GivesBack, ThreadAt]
    unfold LastReferenceLate
    rw [gives]
    cases (mainStep_moves moved).goes with
    | frees here there given =>
      have same : next.sessions = state.sessions := by
        simp only [step, mainStep, here] at moved
        cases moved
        rfl
      have before : 0 < state.contextRefs :=
        positive_of_givesBack counted (by simp [here]) (gives.mpr here)
      have starting : Starting next ↔ Starting state := by simp [Starting, same]
      simp only [there, given, here, starting, ne_eq, reduceCtorEq, not_false_eq_true,
        forall_const]
      constructor
      · intro positive last starting
        have more := positive starting
        omega
      · intro late starting
        have several : state.contextRefs ≠ 1 := fun last => late last starting
        omega
    | returns here there => simp [here, there]
    | keeps freeing left returned leaves kept =>
      have positive : next.main ≠ .returned → 0 < next.contextRefs := by
        intro going
        rw [(counted_step counted moved).references going, if_neg leaves]
        omega
      simp only [freeing, false_implies, iff_true]
      intro going _
      exact positive going
  | thread index result =>
    obtain ⟨session, phase, later, move⟩ := step_thread moved
    have gives : GivesBack state (.thread index result) ↔ phase = .sslFree := by
      simp [GivesBack, threadAt_stage move.known, move.stage]
    have before := references_nonnegative counted move.running
    unfold LastReferenceLate
    rw [gives, move.main, move.contextRefs]
    by_cases making : phase = .sslNew
    · simp only [making, if_true, reduceCtorEq, if_false, false_implies, iff_true]
      intro _ _
      omega
    · rw [starting_thread move making]
      by_cases freeing : phase = .sslFree
      · have mine := positive_of_givesBack counted move.running (gives.mpr freeing)
        simp only [freeing, reduceCtorEq, if_true, if_false, forall_const]
        constructor
        · intro positive last starting
          have more := positive move.running starting
          omega
        · intro late _ starting
          have several : state.contextRefs ≠ 1 := fun last => late last starting
          omega
      · simp only [making, freeing, if_false, false_implies, iff_true]
        intro going starting
        have positive := safe going starting
        omega
  | signal =>
    simp only [step] at moved
    split_ifs at moved
    cases moved
    have keeps : ¬ GivesBack state .signal := by simp [GivesBack, ThreadAt]
    simp only [LastReferenceLate, keeps, false_implies, iff_true]
    exact safe

theorem alive_start (inherited : List Bool) : Alive (start tlsServer inherited) := by
  apply (alive_iff (counted_start inherited)).mpr
  simp [Starting, start]

theorem context_alive_iff_last_reference_late (inherited : List Bool) (labels : List Label)
    (state : State)
    (path : (machine tlsServer).Path Machine.anyStep (start tlsServer inherited) labels state) :
    ((machine tlsServer).Path LastReferenceLate (start tlsServer inherited) labels state ↔
        (machine tlsServer).Path (fun state _ => Alive state) (start tlsServer inherited) labels
            state ∧ Alive state) ∧
      ((machine tlsServer).Path LastReferenceLate (start tlsServer inherited) labels state →
        (machine tlsServer).Path ContextAlive (start tlsServer inherited) labels state) := by
  have preserved : (machine tlsServer).Preserves Machine.anyStep Counted :=
    fun _ _ _ counted _ moved => counted_step counted moved
  have exactly := path.iff_throughout preserved (fun _ _ _ => alive_step)
    (counted_start inherited) (alive_start inherited)
  refine ⟨exactly, fun late => ?_⟩
  apply (exactly.mp late).1.weaken
  intro state label next moved alive
  exact alive label next moved

def servedThenQuit : List Label :=
  [.main true, .main true, .main true, .main true, .main true, .main true, .main true,
    .thread 0 0, .thread 0 0, .thread 0 1, .thread 0 0, .thread 0 0, .thread 0 0, .thread 0 0,
    .thread 0 0, .thread 0 0, .main true, .signal, .main true, .main true, .main true]

theorem context_alive_iff_last_reference_late_served :
    ∃ state, (machine tlsServer).run (start tlsServer [true]) servedThenQuit = some state ∧
      ((machine tlsServer).Path LastReferenceLate (start tlsServer [true]) servedThenQuit state ↔
        (machine tlsServer).Path (fun state _ => Alive state) (start tlsServer [true])
          servedThenQuit state ∧ Alive state) := by
  have completed : (machine tlsServer).run (start tlsServer [true]) servedThenQuit = some _ := rfl
  refine ⟨_, completed, ?_⟩
  exact (context_alive_iff_last_reference_late [true] servedThenQuit _
    (Machine.path_of_run completed)).1

-- The signal comes right after pthread_create: main is through before the thread begins.
def quitBeforeThread : List Label :=
  [.main true, .main true, .main true, .main true, .main true, .main true, .main true, .signal,
    .main true, .main true, .main true, .main true]

theorem context_freed_before_thread :
    ¬ ∀ state, (machine tlsServer).Reachable state → Alive state := by
  intro alive
  have completed : (machine tlsServer).run (start tlsServer [true]) quitBeforeThread = some _ := rfl
  have referenced := alive _ (Machine.reachable_of_run ⟨[true], rfl⟩ completed)
  have used := (referenced (.thread 0 0) _ rfl).1 ⟨0, 0, _, rfl, rfl, rfl⟩
  cases used

end Net
