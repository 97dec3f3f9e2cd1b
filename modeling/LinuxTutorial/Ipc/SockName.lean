import LinuxTutorial.Net.ServerSteps
import LinuxTutorial.Shared.Progress
import Mathlib.Data.List.Nodup

set_option autoImplicit false

/-!
An instance is known by its number in the order of the starts.
-/

namespace SockName

open Net Transition

structure Instance where
  -- `none` once it was killed
  process : Option Net.State
  -- connections that accept has not returned
  backlog : Nat

structure System where
  instances : List Instance
  -- whose socket the path leads to
  name : Option Nat
  -- whom the clients were connected to
  history : List Nat

inductive Label where
  | start (inherited : List Bool) (unlinked : Bool)
  | server (index : Nat) (label : Net.Label)
  | connect
  | kill (index : Nat)

def succeeds : Net.Label → Bool
  | .main ok => ok
  | .thread _ _ | .signal => false

def listens : Main → Bool
  | .head | .accept | .setup _ | .sleep => true
  | _ => false

def System.replace (system : System) (index : Nat) (process : Option Net.State)
    (backlog : Nat) : List Instance :=
  system.instances.set index { process := process, backlog := backlog }

-- A step of an instance: bind needs a path that is free, accept a connection that waits.
def serverStep (system : System) (index : Nat) (server : Instance) (state : Net.State)
    (label : Net.Label) : Option System := do
  let next ← Net.step sockServer state label
  if state.main = .bind ∧ succeeds label = true then
    if system.name.isNone then
      some { system with
        instances := system.replace index (some next) server.backlog, name := some index }
    else none
  else if state.main = .accept ∧ succeeds label = true then
    if 0 < server.backlog then
      some { system with instances := system.replace index (some next) (server.backlog - 1) }
    else none
  else some { system with instances := system.replace index (some next) server.backlog }

def step (system : System) : Label → Option System
  -- unlink(SOCK_NAME)
  | .start inherited unlinked =>
    some { system with
      instances := system.instances ++
        [{ process := some (Net.start sockServer inherited), backlog := 0 }]
      name := if unlinked then none else system.name }
  | .server index label => do
    let server ← system.instances[index]?
    let state ← server.process
    serverStep system index server state label
  | .connect => do
    let index ← system.name
    let server ← system.instances[index]?
    let state ← server.process
    if listens state.main then
      some { system with
        instances := system.replace index (some state) (server.backlog + 1)
        history := system.history ++ [index] }
    else none
  | .kill index =>
    if index < system.instances.length then
      some { system with instances := system.replace index none 0 }
    else none

def nobody : System :=
  { instances := [], name := none, history := [] }

def machine : Machine System Label where
  initial system := system = nobody
  step := step

variable {system next : System}

inductive Moves (system : System) : System → Prop
  | started (inherited : List Bool) (unlinked : Bool) :
      Moves system
        { system with
          instances := system.instances ++
            [{ process := some (Net.start sockServer inherited), backlog := 0 }]
          name := if unlinked then none else system.name }
  | bound {index : Nat} {server : Instance} {state later : Net.State} {label : Net.Label}
      (known : system.instances[index]? = some server) (alive : server.process = some state)
      (moved : Net.step sockServer state label = some later) (here : state.main = .bind)
      (succeeded : succeeds label = true) :
      Moves system
        { system with
          instances := system.replace index (some later) server.backlog, name := some index }
  | accepted {index : Nat} {server : Instance} {state later : Net.State} {label : Net.Label}
      (known : system.instances[index]? = some server) (alive : server.process = some state)
      (moved : Net.step sockServer state label = some later) (here : state.main = .accept)
      (succeeded : succeeds label = true) (waiting : 0 < server.backlog) :
      Moves system
        { system with instances := system.replace index (some later) (server.backlog - 1) }
  | served {index : Nat} {server : Instance} {state later : Net.State} {label : Net.Label}
      (known : system.instances[index]? = some server) (alive : server.process = some state)
      (moved : Net.step sockServer state label = some later)
      (quiet : ¬ (state.main = .accept ∧ succeeds label = true)) :
      Moves system { system with instances := system.replace index (some later) server.backlog }
  | connected {index : Nat} {server : Instance} {state : Net.State}
      (name : system.name = some index)
      (known : system.instances[index]? = some server) (alive : server.process = some state)
      (listening : listens state.main = true) :
      Moves system
        { system with
          instances := system.replace index (some state) (server.backlog + 1)
          history := system.history ++ [index] }
  | killed {index : Nat} (inside : index < system.instances.length) :
      Moves system { system with instances := system.replace index none 0 }

theorem step_moves {label : Label} (moved : step system label = some next) : Moves system next := by
  cases label with
  | start inherited unlinked =>
    cases moved
    exact .started inherited unlinked
  | server index label =>
    obtain ⟨server, known, moved⟩ := Option.bind_eq_some_iff.mp moved
    obtain ⟨state, alive, moved⟩ := Option.bind_eq_some_iff.mp moved
    obtain ⟨later, served, moved⟩ := Option.bind_eq_some_iff.mp moved
    split_ifs at moved with binds free accepts waiting <;> cases moved
    · exact .bound known alive served binds.1 binds.2
    · exact .accepted known alive served accepts.1 accepts.2 waiting
    · exact .served known alive served accepts
  | connect =>
    obtain ⟨index, name, moved⟩ := Option.bind_eq_some_iff.mp moved
    obtain ⟨server, known, moved⟩ := Option.bind_eq_some_iff.mp moved
    obtain ⟨state, alive, moved⟩ := Option.bind_eq_some_iff.mp moved
    split_ifs at moved with listening
    cases moved
    exact .connected name known alive listening
  | kill index =>
    simp only [step] at moved
    split_ifs at moved with inside
    cases moved
    exact .killed inside

def beforeBind : Main → Bool
  | .socket | .bind => true
  | _ => false

-- The instance may still bind to the path: it has not started, or it has not come to its bind.
def System.unbound (system : System) (index : Nat) : Prop :=
  match system.instances[index]? with
  | none => True
  | some server => ∃ state, server.process = some state ∧ beforeBind state.main = true

theorem beforeBind_step {state later : Net.State} {label : Net.Label}
    (moved : Net.step sockServer state label = some later)
    (before : beforeBind later.main = true) :
    beforeBind state.main = true ∧ ¬ (state.main = .bind ∧ succeeds label = true) := by
  cases label with
  | main ok =>
    cases mainStep_moves moved with
    | opened here | unopened here => simp [here, beforeBind]
    | bound | listens | slept | freedContext | left | abandoned | accepted => cases before
    | failed | acceptedZero | notAccepted | closedServer =>
      simp [sockServer, Server.loopEnd, beforeBind] at before
    | tested => cases quit : state.quit <;> simp [quit, beforeBind] at before
    | setUp here known moves =>
      cases moves with
      | mallocFailed | created | forgotten | freed =>
        simp [sockServer, Server.loopEnd, beforeBind] at before
      | allocated | unwound | closed =>
        have same : beforeBind state.main = true := before
        simp [here, beforeBind] at same
  | thread index result =>
    obtain ⟨session, phase, after, move⟩ := step_thread moved
    rw [move.main] at before
    exact ⟨before, by simp [succeeds]⟩
  | signal => cases moved

theorem unbound_replace {index other : Nat} {process : Option Net.State} {backlog : Nat}
    {name : Option Nat} {history : List Nat} (inside : index < system.instances.length)
    (unbound : System.unbound
      { instances := system.replace index process backlog, name := name, history := history }
      other) :
    (other = index ∧ ∃ state, process = some state ∧ beforeBind state.main = true) ∨
      (other ≠ index ∧ system.unbound other) := by
  simp only [System.unbound, System.replace, List.getElem?_set, inside, if_true] at unbound
  split_ifs at unbound with same
  · exact .inl ⟨same.symm, unbound⟩
  · exact .inr ⟨Ne.symm same, unbound⟩

theorem inside_of_known {index : Nat} {server : Instance}
    (known : system.instances[index]? = some server) : index < system.instances.length :=
  (List.getElem?_eq_some_iff.mp known).1

theorem unbound_of_step {index : Nat} {server : Instance} {state : Net.State}
    (known : system.instances[index]? = some server) (alive : server.process = some state)
    (before : beforeBind state.main = true) : system.unbound index := by
  simp only [System.unbound, known]
  exact ⟨state, alive, before⟩

theorem bound_of_step {index : Nat} {server : Instance} {state : Net.State}
    (known : system.instances[index]? = some server) (alive : server.process = some state)
    (after : beforeBind state.main = false) : ¬ system.unbound index := by
  simp only [System.unbound, known]
  rintro ⟨other, present, before⟩
  obtain rfl := Option.some.inj (alive.symm.trans present)
  simp [after] at before

theorem Moves.unbound (moves : Moves system next) {index : Nat} (unbound : next.unbound index) :
    system.unbound index := by
  cases moves with
  | started inherited unlinked =>
    cases known : system.instances[index]? with
    | none => simp [System.unbound, known]
    | some server =>
      simpa [System.unbound, List.getElem?_append_left (inside_of_known known)] using unbound
  | bound known alive moved | accepted known alive moved | served known alive moved =>
    rcases unbound_replace (inside_of_known known) unbound with ⟨rfl, later, same, before⟩ | earlier
    · cases same
      exact unbound_of_step known alive (beforeBind_step moved before).1
    · exact earlier.2
  | connected name known alive listening =>
    rcases unbound_replace (inside_of_known known) unbound with ⟨rfl, later, same, before⟩ | earlier
    · cases same
      exact unbound_of_step known alive before
    · exact earlier.2
  | killed inside =>
    rcases unbound_replace inside unbound with ⟨-, later, same, -⟩ | earlier
    · cases same
    · exact earlier.2

-- A client history in turns: for each server in them, the number of its clients in a row.
def inTurns (turns : List (Nat × Nat)) : List Nat :=
  turns.flatMap fun turn => List.replicate turn.2 turn.1

theorem inTurns_again (front : List (Nat × Nat)) (index count : Nat) :
    inTurns (front ++ [(index, count)]) ++ [index] = inTurns (front ++ [(index, count + 1)]) := by
  simp [inTurns, List.replicate_succ']

theorem inTurns_next (turns : List (Nat × Nat)) (index : Nat) :
    inTurns turns ++ [index] = inTurns (turns ++ [(index, 1)]) := by
  simp [inTurns]

structure Turns (system : System) (turns : List (Nat × Nat)) : Prop where
  history : system.history = inTurns turns
  once : (turns.map Prod.fst).Nodup
  -- who has the name is the last in the history, or not there yet
  last : ∀ index, system.name = some index → index ∈ turns.map Prod.fst →
    ∃ front count, turns = front ++ [(index, count)]
  bound : ∀ index, index ∈ turns.map Prod.fst → ¬ system.unbound index
  named : ∀ index, system.name = some index → ¬ system.unbound index

theorem turns_connected {turns : List (Nat × Nat)} {index : Nat} (before : Turns system turns)
    (name : system.name = some index)
    (bound : ∀ other, ¬ system.unbound other → ¬ next.unbound other)
    (history : next.history = system.history ++ [index]) (same : next.name = system.name) :
    ∃ turns, Turns next turns := by
  have named (other : Nat) (here : next.name = some other) : ¬ next.unbound other :=
    bound other (before.named other (same ▸ here))
  have only (other : Nat) (here : next.name = some other) : other = index :=
    Option.some.inj (here.symm.trans (same.trans name))
  by_cases member : index ∈ turns.map Prod.fst
  · obtain ⟨front, count, rfl⟩ := before.last index name member
    refine ⟨front ++ [(index, count + 1)], ?_, ?_, ?_, ?_, named⟩
    · rw [history, before.history, inTurns_again]
    · simpa using before.once
    · intro other here _
      exact ⟨front, count + 1, by rw [only other here]⟩
    · intro other inside
      exact bound other (before.bound other (by simpa using inside))
  · refine ⟨turns ++ [(index, 1)], ?_, ?_, ?_, ?_, named⟩
    · rw [history, before.history, inTurns_next]
    · simpa [List.nodup_append] using ⟨before.once, fun a b inside here =>
        member (by simpa using ⟨b, here ▸ inside⟩)⟩
    · intro other here _
      exact ⟨turns, 1, by rw [only other here]⟩
    · intro other inside
      rw [List.map_append, List.mem_append] at inside
      rcases inside with earlier | here
      · exact bound other (before.bound other earlier)
      · obtain rfl : other = index := by simpa using here
        exact bound other (before.named other name)

theorem Moves.turns {turns : List (Nat × Nat)} (moves : Moves system next)
    (before : Turns system turns) : ∃ turns, Turns next turns := by
  have stays (index : Nat) (settled : ¬ system.unbound index) : ¬ next.unbound index :=
    fun unbound => settled (moves.unbound unbound)
  have bound (index : Nat) (member : index ∈ turns.map Prod.fst) : ¬ next.unbound index :=
    stays index (before.bound index member)
  have same (history : next.history = system.history) (name : next.name = system.name) :
      ∃ turns, Turns next turns :=
    ⟨turns, history.trans before.history, before.once,
      fun index named => before.last index (name ▸ named), bound,
      fun index named => stays index (before.named index (name ▸ named))⟩
  cases moves with
  | started inherited unlinked =>
    have earlier (index : Nat) (named : (if unlinked then none else system.name) = some index) :
        system.name = some index := by
      cases unlinked
      · exact named
      · cases named
    exact ⟨turns, before.history, before.once,
      fun index named => before.last index (earlier index named), bound,
      fun index named => stays index (before.named index (earlier index named))⟩
  | accepted | served | killed => exact same rfl rfl
  | @bound index server state later label known alive moved here succeeded =>
    have fresh : system.unbound index := unbound_of_step known alive (by simp [here, beforeBind])
    refine ⟨turns, before.history, before.once, ?_, bound, ?_⟩
    · intro other named member
      obtain rfl : index = other := Option.some.inj named
      exact absurd fresh (before.bound index member)
    · intro other named unbound
      obtain rfl : index = other := Option.some.inj named
      rcases unbound_replace (inside_of_known known) unbound with ⟨-, last, same, early⟩ | away
      · cases same
        exact (beforeBind_step moved early).2 ⟨here, succeeded⟩
      · exact away.1 rfl
  | connected name => exact turns_connected before name stays rfl rfl

theorem served_in_turn (reached : machine.Reachable system) :
    ∃ turns : List (Nat × Nat), (turns.map Prod.fst).Nodup ∧ system.history = inTurns turns := by
  have invariant : ∃ turns, Turns system turns := by
    refine @Machine.ReachableBy.holds System Label machine Machine.anyStep
      (fun system => ∃ turns, Turns system turns) system reached ?_ ?_
    · rintro _ rfl
      exact ⟨[], rfl, List.nodup_nil, nofun, nofun, nofun⟩
    · rintro before label after ⟨turns, holds⟩ _ moved
      exact (step_moves moved).turns holds
  obtain ⟨turns, holds⟩ := invariant
  exact ⟨turns, holds.once, holds.history⟩

def listening (index : Nat) : List Label :=
  List.replicate 4 (.server index (.main true))

-- The second instance takes the path while the first has a client, and one that waits for it.
def twoServers : List Label :=
  .start [true] true :: listening 0 ++ [.connect, .server 0 (.main true), .connect] ++
    .start [true] true :: listening 1 ++ [.connect]

theorem served_in_turn_two :
    ∃ system, machine.run nobody twoServers = some system ∧ system.history = [0, 0, 1] ∧
      ∃ turns : List (Nat × Nat), (turns.map Prod.fst).Nodup ∧ system.history = inTurns turns := by
  have runs : machine.run nobody twoServers = some _ := rfl
  exact ⟨_, runs, rfl, served_in_turn (Machine.reachable_of_run rfl runs)⟩

def System.accepted (system : System) (index : Nat) : Nat :=
  (system.instances[index]?.bind Instance.process).elim 0 fun state => state.sessions.length

def System.backlog (system : System) (index : Nat) : Nat :=
  system.instances[index]?.elim 0 Instance.backlog

def System.clients (system : System) (index : Nat) : Nat :=
  system.accepted index + system.backlog index

theorem sessions_step {state later : Net.State} {label : Net.Label}
    (moved : Net.step sockServer state label = some later) :
    later.sessions.length =
      state.sessions.length + if state.main = .accept ∧ succeeds label = true then 1 else 0 := by
  cases label with
  | main ok =>
    cases mainStep_moves moved with
    | accepted here | acceptedZero here | notAccepted here => simp [here, succeeds]
    | setUp here _ moves => cases moves <;> simp [here, State.setSession]
    | failed here => rcases here with here | here <;> simp [here]
    | opened here | unopened here | bound here | listens here | abandoned _ here | tested _ here
    | slept _ here | closedServer _ here | freedContext _ here | left _ here => simp [here]
  | thread index result =>
    obtain ⟨session, phase, after, move⟩ := step_thread moved
    simp [move.sessions, succeeds]
  | signal => cases moved

theorem clients_known {index : Nat} {server : Instance} {state : Net.State}
    (known : system.instances[index]? = some server) (alive : server.process = some state) :
    system.clients index = state.sessions.length + server.backlog := by
  simp [System.clients, System.accepted, System.backlog, known, alive]

theorem clients_replace {index : Nat} {process : Option Net.State} {backlog : Nat}
    {name : Option Nat} {history : List Nat} (inside : index < system.instances.length)
    (other : Nat) :
    System.clients
      { instances := system.replace index process backlog, name := name, history := history }
      other =
        if other = index then (process.elim 0 fun state => state.sessions.length) + backlog
        else system.clients other := by
  simp only [System.clients, System.accepted, System.backlog, System.replace, List.getElem?_set]
  rcases Decidable.em (other = index) with rfl | different
  · simp [inside]
  · rw [if_neg fun same => different same.symm, if_neg different]

/-- An instance that is past its bind and that the path does not lead to. -/
structure Orphan (system : System) (index : Nat) : Prop where
  bound : ¬ system.unbound index
  lost : system.name ≠ some index

theorem Moves.orphan {index : Nat} (moves : Moves system next) (orphan : Orphan system index) :
    Orphan next index ∧ next.history.count index = system.history.count index ∧
      next.clients index ≤ system.clients index := by
  have bound : ¬ next.unbound index := fun unbound => orphan.bound (moves.unbound unbound)
  cases moves with
  | started inherited unlinked =>
    have lost : (if unlinked then none else system.name) ≠ some index := by
      cases unlinked
      · exact orphan.lost
      · simp
    refine ⟨⟨bound, lost⟩, rfl, ?_⟩
    have inside : index < system.instances.length := by
      by_contra outside
      apply orphan.bound
      simp [System.unbound, List.getElem?_eq_none (Nat.not_lt.mp outside)]
    simp [System.clients, System.accepted, System.backlog, List.getElem?_append_left inside]
  | @bound other server state later label known alive moved here succeeded =>
    have fresh : system.unbound other := unbound_of_step known alive (by simp [here, beforeBind])
    have different : index ≠ other := fun same => orphan.bound (same ▸ fresh)
    refine ⟨⟨bound, fun named => different (Option.some.inj named).symm⟩, rfl, ?_⟩
    exact Nat.le_of_eq
      ((clients_replace (inside_of_known known) index).trans (if_neg different))
  | @accepted other server state later label known alive moved here succeeded waiting =>
    refine ⟨⟨bound, orphan.lost⟩, rfl, ?_⟩
    rw [clients_replace (inside_of_known known)]
    split_ifs with same
    · have more := sessions_step moved
      simp only [here, succeeded, and_self, if_true] at more
      rw [same, clients_known known alive, Option.elim_some]
      omega
    · exact Nat.le_refl _
  | @served other server state later label known alive moved quiet =>
    refine ⟨⟨bound, orphan.lost⟩, rfl, ?_⟩
    rw [clients_replace (inside_of_known known)]
    split_ifs with same
    · have more := sessions_step moved
      rw [if_neg quiet] at more
      rw [same, clients_known known alive, Option.elim_some]
      omega
    · exact Nat.le_refl _
  | @connected other server state name known alive listening =>
    have different : other ≠ index := fun same => orphan.lost (same ▸ name)
    refine ⟨⟨bound, orphan.lost⟩, ?_, ?_⟩
    · simp [List.count_append, different]
    · exact Nat.le_of_eq
        ((clients_replace (inside_of_known known) index).trans (if_neg different.symm))
  | killed inside =>
    refine ⟨⟨bound, orphan.lost⟩, rfl, ?_⟩
    rw [clients_replace inside]
    split_ifs
    · simp
    · exact Nat.le_refl _

theorem orphan_starves {index : Nat} {last : System} {labels : List Label}
    (bound : ¬ system.unbound index) (lost : system.name ≠ some index)
    (path : machine.Path Machine.anyStep system labels last) :
    last.name ≠ some index ∧ last.history.count index = system.history.count index ∧
      last.accepted index ≤ system.accepted index + system.backlog index := by
  let kept (later : System) : Prop :=
    Orphan later index ∧ later.history.count index = system.history.count index ∧
      later.clients index ≤ system.clients index
  have preserved : machine.Preserves Machine.anyStep kept := by
    rintro before label after ⟨orphan, history, clients⟩ _ moved
    obtain ⟨orphaned, same, fewer⟩ := (step_moves moved).orphan orphan
    exact ⟨orphaned, same.trans history, Nat.le_trans fewer clients⟩
  obtain ⟨orphaned, history, clients⟩ : kept last :=
    path.keeps preserved ⟨⟨bound, lost⟩, rfl, Nat.le_refl _⟩
  refine ⟨orphaned.lost, history, ?_⟩
  simp only [System.clients] at clients
  omega

def orphanRun : List Label :=
  [.connect, .server 0 (.main true), .server 0 (.main true), .server 0 (.thread 0 0)] ++
    List.replicate 2 (.server 0 (.main true)) ++ [.connect]

theorem orphan_starves_first :
    ∃ system last, machine.run nobody twoServers = some system ∧
      machine.run system orphanRun = some last ∧ system.name = some 1 ∧ last.accepted 0 = 2 ∧
      last.name ≠ some 0 ∧ last.history.count 0 = system.history.count 0 ∧
      last.accepted 0 ≤ system.accepted 0 + system.backlog 0 := by
  have runs : machine.run nobody twoServers = some _ := rfl
  refine ⟨_, _, runs, rfl, rfl, rfl, ?_⟩
  exact orphan_starves (bound_of_step rfl rfl rfl) (fun same => by cases same)
    (Machine.path_of_run (show machine.run _ orphanRun = some _ from rfl))

end SockName
