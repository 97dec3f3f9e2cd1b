import LinuxTutorial.Ipc.MessageQueue
import Mathlib.Data.List.Count

set_option autoImplicit false

namespace MessageQueue

open CText Transition

def isDigit (byte : UInt8) : Bool := 48 ≤ byte && byte ≤ 57

def decodeCount (text : List UInt8) : Option Nat :=
  let greeting := ascii "Hello, Receiver; count["
  let number := (text.drop greeting.length).takeWhile isDigit
  if text = greeting ++ number ++ ascii "]." then some (digitsValue number) else none

theorem decodeCount_helloMessage {count : Nat} (small : count < 2 ^ 31) :
    decodeCount (helloMessage count) = some count := by
  have plain : decimal (Int32.ofNat count).toInt = digits count := by
    rw [Int32.toInt_ofNat_of_lt small, decimal, if_neg (by omega), Int.natAbs_natCast]
  have number : (digits count ++ ascii "].").takeWhile isDigit = digits count := by
    rw [List.takeWhile_append_of_pos]
    · have bracket : (ascii "].").takeWhile isDigit = [] := by decide
      rw [bracket, List.append_nil]
    · intro byte member
      simpa [isDigit] using digit_of_mem_digits member
  rw [helloMessage, plain, decodeCount]
  simp only [List.append_assoc, List.drop_left, number, if_true, digitsValue_digits]

def takenMessages (state : State) : List Message := state.taken.map (·.message)

def decodedCounts (producer : Nat) (messages : List Message) : List (Option Nat) :=
  (messages.filter fun message => message.origin.map Prod.fst = some producer).map
    fun message => decodeCount message.text

structure Numbered (state : State) (producer : Nat) : Prop where
  increasing : ∃ counts : List Nat,
    decodedCounts producer (takenMessages state) = counts.map some ∧ counts.Pairwise (· < ·)
  once : ∀ count,
    (decodedCounts producer (takenMessages state)).count (some count) +
        (decodedCounts producer state.queue).count (some count) +
        state.failed.count (producer, count) =
      if 1 ≤ count ∧ count ≤ state.attempts producer then 1 else 0

def countsOf (producer : Nat) (messages : List Message) : List Nat :=
  messages.filterMap fun message =>
    message.origin.bind fun origin => if origin.1 = producer then some origin.2 else none

theorem countsOf_append (producer : Nat) (first second : List Message) :
    countsOf producer (first ++ second) = countsOf producer first ++ countsOf producer second :=
  List.filterMap_append

theorem enqueue_lowest {message : Message} (lowest : message.priority = 0)
    (queue : List Message) : enqueue message queue = queue ++ [message] := by
  induction queue with
  | nil => rfl
  | cons first rest ih => simp [enqueue, lowest, ih]

def sentMessages (state : State) : List Message := takenMessages state ++ state.queue

structure Ordered (state : State) : Prop where
  texts : ∀ message, message ∈ sentMessages state → ∀ producer count,
    message.origin = some (producer, count) → message.text = helloMessage count
  increasing : ∀ producer, (countsOf producer (sentMessages state)).Pairwise (· < ·)
  once : ∀ producer count,
    (countsOf producer (sentMessages state)).count count +
        state.failed.count (producer, count) =
      if 1 ≤ count ∧ count ≤ state.attempts producer then 1 else 0

variable {attr : Attr} {state : State}

theorem ordered_bound (ordered : Ordered state) {producer count : Nat}
    (member : count ∈ countsOf producer (sentMessages state)) :
    1 ≤ count ∧ count ≤ state.attempts producer := by
  have once := ordered.once producer count
  have present := List.count_pos_iff.mpr member
  split_ifs at once with inside
  · exact inside
  · omega

theorem ordered_start {queue : List Message} (leftovers : Leftovers attr queue) :
    Ordered (start queue) := by
  have none (producer : Nat) : countsOf producer (sentMessages (start queue)) = [] := by
    apply List.filterMap_eq_nil_iff.mpr
    intro message member
    simp [leftovers.origin message (by simpa [sentMessages, takenMessages, start] using member)]
  constructor
  · intro message member producer count origin
    have missing := leftovers.origin message
      (by simpa [sentMessages, takenMessages, start] using member)
    rw [missing] at origin
    cases origin
  · intro producer
    rw [none]
    exact List.Pairwise.nil
  · intro producer count
    rw [none]
    have beyond : ¬ (1 ≤ count ∧ count ≤ 0) := by omega
    simp only [start, List.count_nil, beyond, if_false]

theorem attempt_number (attempts : Nat → Nat) (producer other count : Nat) :
    (if 1 ≤ count ∧ count ≤ Function.update attempts producer (attempts producer + 1) other
        then 1 else 0) =
      (if 1 ≤ count ∧ count ≤ attempts other then 1 else 0) +
        if other = producer ∧ count = attempts producer + 1 then 1 else 0 := by
  by_cases same : other = producer
  · subst same
    rw [Function.update_self]
    split_ifs <;> omega
  · rw [Function.update_of_ne same]
    simp [same]

theorem countsOf_sent (producer other count : Nat) (text : List UInt8) :
    countsOf other [{ text := text, priority := 0, origin := some (producer, count) }] =
      if producer = other then [count] else [] := by
  by_cases same : producer = other <;> simp [countsOf, same]

theorem ordered_sent (ordered : Ordered state) (producer : Nat) :
    Ordered
      { state with
        attempts := Function.update state.attempts producer (state.attempts producer + 1)
        queue := enqueue
          { text := helloMessage (state.attempts producer + 1), priority := 0
            origin := some (producer, state.attempts producer + 1) } state.queue } := by
  rw [enqueue_lowest rfl]
  constructor
  · intro message member other count origin
    simp only [sentMessages, takenMessages, ← List.append_assoc, List.mem_append,
      List.mem_singleton] at member
    rcases member with earlier | rfl
    · apply ordered.texts message _ other count origin
      simpa [sentMessages, takenMessages] using earlier
    · cases origin
      rfl
  · intro other
    have before := ordered.increasing other
    simp only [sentMessages, takenMessages, ← List.append_assoc] at before ⊢
    rw [countsOf_append, countsOf_sent]
    by_cases same : producer = other
    · subst same
      rw [if_pos rfl]
      apply List.pairwise_append.mpr
      refine ⟨before, List.pairwise_singleton _ _, ?_⟩
      intro earlier member last newest
      have bound := (ordered_bound ordered member).2
      have number := List.mem_singleton.mp newest
      omega
    · rw [if_neg same, List.append_nil]
      exact before
  · intro other count
    have before := ordered.once other count
    simp only [sentMessages, takenMessages, ← List.append_assoc] at before ⊢
    rw [attempt_number, ← before, countsOf_append, countsOf_sent, List.count_append]
    by_cases same : producer = other
    · subst same
      by_cases newest : count = state.attempts producer + 1
      · simp [newest]
        omega
      · have other : ¬ state.attempts producer + 1 = count := fun equal => newest equal.symm
        simp [newest, other]
    · have different : ¬ other = producer := fun equal => same equal.symm
      simp [same, different]

theorem ordered_failed (ordered : Ordered state) (producer : Nat) :
    Ordered
      { state with
        attempts := Function.update state.attempts producer (state.attempts producer + 1)
        failed := state.failed ++ [(producer, state.attempts producer + 1)] } where
  texts := ordered.texts
  increasing := ordered.increasing
  once other count := by
    have before := ordered.once other count
    simp only [sentMessages, takenMessages] at before ⊢
    rw [attempt_number, ← before, List.count_append]
    by_cases newest : other = producer ∧ count = state.attempts producer + 1
    · simp [newest]
      omega
    · have different : ¬ (producer, state.attempts producer + 1) = (other, count) := by
        intro equal
        cases equal
        exact newest ⟨rfl, rfl⟩
      simp [newest, different]

theorem ordered_step {label : Label} {next : State} (ordered : Ordered state)
    (moved : step attr state label = some next) : Ordered next := by
  cases label with
  | send producer ok =>
    simp only [step, sendStep] at moved
    split_ifs at moved
    · cases moved
      exact ordered_sent ordered producer
    · cases moved
      exact ordered_failed ordered producer
  | receive receiver stale =>
    cases waiting : state.queue with
    | nil => simp [step, waiting] at moved
    | cons message rest =>
      simp only [step, waiting] at moved
      cases moved
      -- the message goes from the front of the queue to the end of what was taken
      have same : sentMessages
          { state with
            queue := rest
            taken := state.taken ++
              [⟨receiver, message, stale, receiveText stale message.text⟩] } =
          sentMessages state := by
        simp [sentMessages, takenMessages, waiting]
      constructor
      · rw [same]
        exact ordered.texts
      · rw [same]
        exact ordered.increasing
      · rw [same]
        exact ordered.once
  | receiveFailed receiver =>
    cases moved
    exact ordered

theorem ordered_reachable (reached : (machine attr).Reachable state) : Ordered state := by
  apply reached.holds
  · rintro _ ⟨queue, leftovers, rfl⟩
    exact ordered_start leftovers
  · intro before label after ordered _ moved
    exact ordered_step ordered moved

theorem decodedCounts_eq {producer : Nat} {messages : List Message}
    (texts : ∀ message, message ∈ messages → ∀ count,
      message.origin = some (producer, count) → decodeCount message.text = some count) :
    decodedCounts producer messages = (countsOf producer messages).map some := by
  induction messages with
  | nil => rfl
  | cons message messages ih =>
    have later := ih fun other member => texts other (List.mem_cons_of_mem _ member)
    have split : countsOf producer (message :: messages) =
        countsOf producer [message] ++ countsOf producer messages :=
      countsOf_append producer [message] messages
    rw [split, List.map_append, ← later]
    cases origin : message.origin with
    | none => simp [decodedCounts, countsOf, origin]
    | some from' =>
      obtain ⟨sender, count⟩ := from'
      by_cases mine : sender = producer
      · subst mine
        have text := texts message List.mem_cons_self count origin
        simp [decodedCounts, countsOf, origin, text]
      · simp [decodedCounts, countsOf, origin, mine]

theorem messages_numbered (attr : Attr) (state : State)
    (reached : (machine attr).Reachable state) (producer : Nat)
    (few : state.attempts producer < 2 ^ 31) : Numbered state producer := by
  have ordered := ordered_reachable reached
  have texts (message : Message) (member : message ∈ sentMessages state) (count : Nat)
      (origin : message.origin = some (producer, count)) :
      decodeCount message.text = some count := by
    have sent : count ∈ countsOf producer (sentMessages state) := by
      apply List.mem_filterMap.mpr
      exact ⟨message, member, by simp [origin]⟩
    have bound := (ordered_bound ordered sent).2
    rw [ordered.texts message member producer count origin]
    exact decodeCount_helloMessage (by omega)
  have taken := decodedCounts_eq fun message member =>
    texts message (List.mem_append_left state.queue member)
  have queued := decodedCounts_eq fun message member =>
    texts message (List.mem_append_right (takenMessages state) member)
  have increasing := ordered.increasing producer
  rw [sentMessages, countsOf_append] at increasing
  constructor
  · exact ⟨_, taken, (List.pairwise_append.mp increasing).1⟩
  · intro count
    have once := ordered.once producer count
    have injective : Function.Injective (some : Nat → Option Nat) := Option.some_injective Nat
    rw [taken, queued, List.count_map_of_injective _ _ injective,
      List.count_map_of_injective _ _ injective, ← List.count_append, ← countsOf_append]
    exact once

def numberedRun : List Label :=
  [.send 0 true, .send 1 false, .send 1 true, .receive 2 (Buffer.fill bufferSize 0),
    .send 0 true, .receive 3 (Buffer.fill bufferSize 0)]

theorem messages_numbered_producers :
    ∃ state, (machine ⟨8192, 10⟩).run (start []) numberedRun = some state ∧
      Numbered state 0 ∧ Numbered state 1 := by
  have completed : (machine ⟨8192, 10⟩).run (start []) numberedRun = some _ := rfl
  have initial : (machine ⟨8192, 10⟩).initial (start []) := ⟨[], ⟨by simp, nofun, nofun⟩, rfl⟩
  have reached := Machine.reachable_of_run initial completed
  refine ⟨_, rfl, ?_, ?_⟩
  · exact messages_numbered ⟨8192, 10⟩ _ reached 0 (by decide)
  · exact messages_numbered ⟨8192, 10⟩ _ reached 1 (by decide)

end MessageQueue
