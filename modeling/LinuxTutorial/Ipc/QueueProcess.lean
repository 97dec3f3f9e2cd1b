import LinuxTutorial.Ipc.MessageQueue
import LinuxTutorial.Shared.Progress
import Mathlib.Tactic.Cases

set_option autoImplicit false

/-!
main of the producer sends its threads a signal, which ends a call that waits; main of the
consumer does not.
-/

namespace QueueProcess

open CText MessageQueue Transition

/-- Where a thread is. A signal for a thread that is on its way into its call is handled there. -/
inductive Thread where
  | absent
  | head
  | enter
  | inside
  | sleeping
  | ended
  deriving DecidableEq

inductive Main where
  | openQueue
  | createSend
  | createReceive
  | sleep
  | setQuit
  | killSend
  | killReceive
  | joinSend
  | joinReceive
  | close
  | exited
  | undefined
  deriving DecidableEq

structure Program where
  sends : Bool
  signals : Bool

def producer : Program where
  sends := true
  signals := true

def consumer : Program where
  sends := false
  signals := false

structure State where
  mq : MessageQueue.State
  quit : Bool
  main : Main
  sender : Thread
  receiver : Thread

inductive Label where
  | main (ok : Bool)
  | sender
  | receiver (stale : Buffer bufferSize)
  | other (label : MessageQueue.Label)
  -- by a process that is neither a producer nor a consumer
  | put (message : Message)

-- This process is producer 0 and receiver 0 of the queue.
def foreign : MessageQueue.Label → Bool
  | .send number _ | .receive number _ | .receiveFailed number => number != 0

def Program.create (program : Program) : Main :=
  if program.sends then .createSend else .createReceive

def Program.join (program : Program) : Main := if program.sends then .joinSend else .joinReceive

-- What pthread_kill does to send_thread, and to receive_thread: EINTR.
def Thread.signalledSender : Thread → Thread
  | .inside => .sleeping
  | .sleeping => .head
  | other => other

def Thread.signalledReceiver : Thread → Thread
  | .inside => .head
  | other => other

def State.interrupted (attr : Attr) (state : State) : Option MessageQueue.State :=
  if state.sender = .inside then MessageQueue.step attr state.mq (.send 0 false)
  else some state.mq

theorem interrupted_some (attr : Attr) (state : State) :
    ∃ mq, state.interrupted attr = some mq := by
  unfold State.interrupted
  split_ifs with inside
  · exact ⟨_, rfl⟩
  · exact ⟨_, rfl⟩

def mainStep (program : Program) (attr : Attr) (state : State) (ok : Bool) : Option State :=
  match state.main with
  | .openQueue => some { state with main := if ok then program.create else .exited }
  -- the result is ignored: without a thread the pthread_t stays unset
  | .createSend =>
    some { state with sender := if ok then .head else .absent, main := .createReceive }
  | .createReceive => some { state with receiver := if ok then .head else .absent, main := .sleep }
  | .sleep => some { state with main := .setQuit }
  | .setQuit =>
    some { state with quit := true, main := if program.signals then .killSend else program.join }
  | .killSend =>
    if state.sender = .absent then some { state with main := .undefined }
    else (state.interrupted attr).map fun mq =>
      { state with mq := mq, sender := state.sender.signalledSender, main := .killReceive }
  | .killReceive =>
    if state.receiver = .absent then some { state with main := .undefined }
    else some { state with receiver := state.receiver.signalledReceiver, main := program.join }
  | .joinSend =>
    if state.sender = .absent then some { state with main := .undefined }
    else if state.sender = .ended then some { state with main := .joinReceive }
    else none
  | .joinReceive =>
    if state.receiver = .absent then some { state with main := .undefined }
    else if state.receiver = .ended then some { state with main := .close }
    else none
  | .close => some { state with main := .exited }
  | .exited | .undefined => none

def State.fits (attr : Attr) (state : State) : Prop :=
  (helloMessage (state.mq.attempts 0 + 1)).length ≤ attr.msgsize

instance (attr : Attr) (state : State) : Decidable (state.fits attr) :=
  inferInstanceAs (Decidable (_ ≤ _))

def sendThread (attr : Attr) (state : State) : Option State :=
  match state.sender with
  | .head => some { state with sender := if state.quit then .ended else .enter }
  | .enter => some { state with sender := .inside }
  | .inside =>
    (MessageQueue.step attr state.mq (.send 0 (state.fits attr))).map fun mq =>
      { state with mq := mq, sender := .sleeping }
  | .sleeping => some { state with sender := .head }
  | .absent | .ended => none

-- The next message stays in the buffer when it is received and when it is printed.
def State.prints (state : State) (stale : Buffer bufferSize) : Bool :=
  state.mq.queue.head?.all fun message => (receiveText stale message.text).isSome

def receiveThread (attr : Attr) (state : State) (stale : Buffer bufferSize) : Option State :=
  match state.receiver with
  | .head => some { state with receiver := if state.quit then .ended else .enter }
  | .enter => some { state with receiver := .inside }
  | .inside =>
    (MessageQueue.step attr state.mq (.receive 0 stale)).map fun mq =>
      { state with
        mq := mq
        receiver := .head
        main := if state.prints stale then state.main else .undefined }
  | .absent | .sleeping | .ended => none

def step (program : Program) (attr : Attr) (state : State) : Label → Option State
  | .main ok => mainStep program attr state ok
  | .sender => sendThread attr state
  | .receiver stale => receiveThread attr state stale
  | .other label =>
    if foreign label then
      (MessageQueue.step attr state.mq label).map fun mq => { state with mq := mq }
    else none
  | .put message =>
    if state.mq.queue.length < attr.maxmsg ∧ message.text.length ≤ attr.msgsize then
      some { state with mq := { state.mq with queue := enqueue message state.mq.queue } }
    else none

def start (queue : List Message) : State where
  mq := MessageQueue.start queue
  quit := false
  main := .openQueue
  sender := .absent
  receiver := .absent

def machine (program : Program) (attr : Attr) : Machine State Label where
  initial state := ∃ queue, Leftovers attr queue ∧ state = start queue
  step := step program attr

-- The steps after which the source says how the process goes on.
def Sound (state : State) : Label → Prop
  | .main ok => state.main = .createSend ∨ state.main = .createReceive → ok = true
  | .receiver stale => state.receiver = .inside → state.prints stale = true
  | _ => True

instance : ∀ state label, Decidable (Sound state label)
  | state, .main ok =>
    inferInstanceAs (Decidable (state.main = .createSend ∨ state.main = .createReceive → ok = true))
  | state, .receiver stale =>
    inferInstanceAs (Decidable (state.receiver = .inside → state.prints stale = true))
  | _, .sender | _, .other _ | _, .put _ => isTrue trivial

variable {program : Program} {attr : Attr} {state next : State}

inductive MainMoves (program : Program) (attr : Attr) (state : State) : Bool → State → Prop
  | opened (here : state.main = .openQueue) :
      MainMoves program attr state true { state with main := program.create }
  | unopened (here : state.main = .openQueue) :
      MainMoves program attr state false { state with main := .exited }
  | createdSend (ok : Bool) (here : state.main = .createSend) :
      MainMoves program attr state ok
        { state with sender := if ok then .head else .absent, main := .createReceive }
  | createdReceive (ok : Bool) (here : state.main = .createReceive) :
      MainMoves program attr state ok
        { state with receiver := if ok then .head else .absent, main := .sleep }
  | slept (ok : Bool) (here : state.main = .sleep) :
      MainMoves program attr state ok { state with main := .setQuit }
  | quitSet (ok : Bool) (here : state.main = .setQuit) :
      MainMoves program attr state ok
        { state with quit := true, main := if program.signals then .killSend else program.join }
  | killedSend (ok : Bool) (here : state.main = .killSend) (mq : MessageQueue.State)
      (interrupted : state.interrupted attr = some mq) :
      MainMoves program attr state ok
        { state with mq := mq, sender := state.sender.signalledSender, main := .killReceive }
  | killedReceive (ok : Bool) (here : state.main = .killReceive) :
      MainMoves program attr state ok
        { state with receiver := state.receiver.signalledReceiver, main := program.join }
  | joinedSend (ok : Bool) (here : state.main = .joinSend) (ended : state.sender = .ended) :
      MainMoves program attr state ok { state with main := .joinReceive }
  | joinedReceive (ok : Bool) (here : state.main = .joinReceive)
      (ended : state.receiver = .ended) :
      MainMoves program attr state ok { state with main := .close }
  | closed (ok : Bool) (here : state.main = .close) :
      MainMoves program attr state ok { state with main := .exited }
  | lostSend (ok : Bool) (here : state.main = .killSend ∨ state.main = .joinSend)
      (absent : state.sender = .absent) :
      MainMoves program attr state ok { state with main := .undefined }
  | lostReceive (ok : Bool) (here : state.main = .killReceive ∨ state.main = .joinReceive)
      (absent : state.receiver = .absent) :
      MainMoves program attr state ok { state with main := .undefined }

theorem mainStep_moves {ok : Bool} (moved : mainStep program attr state ok = some next) :
    MainMoves program attr state ok next := by
  unfold mainStep at moved
  cases here : state.main <;> simp only [here, Option.some.injEq, reduceCtorEq] at moved
  case openQueue =>
    subst moved
    cases ok with
    | true => exact .opened here
    | false => exact .unopened here
  case createSend => exact moved ▸ .createdSend ok here
  case createReceive => exact moved ▸ .createdReceive ok here
  case sleep => exact moved ▸ .slept ok here
  case setQuit => exact moved ▸ .quitSet ok here
  case killSend =>
    split_ifs at moved with absent
    · exact Option.some.inj moved ▸ .lostSend ok (.inl here) absent
    · obtain ⟨mq, interrupted, rfl⟩ := Option.map_eq_some_iff.mp moved
      exact .killedSend ok here mq interrupted
  case killReceive =>
    split_ifs at moved with absent
    · exact Option.some.inj moved ▸ .lostReceive ok (.inl here) absent
    · exact Option.some.inj moved ▸ .killedReceive ok here
  case joinSend =>
    split_ifs at moved with absent ended
    · exact Option.some.inj moved ▸ .lostSend ok (.inr here) absent
    · exact Option.some.inj moved ▸ .joinedSend ok here ended
  case joinReceive =>
    split_ifs at moved with absent ended
    · exact Option.some.inj moved ▸ .lostReceive ok (.inr here) absent
    · exact Option.some.inj moved ▸ .joinedReceive ok here ended
  case close => exact moved ▸ .closed ok here

inductive SendMoves (attr : Attr) (state : State) : State → Prop
  | tests (here : state.sender = .head) :
      SendMoves attr state { state with sender := if state.quit then .ended else .enter }
  | enters (here : state.sender = .enter) : SendMoves attr state { state with sender := .inside }
  | sends (here : state.sender = .inside) (mq : MessageQueue.State)
      (called : MessageQueue.step attr state.mq (.send 0 (state.fits attr)) = some mq) :
      SendMoves attr state { state with mq := mq, sender := .sleeping }
  | wakes (here : state.sender = .sleeping) : SendMoves attr state { state with sender := .head }

theorem sendThread_moves (moved : sendThread attr state = some next) :
    SendMoves attr state next := by
  unfold sendThread at moved
  cases here : state.sender <;> simp only [here, Option.some.injEq, reduceCtorEq] at moved
  case head => exact moved ▸ .tests here
  case enter => exact moved ▸ .enters here
  case inside =>
    obtain ⟨mq, called, rfl⟩ := Option.map_eq_some_iff.mp moved
    exact .sends here mq called
  case sleeping => exact moved ▸ .wakes here

inductive ReceiveMoves (attr : Attr) (state : State) (stale : Buffer bufferSize) : State → Prop
  | tests (here : state.receiver = .head) :
      ReceiveMoves attr state stale
        { state with receiver := if state.quit then .ended else .enter }
  | enters (here : state.receiver = .enter) :
      ReceiveMoves attr state stale { state with receiver := .inside }
  | receives (here : state.receiver = .inside) (mq : MessageQueue.State)
      (called : MessageQueue.step attr state.mq (.receive 0 stale) = some mq)
      (prints : state.prints stale = true) :
      ReceiveMoves attr state stale { state with mq := mq, receiver := .head }
  | overruns (here : state.receiver = .inside) (mq : MessageQueue.State)
      (called : MessageQueue.step attr state.mq (.receive 0 stale) = some mq)
      (leaves : state.prints stale = false) :
      ReceiveMoves attr state stale
        { state with mq := mq, receiver := .head, main := .undefined }

theorem receiveThread_moves {stale : Buffer bufferSize}
    (moved : receiveThread attr state stale = some next) :
    ReceiveMoves attr state stale next := by
  unfold receiveThread at moved
  cases here : state.receiver <;> simp only [here, Option.some.injEq, reduceCtorEq] at moved
  case head => exact moved ▸ .tests here
  case enter => exact moved ▸ .enters here
  case inside =>
    obtain ⟨mq, called, rfl⟩ := Option.map_eq_some_iff.mp moved
    cases prints : state.prints stale with
    | true => simpa using .receives here mq called prints
    | false => simpa using .overruns here mq called prints

def Label.own : Label → Bool
  | .main _ | .sender | .receiver _ => true
  | .other _ | .put _ => false

theorem call_attempts {mq after : MessageQueue.State} {label : MessageQueue.Label}
    (elsewhere : ∀ ok, label ≠ .send 0 ok)
    (moved : MessageQueue.step attr mq label = some after) :
    after.attempts 0 = mq.attempts 0 := by
  cases label with
  | send number ok =>
    have different : 0 ≠ number := by
      rintro rfl
      exact elsewhere ok rfl
    simp only [MessageQueue.step, sendStep] at moved
    split_ifs at moved <;> cases moved <;> exact Function.update_of_ne different _ _
  | receive number stale =>
    cases waiting : mq.queue with
    | nil => simp [MessageQueue.step, waiting] at moved
    | cons message rest =>
      simp only [MessageQueue.step, waiting] at moved
      cases moved
      rfl
  | receiveFailed number =>
    cases moved
    rfl

theorem others_move {label : Label} (others : label.own = false)
    (moved : step program attr state label = some next) :
    ∃ mq, next = { state with mq := mq } ∧ mq.attempts 0 = state.mq.attempts 0 := by
  cases label with
  | main ok | sender | receiver stale => cases others
  | other label =>
    simp only [step] at moved
    split_ifs at moved with foreigner
    obtain ⟨mq, called, rfl⟩ := Option.map_eq_some_iff.mp moved
    refine ⟨mq, rfl, call_attempts ?_ called⟩
    rintro ok rfl
    simp [foreign] at foreigner
  | put message =>
    simp only [step] at moved
    split_ifs at moved
    cases moved
    exact ⟨_, rfl, rfl⟩

def Known (_ : State) (label : Label) : Prop := ∀ message, label ≠ .put message

theorem step_calls {label : Label} (known : Known state label)
    (moved : step program attr state label = some next) :
    next.mq = state.mq ∨ ∃ call, MessageQueue.step attr state.mq call = some next.mq := by
  cases label with
  | main ok =>
    cases mainStep_moves moved with
    | killedSend _ here mq interrupted =>
      unfold State.interrupted at interrupted
      split_ifs at interrupted
      · exact .inr ⟨_, interrupted⟩
      · exact .inl (Option.some.inj interrupted).symm
    | opened | unopened | createdSend | createdReceive | slept | quitSet | killedReceive
    | joinedSend | joinedReceive | closed | lostSend | lostReceive => exact .inl rfl
  | sender =>
    cases sendThread_moves moved with
    | sends _ mq called => exact .inr ⟨_, called⟩
    | tests | enters | wakes => exact .inl rfl
  | receiver stale =>
    cases receiveThread_moves moved with
    | receives _ mq called | overruns _ mq called => exact .inr ⟨_, called⟩
    | tests | enters => exact .inl rfl
  | other label =>
    simp only [step] at moved
    split_ifs at moved with foreigner
    obtain ⟨mq, called, rfl⟩ := Option.map_eq_some_iff.mp moved
    exact .inr ⟨label, called⟩
  | put message => exact absurd rfl (known message)

/-- The programs among producers and consumers: what they do to the queue is a run of it. -/
theorem queue_reachable (reached : (machine program attr).ReachableBy Known state) :
    (MessageQueue.machine attr).Reachable state.mq := by
  apply reached.holds
  · rintro _ ⟨queue, leftovers, rfl⟩
    exact ⟨_, [], ⟨queue, leftovers, rfl⟩, .nil _⟩
  · intro before label after reached known moved
    rcases step_calls known moved with same | ⟨call, called⟩
    · rwa [same]
    · exact reached.later (.cons trivial called (.nil _))

end QueueProcess
