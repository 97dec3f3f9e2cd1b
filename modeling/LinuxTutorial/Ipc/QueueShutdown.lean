import LinuxTutorial.Ipc.QueueProcess

set_option autoImplicit false

namespace QueueProcess

open CText MessageQueue Transition

@[simp] def Thread.live : Thread → Bool
  | .absent | .ended => false
  | _ => true

@[simp] def Main.late : Main → Bool
  | .killSend | .killReceive | .joinSend | .joinReceive | .close => true
  | _ => false

@[simp] def Main.hasSender : Main → Bool
  | .createReceive | .sleep | .setQuit | .killSend | .killReceive | .joinSend => true
  | _ => false

@[simp] def Main.hasReceiver : Main → Bool
  | .sleep | .setQuit | .killSend | .killReceive | .joinSend | .joinReceive => true
  | _ => false

structure Orderly (program : Program) (state : State) : Prop where
  late : state.main.late = true → state.quit = true
  quit : state.quit = true → state.main.late = true ∨ state.main = .exited
  sender : state.sender.live = true → state.main.hasSender = true ∧ program.sends = true
  receiver : state.receiver.live = true → state.main.hasReceiver = true
  -- a signal or a join finds a thread that was created
  sends : state.main.hasSender = true → program.sends = true → state.sender ≠ .absent
  sending : state.main = .createSend ∨ state.main = .killSend ∨ state.main = .joinSend →
    program.sends = true
  receives : state.main.hasReceiver = true → state.receiver ≠ .absent
  awake : state.receiver ≠ .sleeping

variable {program : Program} {attr : Attr} {state next : State}

theorem orderly_mq (orderly : Orderly program state) (mq : MessageQueue.State) :
    Orderly program { state with mq := mq } :=
  ⟨orderly.late, orderly.quit, orderly.sender, orderly.receiver, orderly.sends, orderly.sending,
    orderly.receives, orderly.awake⟩

theorem orderly_sender {sender : Thread} {mq : MessageQueue.State} (orderly : Orderly program state)
    (live : state.sender.live = true) (present : sender ≠ .absent) :
    Orderly program { state with mq := mq, sender := sender } :=
  ⟨orderly.late, orderly.quit, fun _ => orderly.sender live, orderly.receiver,
    fun _ _ => present, orderly.sending, orderly.receives, orderly.awake⟩

theorem orderly_receiver {receiver : Thread} {mq : MessageQueue.State}
    (orderly : Orderly program state)
    (live : state.receiver.live = true) (present : receiver ≠ .absent)
    (awake : receiver ≠ .sleeping) :
    Orderly program { state with mq := mq, receiver := receiver } :=
  ⟨orderly.late, orderly.quit, orderly.sender, fun _ => orderly.receiver live,
    orderly.sends, orderly.sending, fun _ => present, awake⟩

theorem SendMoves.orderly (moves : SendMoves attr state next)
    (orderly : Orderly program state) : Orderly program next := by
  cases moves with
  | tests here => exact orderly_sender orderly (by simp [here]) (by cases state.quit <;> simp)
  | enters here | sends here | wakes here =>
    exact orderly_sender orderly (by simp [here]) (by simp)

theorem ReceiveMoves.orderly {stale : Buffer bufferSize}
    (moves : ReceiveMoves attr state stale next) (sound : Sound state (.receiver stale))
    (orderly : Orderly program state) : Orderly program next := by
  cases moves with
  | tests here =>
    refine orderly_receiver orderly (by simp [here]) ?_ ?_ <;> cases state.quit <;> simp
  | enters here | receives here =>
    exact orderly_receiver orderly (by simp [here]) (by simp) (by simp)
  | overruns here mq _ leaves => simp [sound here] at leaves

theorem signalledSender_absent (thread : Thread) :
    thread.signalledSender = .absent ↔ thread = .absent := by
  cases thread <;> simp [Thread.signalledSender]

theorem signalledReceiver_absent (thread : Thread) :
    thread.signalledReceiver = .absent ↔ thread = .absent := by
  cases thread <;> simp [Thread.signalledReceiver]

theorem signalledReceiver_sleeping (thread : Thread) :
    thread.signalledReceiver = .sleeping ↔ thread = .sleeping := by
  cases thread <;> simp [Thread.signalledReceiver]

-- main sends signals only where it has a sender to signal.
theorem MainMoves.orderly {ok : Bool} (moves : MainMoves program attr state ok next)
    (signalling : program.signals = true → program.sends = true)
    (sound : Sound state (.main ok)) (orderly : Orderly program state) :
    Orderly program next := by
  obtain ⟨late, quit, sender, receiver, sends, sending, receives, awake⟩ := orderly
  cases moves with
  | opened here =>
    cases kind : program.sends <;> constructor <;> simp_all [Program.create]
  | createdSend ok here =>
    obtain rfl : ok = true := sound (.inl here)
    constructor <;> simp_all
  | createdReceive ok here =>
    obtain rfl : ok = true := sound (.inr here)
    constructor <;> simp_all
  | quitSet _ here =>
    cases kind : program.sends <;> cases signalled : program.signals <;> constructor <;>
      simp_all [Program.join]
  | killedSend _ here =>
    constructor <;> simp_all [signalledSender_absent]
  | killedReceive _ here =>
    cases kind : program.sends <;> constructor <;>
      simp_all [Program.join, signalledReceiver_absent, signalledReceiver_sleeping]
  | unopened here | slept _ here | joinedSend _ here | joinedReceive _ here | closed _ here =>
    constructor <;> simp_all
  | lostSend _ here absent =>
    exact absurd absent (sends (by rcases here with here | here <;> simp [here])
      (sending (by rcases here with here | here <;> simp [here])))
  | lostReceive _ here absent =>
    exact absurd absent (receives (by rcases here with here | here <;> simp [here]))

theorem orderly_step {label : Label} (signalling : program.signals = true → program.sends = true)
    (orderly : Orderly program state) (sound : Sound state label)
    (moved : step program attr state label = some next) : Orderly program next := by
  cases label with
  | main ok => exact (mainStep_moves moved).orderly signalling sound orderly
  | sender => exact (sendThread_moves moved).orderly orderly
  | receiver stale => exact (receiveThread_moves moved).orderly sound orderly
  | other | put =>
    obtain ⟨mq, rfl, -⟩ := others_move rfl moved
    exact orderly_mq orderly mq

theorem orderly_start (program : Program) (queue : List Message) :
    Orderly program (start queue) := by
  constructor <;> simp [start]

theorem orderly_reachable (signalling : program.signals = true → program.sends = true)
    (reached : (machine program attr).ReachableBy Sound state) : Orderly program state := by
  apply reached.holds
  · rintro _ ⟨queue, -, rfl⟩
    exact orderly_start program queue
  · intro before label after orderly sound moved
    exact orderly_step signalling orderly sound moved

theorem signalling_of_kind (kind : program = producer ∨ program = consumer) :
    program.signals = true → program.sends = true := by
  rcases kind with rfl | rfl <;> simp [producer, consumer]

def Main.remaining : Main → Nat
  | .killSend => 5
  | .killReceive => 4
  | .joinSend => 3
  | .joinReceive => 2
  | .close => 1
  | _ => 0

def Thread.remaining : Thread → Nat
  | .enter => 4
  | .inside => 3
  | .sleeping => 2
  | .head => 1
  | .absent | .ended => 0

def remaining (state : State) : Nat :=
  state.main.remaining + state.sender.remaining + state.receiver.remaining

def OwnStep (_ : State) (label : Label) : Prop := label.own = true

structure Quitting (program : Program) (state : State) : Prop where
  orderly : Orderly program state
  quit : state.quit = true

theorem signalledSender_remaining (thread : Thread) :
    thread.signalledSender.remaining ≤ thread.remaining := by
  cases thread <;> decide

theorem signalledReceiver_remaining (thread : Thread) :
    thread.signalledReceiver.remaining ≤ thread.remaining := by
  cases thread <;> decide

theorem join_remaining (program : Program) : program.join.remaining ≤ 3 := by
  cases kind : program.sends <;> simp [Program.join, kind, Main.remaining]

theorem MainMoves.lowers {ok : Bool} (moves : MainMoves program attr state ok next)
    (quitting : Quitting program state) : next.quit = true ∧ remaining next < remaining state := by
  have sender := signalledSender_remaining state.sender
  have receiver := signalledReceiver_remaining state.receiver
  have join := join_remaining program
  have late := quitting.orderly.quit quitting.quit
  cases moves with
  | opened here | unopened here | createdSend _ here | createdReceive _ here | slept _ here
  | quitSet _ here => simp [here] at late
  | killedSend _ here =>
    refine ⟨quitting.quit, ?_⟩
    simp only [remaining, here, Main.remaining]
    omega
  | killedReceive _ here =>
    refine ⟨quitting.quit, ?_⟩
    have place : state.main.remaining = 4 := by rw [here]; rfl
    simp only [remaining, place]
    omega
  | joinedSend _ here | joinedReceive _ here | closed _ here =>
    refine ⟨quitting.quit, ?_⟩
    simp only [remaining, here, Main.remaining]
    omega
  | lostSend _ here | lostReceive _ here =>
    refine ⟨quitting.quit, ?_⟩
    rcases here with here | here <;>
    · simp only [remaining, here, Main.remaining]
      omega

theorem SendMoves.lowers (moves : SendMoves attr state next) (quit : state.quit = true) :
    next.quit = true ∧ remaining next < remaining state := by
  cases moves with
  | tests here | enters here | sends here | wakes here =>
    refine ⟨quit, ?_⟩
    simp only [remaining, here, quit, if_true, Thread.remaining]
    omega

theorem ReceiveMoves.lowers {stale : Buffer bufferSize}
    (moves : ReceiveMoves attr state stale next) (quit : state.quit = true) :
    next.quit = true ∧ remaining next < remaining state := by
  cases moves with
  | tests here | enters here | receives here =>
    refine ⟨quit, ?_⟩
    simp only [remaining, here, quit, if_true, Thread.remaining]
    omega
  | overruns here =>
    refine ⟨quit, ?_⟩
    simp only [remaining, here, Main.remaining, Thread.remaining]
    omega

theorem quitting_step {label : Label} (signalling : program.signals = true → program.sends = true)
    (quitting : Quitting program state) (sound : Sound state label)
    (moved : step program attr state label = some next) :
    Quitting program next ∧ remaining next + (if label.own then 1 else 0) ≤ remaining state := by
  have orderly := orderly_step signalling quitting.orderly sound moved
  cases label with
  | main ok =>
    obtain ⟨quit, less⟩ := (mainStep_moves moved).lowers quitting
    exact ⟨⟨orderly, quit⟩, less⟩
  | sender =>
    obtain ⟨quit, less⟩ := (sendThread_moves moved).lowers quitting.quit
    exact ⟨⟨orderly, quit⟩, less⟩
  | receiver stale =>
    obtain ⟨quit, less⟩ := (receiveThread_moves moved).lowers quitting.quit
    exact ⟨⟨orderly, quit⟩, less⟩
  | other | put =>
    obtain ⟨mq, rfl, -⟩ := others_move rfl moved
    exact ⟨⟨orderly, quitting.quit⟩, le_refl _⟩

inductive Blocked (attr : Attr) (state : State) : Prop
  | sends (main : state.main = .joinSend) (sender : state.sender = .inside)
      (fits : state.fits attr) (full : attr.maxmsg ≤ state.mq.queue.length)
  | receives (main : state.main = .joinReceive) (receiver : state.receiver = .inside)
      (empty : state.mq.queue = [])

theorem sender_stuck (live : state.sender.live = true) (stuck : sendThread attr state = none) :
    state.sender = .inside ∧ state.fits attr ∧ attr.maxmsg ≤ state.mq.queue.length := by
  unfold sendThread at stuck
  cases here : state.sender <;> simp [here] at live stuck
  case inside =>
    simp only [MessageQueue.step, sendStep] at stuck
    split_ifs at stuck with fits room
    have fits : state.fits attr := of_decide_eq_true fits
    refine ⟨rfl, fits, ?_⟩
    by_contra free
    exact room ⟨by omega, fits⟩

theorem receiver_stuck {stale : Buffer bufferSize} (live : state.receiver.live = true)
    (awake : state.receiver ≠ .sleeping) (stuck : receiveThread attr state stale = none) :
    state.receiver = .inside ∧ state.mq.queue = [] := by
  unfold receiveThread at stuck
  cases here : state.receiver <;> simp [here] at live stuck awake
  case inside =>
    cases waiting : state.mq.queue with
    | nil => exact ⟨rfl, rfl⟩
    | cons message rest => simp [MessageQueue.step, waiting] at stuck

theorem live_of_join {thread : Thread} (created : thread ≠ .absent) (waits : thread ≠ .ended) :
    thread.live = true := by
  cases thread <;> simp_all

theorem quitting_stuck (quitting : Quitting program state)
    (stuck : (machine program attr).Stuck OwnStep state) :
    state.main = .exited ∨ Blocked attr state := by
  have orderly := quitting.orderly
  have late := orderly.quit quitting.quit
  have main : mainStep program attr state true = none := stuck (.main true) rfl
  have sender : sendThread attr state = none := stuck .sender rfl
  have receiver : receiveThread attr state (Buffer.fill bufferSize 0) = none :=
    stuck (.receiver _) rfl
  unfold mainStep at main
  cases here : state.main <;> simp only [here, reduceCtorEq] at main
  case killSend =>
    obtain ⟨mq, interrupted⟩ := interrupted_some attr state
    simp only [interrupted, Option.map_some] at main
    split_ifs at main
  case killReceive => split_ifs at main
  case joinSend =>
    split_ifs at main with absent ended
    have sends := orderly.sending (by simp [here])
    have live := live_of_join (orderly.sends (by simp [here]) sends) ended
    obtain ⟨inside, fits, full⟩ := sender_stuck live sender
    exact .inr (.sends here inside fits full)
  case joinReceive =>
    split_ifs at main with absent ended
    have live := live_of_join (orderly.receives (by simp [here])) ended
    obtain ⟨inside, empty⟩ := receiver_stuck live orderly.awake receiver
    exact .inr (.receives here inside empty)
  case exited => exact .inl rfl
  case undefined => simp [here] at late

theorem remaining_le (state : State) : remaining state ≤ 13 := by
  have threads (thread : Thread) : thread.remaining ≤ 4 := by cases thread <;> decide
  have main : state.main.remaining ≤ 5 := by cases state.main <;> decide
  have sender := threads state.sender
  have receiver := threads state.receiver
  simp only [remaining]
  omega

theorem threads_gone (orderly : Orderly program state)
    (closing : state.main = .close ∨ state.main = .exited) :
    state.sender.live = false ∧ state.receiver.live = false := by
  constructor
  · by_contra live
    have present := (orderly.sender (Bool.eq_true_of_not_eq_false live)).1
    rcases closing with here | here <;> simp [here] at present
  · by_contra live
    have present := orderly.receiver (Bool.eq_true_of_not_eq_false live)
    rcases closing with here | here <;> simp [here] at present

theorem shutdown_ends_or_blocks (kind : program = producer ∨ program = consumer)
    {last : State} {labels : List Label}
    (reached : (machine program attr).ReachableBy Sound state) (quit : state.quit = true)
    (path : (machine program attr).Path Sound state labels last) :
    labels.countP Label.own ≤ 13 ∧
      (last.main = .exited → last.sender.live = false ∧ last.receiver.live = false) ∧
      ((machine program attr).Stuck OwnStep last → last.main = .exited ∨ Blocked attr last) := by
  have signalling := signalling_of_kind kind
  have quitting : Quitting program state := ⟨orderly_reachable signalling reached, quit⟩
  have preserved : (machine program attr).Preserves Sound (Quitting program) :=
    fun _ _ _ quitting sound moved => (quitting_step signalling quitting sound moved).1
  have spent := path.spends (fun _ label => if label.own then 1 else 0) preserved
    (fun _ _ _ quitting sound moved => (quitting_step signalling quitting sound moved).2) quitting
  have after : Quitting program last := path.keeps preserved quitting
  refine ⟨?_, fun exited => threads_gone after.orderly (.inr exited), quitting_stuck after⟩
  have limit := remaining_le state
  rw [path.total_count] at spent
  omega

def signalledRun : List Label :=
  [.main true, .main true, .main true, .sender, .sender, .receiver (Buffer.fill bufferSize 0),
    .receiver (Buffer.fill bufferSize 0), .main true, .main true]

def leavingRun : List Label :=
  [.main true, .put ⟨ascii "bye", 1, none⟩, .main true, .sender, .sender,
    .other (.receive 1 (Buffer.fill bufferSize 0)), .receiver (Buffer.fill bufferSize 0),
    .main true, .main true, .main true]

theorem shutdown_ends_or_blocks_signalled :
    ∃ state last, (machine producer ⟨8192, 10⟩).run (start []) signalledRun = some state ∧
      (machine producer ⟨8192, 10⟩).run state leavingRun = some last ∧ last.main = .exited ∧
        last.sender.live = false ∧ last.receiver.live = false := by
  have signalled : (machine producer ⟨8192, 10⟩).runBy Sound (start []) signalledRun =
      some _ := rfl
  refine ⟨_, _, rfl, rfl, rfl, ?_⟩
  have ends := shutdown_ends_or_blocks (.inl rfl)
    ⟨_, _, ⟨[], ⟨by simp, nofun, nofun⟩, rfl⟩, Machine.path_of_runBy signalled⟩ rfl
    (Machine.path_of_runBy
      (show (machine producer ⟨8192, 10⟩).runBy Sound _ leavingRun = some _ from rfl))
  exact ends.2.1 rfl

end QueueProcess
