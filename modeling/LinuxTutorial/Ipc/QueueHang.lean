import LinuxTutorial.Ipc.QueueShutdown

set_option autoImplicit false

namespace QueueProcess

open CText MessageQueue Transition

-- Past the test of g_quit, and not yet through with the call.
@[simp] def Thread.busy : Thread → Bool
  | .enter | .inside => true
  | _ => false

@[simp] def Main.joining : Main → Bool
  | .joinSend | .joinReceive => true
  | _ => false

-- Some behaviour of the other processes keeps main in its joins, for good if they stop then.
def CanHang (program : Program) (attr : Attr) (state : State) : Prop :=
  ∃ labels last, (machine program attr).Path Sound state labels last ∧
    (machine program attr).Stuck OwnStep last ∧ last.main.joining = true

variable {program : Program} {attr : Attr} {state next : State}

theorem enqueue_length (message : Message) (queue : List Message) :
    (enqueue message queue).length = queue.length + 1 := by
  induction queue with
  | nil => rfl
  | cons first rest ih =>
    unfold enqueue
    split_ifs with lower
    · rfl
    · simp [ih]

theorem call_length {mq after : MessageQueue.State} {label : MessageQueue.Label}
    (called : MessageQueue.step attr mq label = some after) :
    after.queue.length ≤ mq.queue.length + 1 ∧ mq.queue.length ≤ after.queue.length + 1 := by
  cases label with
  | send number ok =>
    simp only [MessageQueue.step, sendStep] at called
    split_ifs at called <;> cases called <;> simp [enqueue_length]
    omega
  | receive number stale =>
    cases waiting : mq.queue with
    | nil => simp [MessageQueue.step, waiting] at called
    | cons message rest =>
      simp only [MessageQueue.step, waiting] at called
      cases called
      simp
      omega
  | receiveFailed number =>
    cases called
    simp

theorem own_length {label : Label} (own : label.own = true)
    (moved : step program attr state label = some next) :
    next.mq.queue.length ≤ state.mq.queue.length + 1 ∧
      state.mq.queue.length ≤ next.mq.queue.length + 1 := by
  have known : Known state label := by
    rintro message rfl
    cases own
  rcases step_calls known moved with same | ⟨call, called⟩
  · simp [same]
  · exact call_length called

-- No call can wait any more: the threads meet g_quit, or a message that does not fit.
def Free (attr : Attr) (state : State) : Prop :=
  state.receiver.busy = false ∧ (state.sender.busy = true → ¬ state.fits attr)

theorem signalledSender_busy {thread : Thread} (busy : thread.signalledSender.busy = true) :
    thread = .enter := by
  cases thread <;> simp_all [Thread.signalledSender]

theorem signalledReceiver_idle {thread : Thread} (idle : thread.busy = false) :
    thread.signalledReceiver.busy = false := by
  cases thread <;> simp_all [Thread.signalledReceiver]

theorem interrupted_enter {mq : MessageQueue.State} (enters : state.sender ≠ .inside)
    (interrupted : state.interrupted attr = some mq) : state.mq = mq := by
  simpa [State.interrupted, enters] using interrupted

theorem fits_congr {other : State} (same : other.mq.attempts 0 = state.mq.attempts 0) :
    other.fits attr ↔ state.fits attr := by
  simp [State.fits, same]

theorem free_step {label : Label} (free : Free attr state) (quitting : Quitting program state)
    (moved : step program attr state label = some next) : Free attr next := by
  obtain ⟨receiver, sender⟩ := free
  cases label with
  | main ok =>
    have late := quitting.orderly.quit quitting.quit
    cases mainStep_moves moved with
    | createdSend _ here | createdReceive _ here => simp [here] at late
    | killedSend _ _ mq interrupted =>
      refine ⟨receiver, fun busy => ?_⟩
      have enters : state.sender = .enter := signalledSender_busy busy
      obtain rfl := interrupted_enter (by simp [enters]) interrupted
      exact sender (by simp [enters])
    | killedReceive => exact ⟨signalledReceiver_idle receiver, sender⟩
    | opened | unopened | slept | quitSet | joinedSend | joinedReceive | closed | lostSend
    | lostReceive => exact ⟨receiver, sender⟩
  | sender =>
    cases sendThread_moves moved with
    | tests => exact ⟨receiver, by simp [quitting.quit]⟩
    | enters here => exact ⟨receiver, fun _ => sender (by simp [here])⟩
    | sends | wakes => exact ⟨receiver, by simp⟩
  | receiver stale =>
    cases receiveThread_moves moved with
    | tests => exact ⟨by simp [quitting.quit], sender⟩
    | enters here | receives here | overruns here => simp [here] at receiver
  | other | put =>
    obtain ⟨mq, rfl, attempts⟩ := others_move rfl moved
    exact ⟨receiver, fun busy => (fits_congr attempts).not.mpr (sender busy)⟩

theorem free_unblocked (free : Free attr state) : ¬ Blocked attr state := by
  intro blocked
  cases blocked with
  | sends _ sender fits => exact free.2 (by simp [sender]) fits
  | receives _ receiver => simp [Free, receiver] at free

def SparesReceiver (state : State) (label : Label) : Prop :=
  ∀ stale, label = .receiver stale → state.receiver = .enter

def SparesSender (state : State) (label : Label) : Prop :=
  label = .sender → state.sender = .enter

structure ReceiverLeft (program : Program) (state : State) : Prop where
  quitting : Quitting program state
  joining : state.main.joining = true
  busy : state.receiver.busy = true

structure SenderLeft (program : Program) (attr : Attr) (state : State) : Prop where
  quitting : Quitting program state
  main : state.main = .joinSend
  busy : state.sender.busy = true
  fits : state.fits attr
  -- it meets g_quit, and takes no message more
  idle : state.receiver.busy = false

theorem sound_of_joining {label : Label} (joining : state.main.joining = true)
    (spares : ∀ stale, label = .receiver stale → state.receiver ≠ .inside) :
    Sound state label := by
  cases label with
  | main ok =>
    intro creating
    rcases creating with here | here <;> simp [here] at joining
  | receiver stale => exact fun inside => absurd inside (spares stale rfl)
  | sender | other | put => trivial

theorem receiverLeft_step {label : Label}
    (signalling : program.signals = true → program.sends = true)
    (left : ReceiverLeft program state) (sound : Sound state label)
    (spares : SparesReceiver state label)
    (moved : step program attr state label = some next) : ReceiverLeft program next := by
  have quitting := (quitting_step signalling left.quitting sound moved).1
  have joining := left.joining
  have busy := left.busy
  cases label with
  | main ok =>
    cases mainStep_moves moved with
    | joinedSend => exact ⟨quitting, rfl, busy⟩
    | joinedReceive _ _ ended => simp [ended] at busy
    | lostReceive _ _ absent => simp [absent] at busy
    | lostSend => simpa using quitting.orderly.quit quitting.quit
    | opened here | unopened here | createdSend _ here | createdReceive _ here | slept _ here
    | quitSet _ here | killedSend _ here | killedReceive _ here | closed _ here =>
      simp [here] at joining
  | sender => cases sendThread_moves moved <;> exact ⟨quitting, joining, busy⟩
  | receiver stale =>
    cases receiveThread_moves moved with
    | enters => exact ⟨quitting, joining, rfl⟩
    | tests here | receives here | overruns here => simp [spares stale rfl] at here
  | other | put =>
    obtain ⟨mq, rfl, -⟩ := others_move rfl moved
    exact ⟨quitting, joining, busy⟩

theorem senderLeft_step {label : Label}
    (signalling : program.signals = true → program.sends = true)
    (left : SenderLeft program attr state) (sound : Sound state label)
    (spares : SparesSender state label)
    (moved : step program attr state label = some next) : SenderLeft program attr next := by
  have quitting := (quitting_step signalling left.quitting sound moved).1
  have main := left.main
  have busy := left.busy
  have idle := left.idle
  cases label with
  | main ok =>
    cases mainStep_moves moved with
    | joinedSend _ _ ended => simp [ended] at busy
    | lostSend _ _ absent => simp [absent] at busy
    | lostReceive _ here => simp [main] at here
    | opened here | unopened here | createdSend _ here | createdReceive _ here | slept _ here
    | quitSet _ here | killedSend _ here | killedReceive _ here | joinedReceive _ here
    | closed _ here => simp [here] at main
  | sender =>
    cases sendThread_moves moved with
    | enters => exact ⟨quitting, main, rfl, left.fits, idle⟩
    | tests here | sends here | wakes here => simp [spares rfl] at here
  | receiver stale =>
    cases receiveThread_moves moved with
    | tests => exact ⟨quitting, main, busy, left.fits, by simp [left.quitting.quit]⟩
    | enters here | receives here | overruns here => simp [here] at idle
  | other | put =>
    obtain ⟨mq, rfl, attempts⟩ := others_move rfl moved
    exact ⟨quitting, main, busy, (fits_congr attempts).mpr left.fits, idle⟩

theorem own_enabled (moving : ¬ (machine program attr).Stuck OwnStep state) :
    ∃ label next, label.own = true ∧ step program attr state label = some next := by
  simp only [Machine.Stuck, not_forall] at moving
  obtain ⟨label, own, move⟩ := moving
  obtain ⟨next, move⟩ := Option.ne_none_iff_exists'.mp move
  exact ⟨label, next, own, move⟩

theorem taken (program : Program) (attr : Attr) (waits : state.mq.queue ≠ []) :
    ∃ label mq, label.own = false ∧
      step program attr state label = some { state with mq := mq } ∧
        mq.queue.length + 1 = state.mq.queue.length := by
  cases waiting : state.mq.queue with
  | nil => exact absurd waiting waits
  | cons message rest =>
    obtain ⟨mq, called, left⟩ : ∃ mq, MessageQueue.step attr state.mq
        (.receive 1 (Buffer.fill bufferSize 0)) = some mq ∧ mq.queue = rest := by
      simp [MessageQueue.step, waiting]
    refine ⟨.other (.receive 1 (Buffer.fill bufferSize 0)), mq, rfl, ?_, by simp [left]⟩
    simp [step, foreign, called]

theorem filled (program : Program) (attr : Attr) (room : state.mq.queue.length < attr.maxmsg) :
    ∃ label mq, label.own = false ∧
      step program attr state label = some { state with mq := mq } ∧
        mq.queue.length = state.mq.queue.length + 1 :=
  ⟨.put ⟨[], 0, none⟩, { state.mq with queue := enqueue ⟨[], 0, none⟩ state.mq.queue }, rfl,
    by simp [step, room], enqueue_length _ _⟩

theorem spares_others {label : Label} (others : label.own = false) (stale : Buffer bufferSize) :
    label ≠ .receiver stale ∧ label ≠ .sender := by
  cases label <;> simp_all [Label.own]

theorem receiverLeft_hangs (signalling : program.signals = true → program.sends = true)
    (left : ReceiverLeft program state) : CanHang program attr state := by
  let rank (state : State) := 2 * remaining state + state.mq.queue.length
  let guard (state : State) (label : Label) := Sound state label ∧ SparesReceiver state label
  have helped (state : State) (left : ReceiverLeft program state)
      (moving : ¬ (machine program attr).Stuck OwnStep state) : ∃ label next,
      guard state label ∧ step program attr state label = some next ∧
        rank next < rank state := by
    have allowed {label : Label} (spares : SparesReceiver state label) : guard state label :=
      ⟨sound_of_joining left.joining fun stale same => by simp [spares stale same], spares⟩
    by_cases enters : state.receiver = .enter
    · have moved : step program attr state (.receiver (Buffer.fill bufferSize 0)) =
          some { state with receiver := .inside } := by simp [step, receiveThread, enters]
      refine ⟨_, _, allowed fun _ _ => enters, moved, ?_⟩
      simp only [rank, remaining, enters, Thread.remaining]
      omega
    · by_cases waits : state.mq.queue = []
      · obtain ⟨label, next, own, moved⟩ := own_enabled moving
        have spares : SparesReceiver state label := by
          rintro stale rfl
          have busy := left.busy
          cases receiveThread_moves moved with
          | enters here => exact here
          | tests here => simp [here] at busy
          | receives _ _ called | overruns _ _ called => simp [MessageQueue.step, waits] at called
        refine ⟨label, next, allowed spares, moved, ?_⟩
        have less := (quitting_step signalling left.quitting (allowed spares).1 moved).2
        have more := (own_length own moved).1
        simp only [own, if_true] at less
        simp only [rank]
        omega
      · obtain ⟨label, mq, others, moved, fewer⟩ := taken program attr waits
        refine ⟨label, _, allowed fun stale same => ?_, moved, ?_⟩
        · exact absurd same (spares_others others stale).1
        · simp only [rank, remaining]
          omega
  have preserved : (machine program attr).Preserves guard (ReceiverLeft program) :=
    fun _ _ _ left allowed moved => receiverLeft_step signalling left allowed.1 allowed.2 moved
  obtain ⟨labels, last, path, stuck⟩ := Machine.leads_to rank
    ((machine program attr).Stuck OwnStep) preserved helped state left
  have after := path.keeps preserved left
  exact ⟨labels, last, path.weaken fun _ _ _ _ allowed => allowed.1, stuck, after.joining⟩

theorem senderLeft_hangs (signalling : program.signals = true → program.sends = true)
    (left : SenderLeft program attr state) : CanHang program attr state := by
  let rank (state : State) := 2 * remaining state + (attr.maxmsg - state.mq.queue.length)
  let guard (state : State) (label : Label) := Sound state label ∧ SparesSender state label
  have helped (state : State) (left : SenderLeft program attr state)
      (moving : ¬ (machine program attr).Stuck OwnStep state) : ∃ label next,
      guard state label ∧ step program attr state label = some next ∧
        rank next < rank state := by
    have outside : state.receiver ≠ .inside := by
      intro inside
      simpa [inside] using left.idle
    have allowed {label : Label} (spares : SparesSender state label) : guard state label :=
      ⟨sound_of_joining (by simp [left.main]) fun _ _ => outside, spares⟩
    by_cases enters : state.sender = .enter
    · have moved : step program attr state .sender =
          some { state with sender := .inside } := by simp [step, sendThread, enters]
      refine ⟨_, _, allowed fun _ => enters, moved, ?_⟩
      simp only [rank, remaining, enters, Thread.remaining]
      omega
    · by_cases room : state.mq.queue.length < attr.maxmsg
      · obtain ⟨label, mq, others, moved, more⟩ := filled program attr room
        refine ⟨label, _, allowed fun same => ?_, moved, ?_⟩
        · exact absurd same (spares_others others (Buffer.fill bufferSize 0)).2
        · simp only [rank, remaining]
          omega
      · obtain ⟨label, next, own, moved⟩ := own_enabled moving
        have spares : SparesSender state label := by
          rintro rfl
          have busy := left.busy
          cases sendThread_moves moved with
          | enters here => exact here
          | sends _ _ called => simp [MessageQueue.step, sendStep, left.fits, room] at called
          | tests here | wakes here => simp [here] at busy
        refine ⟨label, next, allowed spares, moved, ?_⟩
        have less := (quitting_step signalling left.quitting (allowed spares).1 moved).2
        have fewer := (own_length own moved).2
        simp only [own, if_true] at less
        simp only [rank]
        omega
  have preserved : (machine program attr).Preserves guard (SenderLeft program attr) :=
    fun _ _ _ left allowed moved => senderLeft_step signalling left allowed.1 allowed.2 moved
  obtain ⟨labels, last, path, stuck⟩ := Machine.leads_to rank
    ((machine program attr).Stuck OwnStep) preserved helped state left
  have after := path.keeps preserved left
  exact ⟨labels, last, path.weaken fun _ _ _ _ allowed => allowed.1, stuck, by simp [after.main]⟩

theorem can_hang_iff (kind : program = producer ∨ program = consumer)
    (reached : (machine program attr).ReachableBy Sound state)
    (joining : state.main.joining = true) :
    CanHang program attr state ↔
      state.receiver.busy = true ∨ (state.sender.busy = true ∧ state.fits attr) := by
  have signalling := signalling_of_kind kind
  have orderly := orderly_reachable signalling reached
  have late : state.main.late = true := by
    cases here : state.main <;> simp_all
  have quitting : Quitting program state := ⟨orderly, orderly.late late⟩
  constructor
  · rintro ⟨labels, last, path, stuck, waits⟩
    by_contra unspoilt
    have free : Free attr state := by
      simp only [not_or, not_and, Bool.not_eq_true] at unspoilt
      exact unspoilt
    have preserved : (machine program attr).Preserves Sound
        fun state => Quitting program state ∧ Free attr state := by
      rintro before label after ⟨quitting, free⟩ sound moved
      exact ⟨(quitting_step signalling quitting sound moved).1, free_step free quitting moved⟩
    obtain ⟨quitting, free⟩ := path.keeps preserved ⟨quitting, free⟩
    rcases quitting_stuck quitting stuck with exited | blocked
    · simp [exited] at waits
    · exact free_unblocked free blocked
  · intro waits
    by_cases busy : state.receiver.busy = true
    · exact receiverLeft_hangs signalling ⟨quitting, joining, busy⟩
    · obtain ⟨sending, fits⟩ := waits.resolve_left busy
      have present := (orderly.sender (by cases here : state.sender <;> simp_all)).1
      have main : state.main = .joinSend := by
        cases here : state.main <;> simp_all
      exact senderLeft_hangs signalling
        ⟨quitting, main, sending, fits, Bool.eq_false_iff.mpr busy⟩

-- The consumer waits in mq_receive when its main sets g_quit.
def waitingRun : List Label :=
  [.main true, .main true, .receiver (Buffer.fill bufferSize 0),
    .receiver (Buffer.fill bufferSize 0), .main true, .main true]

theorem can_hang_iff_waiting :
    ∃ state, (machine consumer ⟨8192, 10⟩).run (start []) waitingRun = some state ∧
      CanHang consumer ⟨8192, 10⟩ state := by
  have waiting : (machine consumer ⟨8192, 10⟩).runBy Sound (start []) waitingRun =
      some _ := rfl
  refine ⟨_, rfl, ?_⟩
  exact (can_hang_iff (.inr rfl)
    ⟨_, _, ⟨[], ⟨by simp, nofun, nofun⟩, rfl⟩, Machine.path_of_runBy waiting⟩ rfl).mpr (.inl rfl)

end QueueProcess
