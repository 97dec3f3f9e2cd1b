import LinuxTutorial.Ipc.MessageQueue

set_option autoImplicit false

namespace MessageQueue

open CText Transition

def Terminated (stale : Buffer bufferSize) (text : List UInt8) : Prop :=
  text.length ≤ bufferSize ∧ (text ≠ [] → 0 ∉ text → stale.bytes[text.length]? = some 0)

def Faithful (receipt : Receipt) : Prop :=
  receipt.message.text.length ≤ bufferSize ∧
    (receipt.message.text ≠ [] → 0 ∉ receipt.message.text →
      receipt.printed = some receipt.message.text)

def TerminatedStep (state : State) : Label → Prop
  | .receive _ stale =>
    ∀ message, state.queue.head? = some message → Terminated stale message.text
  | _ => True

instance (stale : Buffer bufferSize) (text : List UInt8) : Decidable (Terminated stale text) :=
  inferInstanceAs (Decidable (_ ∧ (_ → _ → _)))

instance : ∀ state label, Decidable (TerminatedStep state label)
  | state, .receive _ stale =>
    inferInstanceAs (Decidable (∀ message ∈ state.queue.head?, Terminated stale message.text))
  | _, .send _ _ | _, .receiveFailed _ => isTrue trivial

theorem receiveText_iff {stale : Buffer bufferSize} {text : List UInt8}
    (fits : text.length ≤ bufferSize) (nonempty : text ≠ []) (nonzero : 0 ∉ text) :
    receiveText stale text = some text ↔ stale.bytes[text.length]? = some 0 := by
  rw [receiveText, if_pos fits, if_neg nonempty]
  exact cstring_store_iff nonzero

theorem faithful_iff {receiver : Nat} {message : Message} {stale : Buffer bufferSize} :
    Faithful ⟨receiver, message, stale, receiveText stale message.text⟩ ↔
      Terminated stale message.text := by
  unfold Faithful Terminated
  constructor
  · rintro ⟨fits, exact⟩
    refine ⟨fits, fun nonempty nonzero => ?_⟩
    exact (receiveText_iff fits nonempty nonzero).mp (exact nonempty nonzero)
  · rintro ⟨fits, terminated⟩
    refine ⟨fits, fun nonempty nonzero => ?_⟩
    exact (receiveText_iff fits nonempty nonzero).mpr (terminated nonempty nonzero)

variable {attr : Attr}

theorem step_faithful {state next : State} {label : Label}
    (moved : step attr state label = some next) :
    (∀ receipt, receipt ∈ next.taken → Faithful receipt) ↔
      (∀ receipt, receipt ∈ state.taken → Faithful receipt) ∧ TerminatedStep state label := by
  cases label with
  | send producer ok =>
    simp only [step, sendStep] at moved
    split_ifs at moved <;> cases moved <;> simp [TerminatedStep]
  | receive receiver stale =>
    cases waiting : state.queue with
    | nil => simp [step, waiting] at moved
    | cons message rest =>
      simp only [step, waiting] at moved
      cases moved
      have printed := @faithful_iff receiver message stale
      simp only [List.mem_append, List.mem_singleton, or_imp, forall_and, forall_eq,
        TerminatedStep, waiting, List.head?_cons, Option.some.injEq, forall_eq', printed]
  | receiveFailed receiver =>
    cases moved
    simp [TerminatedStep]

theorem path_faithful {queue : List Message} {labels : List Label} {state : State}
    (path : (machine attr).Path Machine.anyStep (start queue) labels state) :
    (∀ receipt, receipt ∈ state.taken → Faithful receipt) ↔
      (machine attr).Path TerminatedStep (start queue) labels state := by
  have none : ∀ receipt, receipt ∈ (start queue).taken → Faithful receipt := nofun
  have kept := path.iff_guarded fun _ _ _ => step_faithful
  rw [kept]
  exact ⟨fun both => both.2, fun terminated => ⟨none, terminated⟩⟩

theorem receipts_faithful_iff_terminated (attr : Attr) (queue : List Message)
    (labels : List Label) (state : State)
    (path : (machine attr).Path Machine.anyStep (start queue) labels state) :
    ((∀ receipt, receipt ∈ state.taken → Faithful receipt) ↔
        (machine attr).Path TerminatedStep (start queue) labels state) ∧
      ∀ otherAttr otherQueue otherLabels otherState,
        (machine attr).Path TerminatedStep (start queue) labels state →
        (machine otherAttr).Path TerminatedStep (start otherQueue) otherLabels otherState →
          ∀ one two, one ∈ state.taken → two ∈ otherState.taken →
            one.message.text = two.message.text → one.message.text ≠ [] →
              0 ∉ one.message.text → one.printed = two.printed := by
  refine ⟨path_faithful path, ?_⟩
  intro otherAttr otherQueue otherLabels otherState first second one two oneTaken twoTaken same
    nonempty nonzero
  have anyPath := second.imp (fun _ _ _ _ _ _ => trivial) (fun _ _ _ _ => trivial) trivial
  have oneFaithful := (path_faithful path).mpr first one oneTaken
  have twoFaithful := (path_faithful anyPath).mpr second two twoTaken
  rw [oneFaithful.2 nonempty nonzero, same]
  exact (twoFaithful.2 (same ▸ nonempty) (same ▸ nonzero)).symm

def cleanRun : List Label :=
  [.send 0 true, .send 1 true, .receive 2 (Buffer.fill bufferSize 0),
    .receive 3 (Buffer.fill bufferSize 0)]

-- Another queue, with a message of an earlier run, which the receiver's buffer still holds.
def laterRun : List Label :=
  [.receive 1 (Buffer.fill bufferSize 0), .send 4 true,
    .receive 1 ⟨(Buffer.fill bufferSize 0).store (ascii "ready"), rfl⟩]

theorem receipts_faithful_iff_terminated_clean :
    ∃ state later, (machine ⟨8192, 10⟩).run (start []) cleanRun = some state ∧
      (machine ⟨128, 5⟩).run (start [⟨ascii "ready", 1, none⟩]) laterRun = some later ∧
      (∀ receipt, receipt ∈ state.taken → Faithful receipt) ∧
      (∀ receipt, receipt ∈ later.taken → Faithful receipt) ∧
      ∀ one two, one ∈ state.taken → two ∈ later.taken → one.message.text = helloMessage 1 →
        two.message.text = helloMessage 1 → one.printed = two.printed := by
  have clean : (machine ⟨8192, 10⟩).runBy TerminatedStep (start []) cleanRun = some _ := rfl
  have after : (machine ⟨128, 5⟩).runBy TerminatedStep (start [⟨ascii "ready", 1, none⟩])
      laterRun = some _ := rfl
  refine ⟨_, _, rfl, rfl, ?_⟩
  have first := receipts_faithful_iff_terminated ⟨8192, 10⟩ [] cleanRun _
    (Machine.path_of_run rfl)
  have second := receipts_faithful_iff_terminated ⟨128, 5⟩ [⟨ascii "ready", 1, none⟩] laterRun _
    (Machine.path_of_run rfl)
  have cleanPath := Machine.path_of_runBy clean
  have laterPath := Machine.path_of_runBy after
  refine ⟨first.1.mpr cleanPath, second.1.mpr laterPath, ?_⟩
  intro one two oneTaken twoTaken oneText twoText
  exact first.2 _ _ _ _ cleanPath laterPath one two oneTaken twoTaken
    (oneText.trans twoText.symm) (oneText ▸ by decide) (oneText ▸ by decide)

-- The first message of a producer, received into a buffer that is full of other characters.
def staleRun : List Label := [.send 0 true, .receive 1 (Buffer.fill bufferSize 65)]

theorem stale_buffer_printed :
    ¬ ∀ (attr : Attr) (state : State), (machine attr).Reachable state →
      ∀ receipt, receipt ∈ state.taken → Faithful receipt := by
  intro faithful
  have completed : (machine ⟨8192, 10⟩).run (start []) staleRun = some _ := rfl
  have initial : (machine ⟨8192, 10⟩).initial (start []) := ⟨[], ⟨by simp, nofun, nofun⟩, rfl⟩
  have receipt := faithful ⟨8192, 10⟩ _ (Machine.reachable_of_run initial completed) _
    List.mem_cons_self
  have terminated := (faithful_iff.mp receipt).2 (by decide) (by decide)
  cases terminated

end MessageQueue
