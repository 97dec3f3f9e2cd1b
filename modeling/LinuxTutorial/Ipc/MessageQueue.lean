import LinuxTutorial.Shared.CText
import LinuxTutorial.Shared.Transition

set_option autoImplicit false

/-!
A producer is a run of send_thread; the receivers are the receive threads of producers and
consumers, whose code is the same.
-/

namespace MessageQueue

open CText

def bufferSize : Nat := 128

/-- What mq_getattr reports. -/
structure Attr where
  msgsize : Nat
  maxmsg : Nat

/-- `origin` is no part of the message: the producer and the count it sent it with. -/
structure Message where
  text : List UInt8
  priority : Nat
  origin : Option (Nat × Nat)

structure Receipt where
  receiver : Nat
  message : Message
  stale : Buffer bufferSize
  -- `none` where the receive or the printf leaves the buffer
  printed : Option (List UInt8)

structure State where
  queue : List Message
  attempts : Nat → Nat
  failed : List (Nat × Nat)
  taken : List Receipt

inductive Label where
  | send (producer : Nat) (ok : Bool)
  | receive (receiver : Nat) (stale : Buffer bufferSize)
  | receiveFailed (receiver : Nat)

-- sprintf(buf, MQ_MESSAGE_FMT, ++count)
def helloMessage (count : Nat) : List UInt8 :=
  ascii "Hello, Receiver; count[" ++ decimal (Int32.ofNat count).toInt ++ ascii "]."

def enqueue (message : Message) : List Message → List Message
  | [] => [message]
  | first :: rest =>
    if first.priority < message.priority then message :: first :: rest
    else first :: enqueue message rest

def receiveText (stale : Buffer bufferSize) (text : List UInt8) : Option (List UInt8) :=
  if text.length ≤ bufferSize then
    if text = [] then some [] else cstring (stale.store text)
  else none

def sendStep (attr : Attr) (state : State) (producer : Nat) (ok : Bool) : Option State :=
  let count := state.attempts producer + 1
  let counted := { state with attempts := Function.update state.attempts producer count }
  let message :=
    { text := helloMessage count, priority := 0, origin := some (producer, count) : Message }
  if ok then
    if state.queue.length < attr.maxmsg ∧ message.text.length ≤ attr.msgsize then
      some { counted with queue := enqueue message state.queue }
    else none
  else some { counted with failed := state.failed ++ [(producer, count)] }

def step (attr : Attr) (state : State) : Label → Option State
  | .send producer ok => sendStep attr state producer ok
  | .receive receiver stale =>
    match state.queue with
    | [] => none
    | message :: rest =>
      let receipt :=
        { receiver := receiver, message := message, stale := stale
          printed := receiveText stale message.text }
      some { state with queue := rest, taken := state.taken ++ [receipt] }
  | .receiveFailed _ => some state

def start (queue : List Message) : State where
  queue := queue
  attempts _ := 0
  failed := []
  taken := []

structure Leftovers (attr : Attr) (queue : List Message) : Prop where
  size : queue.length ≤ attr.maxmsg
  sizes : ∀ message, message ∈ queue → message.text.length ≤ attr.msgsize
  origin : ∀ message, message ∈ queue → message.origin = none

def machine (attr : Attr) : Transition.Machine State Label where
  initial state := ∃ queue, Leftovers attr queue ∧ state = start queue
  step := step attr

end MessageQueue
