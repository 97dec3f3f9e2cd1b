import LinuxTutorial.Shared.CText

set_option autoImplicit false

/-!
The client sends records of 1024 bytes that begin with a line and its terminator. The server
prints each piece that it receives as a string.
-/

namespace SockText

open CText

def bufferSize : Nat := 1024

-- "Message from %d, count[%d]\n" with pid and count, an int counted up from 0
def message (pid : Int32) (count : Nat) : List UInt8 :=
  ascii "Message from " ++ decimal pid.toInt ++ ascii ", count[" ++
    decimal (Int32.ofNat count).toInt ++ ascii "]\n"

structure Sent where
  stream : List UInt8
  lines : List (List UInt8)

-- process_thread of the client, from iteration `count` on; `stale` is what the buffer holds at
-- the start of an iteration, and the list has the results of send.
def clientThread (pid : Int32) (stale : Nat → Buffer bufferSize) (count : Nat) :
    List Int → Sent
  | [] => { stream := [], lines := [] }
  | size :: sizes =>
    let buf := (stale count).sprintf (message pid count)
    if size ≤ 0 then { stream := [], lines := [] }
    else
      let later := clientThread pid stale (count + 1) sizes
      { stream := buf.take size.toNat ++ later.stream
        lines := message pid count :: later.lines }

/-- A result of recv; no bytes stand for 0, at which the loop ends as it does for -1. -/
inductive Received where
  | failed
  | bytes (bytes : List UInt8)

-- What process_thread of the server prints of the data; `none` where printf leaves the buffer.
def serverThread (stale : Nat → Buffer bufferSize) (iteration : Nat) :
    List Received → Option (List UInt8)
  | [] | .failed :: _ | .bytes [] :: _ => some []
  | .bytes (byte :: bytes) :: rest => do
    let text ← cstring ((stale iteration).store (byte :: bytes))
    let later ← serverThread stale (iteration + 1) rest
    pure (text ++ later)

def printed (pid : Int32) (sends : List Int) (cuts : List Nat)
    (clientStale serverStale : Nat → Buffer bufferSize) : Option (List UInt8) :=
  serverThread serverStale 0
    ((cut cuts (clientThread pid clientStale 0 sends).stream).map .bytes)

def sentLines (pid : Int32) (sends : List Int) (clientStale : Nat → Buffer bufferSize) :
    List UInt8 :=
  (clientThread pid clientStale 0 sends).lines.flatten

/-- What a byte of a record is: of the line, the NUL after it, or what the buffer held before. -/
inductive Kind where
  | text
  | terminator
  | leftover
  deriving DecidableEq

def recordKinds (length : Nat) : List Kind :=
  List.replicate length .text ++ .terminator :: List.replicate (bufferSize - (length + 1)) .leftover

def streamKinds (pid : Int32) (count : Nat) : List Int → List Kind
  | [] => []
  | size :: sizes =>
    (recordKinds (message pid count).length).take size.toNat ++ streamKinds pid (count + 1) sizes

def Whole (kinds : List Kind) : Prop :=
  ∃ text rest, kinds = text ++ .terminator :: rest ∧ (∀ kind, kind ∈ text → kind = .text) ∧
    .text ∉ rest

/-- Every send took at least the line, and every piece received is text with a terminator. -/
structure Framed (pid : Int32) (sends : List Int) (cuts : List Nat) : Prop where
  sent : ∀ (count : Nat) size, sends[count]? = some size → (message pid count).length ≤ size
  pieces : ∀ piece, piece ∈ cut cuts (streamKinds pid 0 sends) → Whole piece

theorem message_printable {pid : Int32} {count : Nat} {byte : UInt8}
    (member : byte ∈ message pid count) : 10 ≤ byte := by
  have literal (text : String) (checked : (ascii text).all (fun byte => 10 ≤ byte) = true)
      (found : byte ∈ ascii text) : 10 ≤ byte := by
    rw [List.all_eq_true] at checked
    simpa using checked byte found
  simp only [message, List.mem_append] at member
  rcases member with (((found | found) | found) | found) | found
  · exact literal "Message from " rfl found
  · exact UInt8.le_trans (by decide) (decimal_printable found)
  · exact literal ", count[" rfl found
  · exact UInt8.le_trans (by decide) (decimal_printable found)
  · exact literal "]\n" rfl found

theorem message_short (pid : Int32) (count : Nat) :
    0 < (message pid count).length ∧ (message pid count).length + 1 < bufferSize := by
  have first : (ascii "Message from ").length = 13 := rfl
  have second : (ascii ", count[").length = 8 := rfl
  have third : (ascii "]\n").length = 2 := rfl
  have pidLength := decimal_length pid
  have countLength := decimal_length (Int32.ofNat count)
  simp only [message, List.length_append, first, second, third, bufferSize]
  omega

theorem message_length (pid : Int32) (count : Nat) :
    0 < (message pid count).length ∧ (message pid count).length < bufferSize := by
  have short := message_short pid count
  omega

end SockText
