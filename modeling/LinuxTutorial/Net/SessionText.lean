import LinuxTutorial.Net.AcceptServer
import LinuxTutorial.Shared.CText

set_option autoImplicit false

namespace SessionText

open CText

def bufferSize : Nat := 1024

/-- An iteration of the loop of a session: the quit flag is set, or the call returns `rsize` and
has put `bytes` into a buffer that held `stale`. -/
inductive Turn where
  | quit
  | call (rsize : Int) (stale : Buffer bufferSize) (bytes : List UInt8)

inductive Event where
  -- SSL_accept or SSL_connect
  | handshake (result : Int)
  -- recv, SSL_read or SSL_write
  | data (result : Int)
  -- LOG_INFO("receive data: %s", buffer), or `none` where the string runs past the buffer
  | receiveData (text : Option (List UInt8))
  | sessionClosed
  | failed

def sessionLoop : List Turn → List Event
  | [] => []
  | .quit :: _ => []
  | .call rsize stale bytes :: rest =>
    .data rsize ::
      if rsize = -1 then [.failed]
      else if rsize = 0 then [.sessionClosed]
      else .receiveData (cstring (stale.store bytes)) :: sessionLoop rest

def sessionProcessThread (turns : List Turn) : List Event := sessionLoop turns

def tlsSessionProcessThread (accept : Int) (turns : List Turn) : List Event :=
  .handshake accept :: if accept = -1 then [] else sessionLoop turns

-- The loop of main in net/tls_client.c; `none` where the quit flag is set.
def clientLoop : List (Option Int) → List Event
  | [] => []
  | none :: _ => []
  | some wsize :: rest => .data wsize :: if wsize < 0 then [.failed] else clientLoop rest

-- A failed SSL_connect is printed, and main goes on.
def tlsClient (connect : Int) (turns : List (Option Int)) : List Event :=
  .handshake connect :: clientLoop turns

def dataResults (events : List Event) : List Int :=
  events.filterMap fun event => match event with
    | .data result => some result
    | _ => none

section Phases

open Net

def receiveResults (thread : Phase → Bool → Int → Option Phase) :
    Phase → List (Bool × Int) → List Int
  | _, [] => []
  | phase, (quit, result) :: rest =>
    match thread phase quit result with
    | some later =>
      if phase = .receive then result :: receiveResults thread later rest
      else receiveResults thread later rest
    | none => []

def Turn.steps : Turn → List (Bool × Int)
  | .quit => [(true, 0)]
  | .call rsize _ _ => [(false, 0), (false, rsize)]

def Leaving (phase : Phase) : Prop :=
  phase = .sslShutdown ∨ phase = .sslFree ∨ phase = .close ∨ phase = .free ∨ phase = .ended

theorem receiveResults_leaving {thread : Phase → Bool → Int → Option Phase} {phase : Phase}
    (leaves : ∀ phase quit result later, Leaving phase → thread phase quit result = some later →
      Leaving later) (leaving : Leaving phase) (steps : List (Bool × Int)) :
    receiveResults thread phase steps = [] := by
  induction steps generalizing phase with
  | nil => rfl
  | cons step rest ih =>
    obtain ⟨quit, result⟩ := step
    have other : phase ≠ .receive := by
      rintro rfl
      simp [Leaving] at leaving
    cases moved : thread phase quit result with
    | none => simp [receiveResults, moved]
    | some later =>
      have stays := ih (leaves phase quit result later leaving moved)
      simp [receiveResults, moved, other, stays]

theorem tls_leaves (phase : Phase) (quit : Bool) (result : Int) (later : Phase)
    (leaving : Leaving phase) (moved : Net.tlsSessionProcessThread phase quit result = some later) :
    Leaving later := by
  rcases leaving with rfl | rfl | rfl | rfl | rfl <;> cases moved <;> simp [Leaving]

theorem tcp_leaves (phase : Phase) (quit : Bool) (result : Int) (later : Phase)
    (leaving : Leaving phase) (moved : Net.sessionProcessThread phase quit result = some later) :
    Leaving later := by
  rcases leaving with rfl | rfl | rfl | rfl | rfl <;> cases moved <;> simp [Leaving]

theorem dataResults_data (result : Int) (rest : List Event) :
    dataResults (.data result :: rest) = result :: dataResults rest := rfl

theorem dataResults_sessionLoop (rsize : Int) (stale : Buffer bufferSize) (bytes : List UInt8)
    (rest : List Turn) :
    dataResults (sessionLoop (.call rsize stale bytes :: rest)) =
      rsize :: if rsize = -1 ∨ rsize = 0 then [] else dataResults (sessionLoop rest) := by
  rw [sessionLoop, dataResults_data]
  split_ifs <;> simp_all [dataResults]

-- A loop of phases makes the calls of `sessionLoop`, whatever it does after the last of them.
theorem receiveResults_loop {thread : Phase → Bool → Int → Option Phase} {out : Phase}
    (leaving : Leaving out)
    (leaves : ∀ phase quit result later, Leaving phase → thread phase quit result = some later →
      Leaving later)
    (top : ∀ quit result, thread .top quit result = some (if quit then out else .receive))
    (receive : ∀ quit rsize, thread .receive quit rsize =
      some (if rsize = -1 then out else if rsize = 0 then out else .top))
    (turns : List Turn) :
    receiveResults thread .top (turns.flatMap Turn.steps) = dataResults (sessionLoop turns) := by
  have left (steps : List (Bool × Int)) : receiveResults thread out steps = [] :=
    receiveResults_leaving leaves leaving steps
  induction turns with
  | nil => rfl
  | cons turn rest ih =>
    cases turn with
    | quit =>
      simp [Turn.steps, receiveResults, top, left, sessionLoop, dataResults]
    | call rsize stale bytes =>
      rw [dataResults_sessionLoop]
      simp only [List.flatMap_cons, Turn.steps, List.cons_append, List.nil_append, receiveResults,
        top, receive, Bool.false_eq_true, if_false, reduceCtorEq, if_true, List.cons.injEq,
        true_and]
      by_cases failed : rsize = -1
      · simp [failed, left]
      · by_cases closed : rsize = 0
        · simp [closed, left]
        · simp [failed, closed, ih]

theorem sessionProcessThread_results (turns : List Turn) :
    receiveResults Net.sessionProcessThread .top (turns.flatMap Turn.steps) =
      dataResults (sessionProcessThread turns) :=
  receiveResults_loop (by simp [Leaving]) tcp_leaves (fun _ _ => rfl) (fun _ _ => rfl) turns

theorem tlsSessionProcessThread_results (quit : Bool) (accept : Int) (turns : List Turn) :
    receiveResults Net.tlsSessionProcessThread .sslAccept
        ((quit, accept) :: turns.flatMap Turn.steps) =
      dataResults (tlsSessionProcessThread accept turns) := by
  have loop : receiveResults Net.tlsSessionProcessThread .top (turns.flatMap Turn.steps) =
      dataResults (sessionLoop turns) :=
    receiveResults_loop (by simp [Leaving]) tls_leaves (fun _ _ => rfl) (fun _ _ => rfl) turns
  have freed (steps : List (Bool × Int)) :
      receiveResults Net.tlsSessionProcessThread .sslFree steps = [] :=
    receiveResults_leaving tls_leaves (by simp [Leaving]) steps
  by_cases failed : accept = -1
  · simp [receiveResults, Net.tlsSessionProcessThread, failed, freed, tlsSessionProcessThread,
      dataResults]
  · simp only [receiveResults, Net.tlsSessionProcessThread, failed, if_false, reduceCtorEq, loop,
      tlsSessionProcessThread]
    rfl

end Phases

end SessionText
