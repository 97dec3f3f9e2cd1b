import LinuxTutorial.Net.SessionText

set_option autoImplicit false

namespace SessionText

open CText

/-- What one recv, or SSL_read, delivers and what the buffer held before it. -/
structure Chunk where
  stale : Buffer bufferSize
  bytes : List UInt8
  positive : 0 < bytes.length
  fits : bytes.length ≤ bufferSize
  nonzero : 0 ∉ bytes

inductive Ending where
  | inside
  | quit
  | closed (stale : Buffer bufferSize)
  | failed (stale : Buffer bufferSize)

def Chunk.turn (chunk : Chunk) : Turn := .call chunk.bytes.length chunk.stale chunk.bytes

def Ending.turns : Ending → List Turn
  | .inside => []
  | .quit => [.quit]
  | .closed stale => [.call 0 stale []]
  | .failed stale => [.call (-1) stale []]

def delivery (chunks : List Chunk) (ending : Ending) : List Turn :=
  chunks.map Chunk.turn ++ ending.turns

def receivedTexts (events : List Event) : List (Option (List UInt8)) :=
  events.filterMap fun event => match event with
    | .receiveData text => some text
    | _ => none

def LoggedExactly (chunks : List Chunk) (events : List Event) : Prop :=
  receivedTexts events = chunks.map (fun chunk => some chunk.bytes) ∧
    ((receivedTexts events).filterMap id).flatten = (chunks.map Chunk.bytes).flatten

-- The buffer has a NUL where the chunk ends, which it cannot have behind its last byte.
def Chunk.Terminated (chunk : Chunk) : Prop :=
  chunk.stale.bytes[chunk.bytes.length]? = some 0

theorem Chunk.Terminated.short {chunk : Chunk} (terminated : chunk.Terminated) :
    chunk.bytes.length < bufferSize := by
  obtain ⟨inside, -⟩ := List.getElem?_eq_some_iff.mp terminated
  rwa [chunk.stale.size_eq] at inside

theorem receivedTexts_sessionLoop (chunks : List Chunk) (ending : Ending) :
    receivedTexts (sessionLoop (delivery chunks ending)) =
      chunks.map fun chunk => cstring (chunk.stale.store chunk.bytes) := by
  induction chunks with
  | nil => cases ending <;> rfl
  | cons chunk rest ih =>
    have positive := chunk.positive
    have unfailed : (chunk.bytes.length : Int) ≠ -1 := by omega
    have nonempty : chunk.bytes ≠ [] := List.ne_nil_of_length_pos positive
    have next : receivedTexts (sessionLoop (delivery (chunk :: rest) ending)) =
        cstring (chunk.stale.store chunk.bytes) ::
          receivedTexts (sessionLoop (delivery rest ending)) := by
      simp [delivery, Chunk.turn, sessionLoop, unfailed, nonempty, receivedTexts]
    rw [next, ih, List.map_cons]

theorem loggedExactly_iff {chunks : List Chunk} {events : List Event}
    (texts : receivedTexts events =
      chunks.map fun chunk => cstring (chunk.stale.store chunk.bytes)) :
    LoggedExactly chunks events ↔ ∀ chunk, chunk ∈ chunks → chunk.Terminated := by
  have same : receivedTexts events = chunks.map (fun chunk => some chunk.bytes) ↔
      ∀ chunk, chunk ∈ chunks → chunk.Terminated := by
    rw [texts, List.map_inj_left]
    apply forall₂_congr
    intro chunk _
    exact cstring_store_iff chunk.nonzero
  rw [← same]
  constructor
  · exact And.left
  · intro exactly
    refine ⟨exactly, ?_⟩
    rw [exactly]
    simp [List.filterMap_map]

theorem received_logged_iff_terminated (chunks : List Chunk) (ending : Ending) :
    (LoggedExactly chunks (sessionProcessThread (delivery chunks ending)) ↔
      ∀ chunk, chunk ∈ chunks → chunk.Terminated) ∧
    ∀ accept, accept ≠ -1 →
      (LoggedExactly chunks (tlsSessionProcessThread accept (delivery chunks ending)) ↔
        ∀ chunk, chunk ∈ chunks → chunk.Terminated) := by
  have texts := receivedTexts_sessionLoop chunks ending
  constructor
  · exact loggedExactly_iff texts
  · intro accept accepted
    apply loggedExactly_iff
    rw [← texts, tlsSessionProcessThread, if_neg accepted]
    rfl

def greeting : Chunk where
  stale := .fill bufferSize 0
  bytes := ascii "Hello, TCP Server"
  positive := by decide
  fits := by decide
  nonzero := by decide

-- The next one, into the buffer that the first was received in.
def secondGreeting : Chunk where
  stale := { bytes := greeting.stale.store greeting.bytes
             size_eq := Buffer.length_store _ greeting.fits }
  bytes := greeting.bytes
  positive := greeting.positive
  fits := greeting.fits
  nonzero := greeting.nonzero

theorem received_logged_iff_terminated_greeting :
    LoggedExactly [greeting, secondGreeting]
      (sessionProcessThread (delivery [greeting, secondGreeting] .quit)) ∧
    LoggedExactly [greeting, secondGreeting]
      (tlsSessionProcessThread 1 (delivery [greeting, secondGreeting] .quit)) := by
  have terminated : ∀ chunk, chunk ∈ [greeting, secondGreeting] → chunk.Terminated := by
    simp only [List.forall_mem_cons]
    exact ⟨rfl, rfl, nofun⟩
  have logged := received_logged_iff_terminated [greeting, secondGreeting] .quit
  exact ⟨logged.1.mpr terminated, (logged.2 1 (by decide)).mpr terminated⟩

-- One byte more from the client, into the buffer that the greeting was received in.
def afterGreeting : Chunk where
  stale := { bytes := greeting.stale.store greeting.bytes
             size_eq := Buffer.length_store _ greeting.fits }
  bytes := ascii "H"
  positive := by decide
  fits := by decide
  nonzero := by decide

theorem short_chunk_logged_with_rest :
    ¬ LoggedExactly [greeting, afterGreeting]
      (sessionProcessThread (delivery [greeting, afterGreeting] .quit)) := by
  intro logged
  have texts := receivedTexts_sessionLoop [greeting, afterGreeting] .quit
  have terminated := (loggedExactly_iff texts).mp logged afterGreeting (by simp)
  have behind : afterGreeting.stale.bytes[afterGreeting.bytes.length]? = some 101 := rfl
  rw [Chunk.Terminated, behind] at terminated
  cases terminated

end SessionText
