import LinuxTutorial.Net.ClientsHeld
import LinuxTutorial.Net.ServerLog

set_option autoImplicit false

namespace Client

open CText Interaction

variable {held : Held}

def SentBy (client : Nat → ClientM Int) (stream : List UInt8) : Prop :=
  ∃ held rounds result sent results,
    Returns (respond Supplied) (client rounds) held result (held.logged sent results) ∧
      stream = sent.flatten

theorem logged_sent {sent others : List (List UInt8)} {results after : List Int}
    (same : held.logged sent results = held.logged others after) : sent = others :=
  List.append_cancel_left (congrArg Held.sent same)

theorem logged_ne_refuses (held : Held) (sent : List (List UInt8)) (results : List Int)
    (contexts : List Nat) :
    held.logged sent results ≠ { held.refuses with contexts := contexts } := by
  intro same
  have refused : held.refused = held.refused + 1 := congrArg Held.refused same
  omega

theorem tcp_taken {stream : List UInt8} (sent : SentBy tcpClient stream) :
    ∃ sizes, stream = (taken (fun _ => buffer) 0 sizes).flatten := by
  obtain ⟨held, rounds, result, sent, results, returned, rfl⟩ := sent
  rcases (always_tcpClient held rounds).returns returned with ⟨-, sizes, same⟩ | ⟨-, refused⟩
  · exact ⟨sizes, congrArg List.flatten (logged_sent same)⟩
  · exact absurd refused (logged_ne_refuses held sent results held.contexts)

theorem tls_taken {stream : List UInt8} (sent : SentBy tlsClient stream) :
    ∃ sizes, stream = (taken (fun _ => buffer) 0 sizes).flatten := by
  obtain ⟨held, rounds, result, sent, results, returned, rfl⟩ := sent
  rcases (always_tlsClient held rounds).returns returned with
    ⟨-, connect, sizes, same⟩ | ⟨-, same⟩ | ⟨-, ctx, refused⟩
  · exact ⟨sizes, congrArg List.flatten (logged_sent same)⟩
  · exact ⟨[], congrArg List.flatten (logged_sent (same.trans (logged_nil held).symm))⟩
  · exact absurd refused (logged_ne_refuses held sent results _)

theorem prefix_of_taken {bytes piece : List UInt8} {count : Nat} {sizes : List Int}
    (among : piece ∈ taken (fun _ => bytes) count sizes) : piece <+: bytes := by
  induction sizes generalizing count with
  | nil => cases among
  | cons size sizes ih =>
    rcases List.mem_cons.mp among with rfl | later
    · exact List.take_prefix _ _
    · exact ih later

theorem newline_not_mem_taken (sizes : List Int) :
    LogData.newline ∉ (taken (fun _ => buffer) 0 sizes).flatten := by
  have plain : LogData.newline ∉ buffer := by decide
  intro member
  obtain ⟨piece, among, inside⟩ := List.mem_flatten.mp member
  exact plain ((prefix_of_taken among).subset inside)

open ServerLog LogLine SessionText in
theorem clients_logged (program : Program) (notes : List Note) {sessions : List Session}
    {calls : List (LineCall program.root)} {limit : Int}
    (peers : ∀ session, session ∈ sessions → ∃ stream,
      (SentBy tcpClient stream ∨ SentBy tlsClient stream) ∧
        session.chunks.flatMap Chunk.bytes <+: stream)
    (terminated : ∀ session, session ∈ sessions → ∀ chunk, chunk ∈ session.chunks →
      chunk.Terminated)
    (order : calls.Perm (program.lines notes sessions))
    (release : Level.info.number ≤ limit) :
    readLog (log limit calls) = some (calls.map LineCall.relative) := by
  rw [program.lines_read_back order release, program.lines_free_iff notes terminated]
  intro session member _ chunk inside
  obtain ⟨stream, sent, received⟩ := peers session member
  obtain ⟨sizes, rfl⟩ := sent.elim tcp_taken tls_taken
  apply free_of_plain
  intro broken
  exact newline_not_mem_taken sizes
    (received.subset (List.mem_flatMap.mpr ⟨chunk, inside, broken⟩))

def granted (held : Held) : (op : Op) → op.Answer
  | .socket => (3 : Int)
  | .connect fd => decide (fd ∈ held.fds)
  | .send _ bytes | .sslWrite _ bytes => (bytes.length : Int)
  | .sslConnect _ => (1 : Int)
  | .createThread => true
  | .setFd _ _ => true
  | .ctxNew | .peerCertificate _ | .sslNew _ | .oneline _ => some 0
  | .close _ | .ctxFree _ | .getCipher _ | .sslShutdown _ | .sslFree _ | .print _ | .free _
  | .x509Free _ => ()

def granting : Handler Op Op.Answer Held := fun held op =>
  some (granted held op, held.after op (granted held op))

def nothing : Held :=
  { fds := [], contexts := [], sessions := [], bound := [], certificates := [], lines := [],
    refused := 0, sent := [], results := [] }

def anyHeld (_ : Held) : Prop := True

theorem granting_within (before : Held) (op : Op) (answer : op.Answer) (after : Held)
    (_ : anyHeld before) (replied : granting before op = some (answer, after)) :
    respond Supplied before op answer after ∧ anyHeld after := by
  obtain ⟨rfl, rfl⟩ := Prod.mk.inj (Option.some.inj replied)
  refine ⟨⟨?_, ?_, rfl⟩, trivial⟩
  · cases op <;> simp [Possible, granted]
  · cases op <;> simp [Supplied, granted]

theorem greeting_sent : SentBy tcpClient buffer := by
  have completed : run granting (tcpClient 1) nothing =
      .returned 0 (nothing.logged [buffer] [17]) := rfl
  exact ⟨nothing, 1, 0, [buffer], [17], returns_of_run granting_within trivial completed, rfl⟩

open ServerLog LogLine SessionText in
theorem clients_logged_greeting :
    readLog (log Level.info.number
        ((tcpServer sourceDirectory).lines greetedNotes [greeted])) =
      some (((tcpServer sourceDirectory).lines greetedNotes [greeted]).map LineCall.relative) := by
  apply clients_logged (tcpServer sourceDirectory) greetedNotes _ _ (List.Perm.refl _)
    (Int.le_refl _)
  · intro session member
    obtain rfl := List.mem_singleton.mp member
    exact ⟨buffer, .inl greeting_sent, List.prefix_refl _⟩
  · intro session member chunk inside
    obtain rfl := List.mem_singleton.mp member
    obtain rfl := List.mem_singleton.mp inside
    rfl

end Client
