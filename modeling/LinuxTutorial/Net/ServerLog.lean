import LinuxTutorial.Log.LogLine
import LinuxTutorial.Net.ReceivedText

set_option autoImplicit false

namespace ServerLog

open CText Delimited LogLine SessionText
open LogData (newline)

inductive Site where
  | recvFailed
  | sessionClosed
  | receiveData
  | receiveSignal
  | bindFailed
  | listenFailed
  | listenOn
  | connected
  | createFailed
  | acceptFailed

def tcpLine : Site → Nat
  | .recvFailed => 40
  | .sessionClosed => 43
  | .receiveData => 46
  | .receiveSignal => 55
  | .bindFailed => 91
  | .listenFailed => 97
  | .listenOn => 101
  | .connected => 111
  | .createFailed => 117
  | .acceptFailed => 120

def tlsLine : Site → Nat
  | .recvFailed => 57
  | .sessionClosed => 60
  | .receiveData => 63
  | .receiveSignal => 77
  | .bindFailed => 133
  | .listenFailed => 139
  | .listenOn => 143
  | .connected => 153
  | .createFailed => 160
  | .acceptFailed => 163

structure Program where
  -- __FILE__
  file : Name
  -- WDM_SOURCE_ROOT_LENGTH
  root : Nat
  rooted : root ≤ file.bytes.length
  line : Site → Nat

-- A source file, by its path in the directory whose length the build counts.
def built (directory path : Name) (line : Site → Nat) : Program where
  file :=
    { bytes := directory.bytes ++ path.bytes
      plain := by simp [directory.plain, path.plain] }
  root := directory.bytes.length
  rooted := by simp
  line := line

def tcpServer (directory : Name) : Program :=
  built directory { bytes := ascii "net/tcp_server.c", plain := by decide } tcpLine

def tlsServer (directory : Name) : Program :=
  built directory { bytes := ascii "net/tls_server.c", plain := by decide } tlsLine

/-- errno and its text by strerror, which is on one line. -/
structure Failure where
  errno : Int
  reason : List UInt8
  plain : newline ∉ reason

/-- The argument of inet_ntoa. -/
structure Address where
  a : UInt8
  b : UInt8
  c : UInt8
  d : UInt8

def sessionProcessThread : Name where
  bytes := ascii "session_process_thread"
  plain := by decide

def handleSignal : Name where
  bytes := ascii "handle_signal"
  plain := by decide

def main : Name where
  bytes := ascii "main"
  plain := by decide

def serverHost : List UInt8 := ascii "0.0.0.0"

def serverPort : Nat := 5566

-- "… failed with [%d]%s"
def Failure.text (failure : Failure) (what : List UInt8) : List UInt8 :=
  what ++ ascii " failed with [" ++ decimal failure.errno ++ ascii "]" ++ failure.reason

def inetNtoa (address : Address) : List UInt8 :=
  digits address.a.toNat ++ ascii "." ++ digits address.b.toNat ++ ascii "." ++
    digits address.c.toNat ++ ascii "." ++ digits address.d.toNat

-- "… %s:%d"
def hostPort (what host : List UInt8) (port : Nat) : List UInt8 :=
  what ++ host ++ ascii ":" ++ digits port

/-- What main and handle_signal log. -/
inductive Note where
  | receiveSignal (signum : Int)
  | bindFailed (failure : Failure)
  | listenFailed (failure : Failure)
  | listenOn
  | connected (address : Address) (port : UInt16)
  | createFailed (failure : Failure)
  | acceptFailed (failure : Failure)

namespace Program

variable (program : Program)

def message (level : Level) (function : Name) (site : Site) (text : List UInt8) :
    LineCall program.root where
  level := level
  file := program.file
  function := function
  line := program.line site
  text := text
  rooted := program.rooted

def received (text : List UInt8) : LineCall program.root :=
  program.message .info sessionProcessThread .receiveData (ascii "receive data: " ++ text)

def closed : LineCall program.root :=
  program.message .warn sessionProcessThread .sessionClosed (ascii "session closed")

def failed (failure : Failure) : LineCall program.root :=
  program.message .error sessionProcessThread .recvFailed (failure.text (ascii "session recv"))

def noted : Note → LineCall program.root
  | .receiveSignal signum =>
    program.message .warn handleSignal .receiveSignal (ascii "receive signal " ++ decimal signum)
  | .bindFailed failure =>
    program.message .error main .bindFailed (failure.text (ascii "server bind"))
  | .listenFailed failure =>
    program.message .error main .listenFailed (failure.text (ascii "server listen"))
  | .listenOn =>
    program.message .info main .listenOn
      (hostPort (ascii "server listen on ") serverHost serverPort ++ ascii " ...")
  | .connected address port =>
    program.message .info main .connected
      (hostPort (ascii "client connected from ") (inetNtoa address) port.toNat)
  | .createFailed failure =>
    program.message .error main .createFailed
      (failure.text (ascii "create session process thread"))
  | .acceptFailed failure =>
    program.message .error main .acceptFailed (failure.text (ascii "server accept"))

-- A received string that runs past its buffer has no text.
def event (failure : Failure) : Event → List (LineCall program.root)
  | .handshake _ | .data _ | .receiveData none => []
  | .receiveData (some text) => [program.received text]
  | .sessionClosed => [program.closed]
  | .failed => [program.failed failure]

end Program

structure Session where
  -- of SSL_accept, in net/tls_server.c
  handshake : Option Int
  chunks : List Chunk
  ending : Ending
  -- of a receiving call that returned -1
  failure : Failure

def Session.events (session : Session) : List Event :=
  let turns := delivery session.chunks session.ending
  match session.handshake with
  | none => SessionText.sessionProcessThread turns
  | some accept => tlsSessionProcessThread accept turns

def Session.Open (session : Session) : Prop := session.handshake ≠ some (-1)

def Program.session (program : Program) (session : Session) : List (LineCall program.root) :=
  session.events.flatMap (program.event session.failure)

def Program.lines (program : Program) (notes : List Note) (sessions : List Session) :
    List (LineCall program.root) :=
  notes.map program.noted ++ sessions.flatMap program.session

section Plain

theorem newline_not_mem_decimal (value : Int) : newline ∉ decimal value := by
  intro member
  exact absurd (decimal_printable member) (by decide)

theorem newline_not_mem_digits (value : Nat) : newline ∉ digits value := by
  intro member
  exact absurd (digit_of_mem_digits member).1 (by decide)

theorem Failure.newline_not_mem (failure : Failure) {what : List UInt8} (plain : newline ∉ what) :
    newline ∉ failure.text what := by
  have before : newline ∉ ascii " failed with [" := by decide
  have behind : newline ∉ ascii "]" := by decide
  simp [Failure.text, plain, before, behind, newline_not_mem_decimal, failure.plain]

theorem newline_not_mem_inetNtoa (address : Address) : newline ∉ inetNtoa address := by
  have dot : newline ∉ ascii "." := by decide
  simp [inetNtoa, dot, newline_not_mem_digits]

theorem newline_not_mem_hostPort {what host : List UInt8} (port : Nat) (first : newline ∉ what)
    (second : newline ∉ host) : newline ∉ hostPort what host port := by
  have colon : newline ∉ ascii ":" := by decide
  simp [hostPort, first, second, colon, newline_not_mem_digits]

theorem Program.newline_not_mem_noted (program : Program) (note : Note) :
    newline ∉ (program.noted note).text := by
  cases note with
  | receiveSignal signum =>
    have text : newline ∉ ascii "receive signal " := by decide
    simp [Program.noted, Program.message, text, newline_not_mem_decimal]
  | bindFailed failure | listenFailed failure | createFailed failure | acceptFailed failure =>
    exact failure.newline_not_mem (by decide)
  | listenOn =>
    have dots : newline ∉ ascii " ..." := by decide
    have text := newline_not_mem_hostPort serverPort
      (show newline ∉ ascii "server listen on " by decide) (show newline ∉ serverHost by decide)
    simp [Program.noted, Program.message, dots, text]
  | connected address port =>
    exact newline_not_mem_hostPort _ (by decide) (newline_not_mem_inetNtoa address)

theorem free_of_plain {text : List UInt8} (plain : newline ∉ text) : ¬ LogLine.ending <:+: text :=
  fun inside => plain (inside.subset (by simp [LogLine.ending]))

end Plain

theorem Program.received_ending_iff (program : Program) (text : List UInt8) :
    LogLine.ending <:+: (program.received text).text ↔ LogLine.ending <:+: text := by
  constructor
  · exact infix_append (by decide)
  · intro inside
    exact inside.trans (List.suffix_append _ _).isInfix

def Program.left (program : Program) (failure : Failure) : Ending → List (LineCall program.root)
  | .inside | .quit => []
  | .closed _ => [program.closed]
  | .failed _ => [program.failed failure]

theorem Program.sessionLoop_messages (program : Program) (failure : Failure) (ending : Ending)
    {chunks : List Chunk} (terminated : ∀ chunk, chunk ∈ chunks → chunk.Terminated) :
    (sessionLoop (delivery chunks ending)).flatMap (program.event failure) =
      chunks.map (fun chunk => program.received chunk.bytes) ++ program.left failure ending := by
  induction chunks with
  | nil => cases ending <;> rfl
  | cons chunk rest ih =>
    have positive := chunk.positive
    have unfailed : (chunk.bytes.length : Int) ≠ -1 := by omega
    have unclosed : (chunk.bytes.length : Int) ≠ 0 := by omega
    have text : cstring (chunk.stale.store chunk.bytes) = some chunk.bytes :=
      (cstring_store_iff chunk.nonzero).mpr (terminated chunk List.mem_cons_self)
    have later := ih fun other member => terminated other (List.mem_cons_of_mem _ member)
    have loop : sessionLoop (delivery (chunk :: rest) ending) =
        .data chunk.bytes.length :: .receiveData (some chunk.bytes) ::
          sessionLoop (delivery rest ending) := by
      rw [← text]
      simp only [delivery, List.map_cons, List.cons_append, Chunk.turn, sessionLoop, unfailed,
        unclosed, if_false]
    rw [loop, List.flatMap_cons, List.flatMap_cons, later]
    rfl

theorem Program.session_messages (program : Program) {session : Session} (opened : session.Open)
    (terminated : ∀ chunk, chunk ∈ session.chunks → chunk.Terminated) :
    program.session session =
      session.chunks.map (fun chunk => program.received chunk.bytes) ++
        program.left session.failure session.ending := by
  rw [← program.sessionLoop_messages session.failure session.ending terminated]
  cases handshake : session.handshake with
  | none => simp only [Program.session, Session.events, handshake, SessionText.sessionProcessThread]
  | some accept =>
    have accepted : accept ≠ -1 := fun failed => opened (handshake.trans (congrArg some failed))
    simp only [Program.session, Session.events, handshake, tlsSessionProcessThread, accepted,
      if_false, List.flatMap_cons, Program.event, List.nil_append]

theorem Program.session_unopened (program : Program) {session : Session}
    (failed : session.handshake = some (-1)) : program.session session = [] := by
  simp [Program.session, Session.events, failed, tlsSessionProcessThread, Program.event]

theorem Program.lines_admitted (program : Program) (notes : List Note) (sessions : List Session) :
    ∀ message, message ∈ program.lines notes sessions →
      message.level.number ≤ Level.info.number := by
  intro message member
  rcases List.mem_append.mp member with noted | logged
  · obtain ⟨note, -, rfl⟩ := List.mem_map.mp noted
    cases note <;> simp [Program.noted, Program.message, Level.number]
  · obtain ⟨session, -, logged⟩ := List.mem_flatMap.mp logged
    obtain ⟨event, -, logged⟩ := List.mem_flatMap.mp logged
    cases event with
    | handshake | data => cases logged
    | receiveData text =>
      cases text with
      | none => cases logged
      | some text =>
        obtain rfl := List.mem_singleton.mp logged
        simp [Program.received, Program.message]
    | sessionClosed | failed =>
      obtain rfl := List.mem_singleton.mp logged
      simp [Program.closed, Program.failed, Program.message, Level.number]

theorem Program.left_plain (program : Program) (failure : Failure) (ending : Ending) :
    ∀ message, message ∈ program.left failure ending → newline ∉ message.text := by
  intro message member
  cases ending with
  | inside | quit => cases member
  | closed stale =>
    obtain rfl := List.mem_singleton.mp member
    show newline ∉ ascii "session closed"
    decide
  | failed stale =>
    obtain rfl := List.mem_singleton.mp member
    exact failure.newline_not_mem (by decide)

theorem Program.lines_free_iff (program : Program) (notes : List Note) {sessions : List Session}
    (terminated : ∀ session, session ∈ sessions → ∀ chunk, chunk ∈ session.chunks →
      chunk.Terminated) :
    (∀ message, message ∈ program.lines notes sessions → ¬ LogLine.ending <:+: message.text) ↔
      ∀ session, session ∈ sessions → session.Open → ∀ chunk, chunk ∈ session.chunks →
        ¬ LogLine.ending <:+: chunk.bytes := by
  constructor
  · intro free session member opened chunk inside ends
    have logged : program.received chunk.bytes ∈ program.session session := by
      rw [program.session_messages opened (terminated session member)]
      exact List.mem_append_left _ (List.mem_map.mpr ⟨chunk, inside, rfl⟩)
    have among : program.received chunk.bytes ∈ program.lines notes sessions :=
      List.mem_append_right _ (List.mem_flatMap.mpr ⟨session, member, logged⟩)
    exact free _ among ((program.received_ending_iff _).mpr ends)
  · intro free message among
    rcases List.mem_append.mp among with noted | logged
    · obtain ⟨note, -, rfl⟩ := List.mem_map.mp noted
      exact free_of_plain (program.newline_not_mem_noted note)
    · obtain ⟨session, member, logged⟩ := List.mem_flatMap.mp logged
      by_cases opened : session.Open
      · rw [program.session_messages opened (terminated session member)] at logged
        rcases List.mem_append.mp logged with received | left
        · obtain ⟨chunk, inside, rfl⟩ := List.mem_map.mp received
          exact fun ends =>
            free session member opened chunk inside ((program.received_ending_iff _).mp ends)
        · exact free_of_plain (program.left_plain _ _ message left)
      · rw [program.session_unopened (not_not.mp opened)] at logged
        cases logged

theorem Program.lines_read_back (program : Program) {notes : List Note} {sessions : List Session}
    {calls : List (LineCall program.root)} {limit : Int}
    (order : calls.Perm (program.lines notes sessions))
    (release : Level.info.number ≤ limit) :
    readLog (log limit calls) = some (calls.map LineCall.relative) ↔
      ∀ call, call ∈ program.lines notes sessions → ¬ LogLine.ending <:+: call.text := by
  have admitted (call : LineCall program.root) (member : call ∈ calls) :
      limit ≥ call.level.number :=
    Int.le_trans (program.lines_admitted notes sessions call (order.mem_iff.mp member)) release
  have all : shown limit calls = calls.map LineCall.relative := by
    rw [shown, List.filter_eq_self.mpr]
    intro call member
    exact decide_eq_true (admitted call member)
  rw [log_eq, all, readLog_iff, List.forall_mem_map]
  exact forall_congr' fun call => by rw [order.mem_iff]; rfl

theorem server_log_reads_back_iff (program : Program) (notes : List Note) {sessions : List Session}
    {calls : List (LineCall program.root)} {limit : Int}
    (terminated : ∀ session, session ∈ sessions → ∀ chunk, chunk ∈ session.chunks →
      chunk.Terminated)
    (order : calls.Perm (program.lines notes sessions))
    (release : Level.info.number ≤ limit) :
    readLog (log limit calls) = some (calls.map LineCall.relative) ↔
      ∀ session, session ∈ sessions → session.Open → ∀ chunk, chunk ∈ session.chunks →
        ¬ LogLine.ending <:+: chunk.bytes :=
  (program.lines_read_back order release).trans (program.lines_free_iff notes terminated)

def greeted : Session where
  handshake := none
  chunks := [greeting]
  ending := .quit
  failure := { errno := 4, reason := ascii "Interrupted system call", plain := by decide }

def greetedNotes : List Note :=
  [.listenOn, .connected { a := 127, b := 0, c := 0, d := 1 } 40000]

def sourceDirectory : Name where
  bytes := ascii "/src/"
  plain := by decide

theorem server_log_reads_back_iff_greeted :
    readLog (log Level.info.number
        ((tcpServer sourceDirectory).lines greetedNotes [greeted])) =
      some (((tcpServer sourceDirectory).lines greetedNotes [greeted]).map LineCall.relative) := by
  have logged := @server_log_reads_back_iff (tcpServer sourceDirectory) greetedNotes [greeted] _ _
    (by simp [greeted, greeting, Chunk.Terminated]; rfl) (List.Perm.refl _) (Int.le_refl _)
  refine logged.mpr ?_
  intro session member _ chunk inside
  obtain rfl := List.mem_singleton.mp member
  obtain rfl := List.mem_singleton.mp inside
  exact free_of_plain (by decide)

-- The bytes that make one received chunk the lines of other messages.
def forgery (others : List Message) : List UInt8 :=
  let lines := others.flatMap Message.printed
  LogLine.ending ++ lines.take (lines.length - LogLine.ending.length)

theorem ending_length_le_printed {others : List Message} (more : others ≠ []) :
    LogLine.ending.length ≤ (others.flatMap Message.printed).length := by
  cases others with
  | nil => exact absurd rfl more
  | cons first rest =>
    simp only [List.flatMap_cons, List.length_append, Message.printed]
    omega

theorem forgery_length {others : List Message} (more : others ≠ []) :
    (forgery others).length = (others.flatMap Message.printed).length := by
  have long := ending_length_le_printed more
  simp only [forgery, List.length_append, List.length_take]
  omega

theorem forgery_nonzero {others : List Message} (nonzero : 0 ∉ others.flatMap Message.printed) :
    0 ∉ forgery others := by
  intro member
  rcases List.mem_append.mp member with ends | taken
  · exact absurd ends (by decide)
  · exact nonzero (List.mem_of_mem_take taken)

theorem Program.received_forgery (program : Program) (others : List Message) :
    (program.received (forgery others)).relative =
      (program.received []).relative.forging others := by
  simp [Program.received, Program.message, LineCall.relative, Message.forging, forgery]

theorem Program.received_nothing (program : Program) :
    ¬ LogLine.ending <:+: (program.received []).text :=
  free_of_plain (by show newline ∉ ascii "receive data: "; decide)

theorem shown_free {limit : Int} {root : Nat} {calls : List (LineCall root)}
    (free : ∀ call, call ∈ calls → ¬ LogLine.ending <:+: call.text) :
    ∀ message, message ∈ shown limit calls → ¬ LogLine.ending <:+: message.text := by
  intro message member
  obtain ⟨called, among, rfl⟩ := List.mem_map.mp member
  exact free called (List.mem_of_mem_filter among)

theorem client_forges_lines (program : Program) {others : List Message} {limit : Int}
    (more : others ≠ []) (nonzero : 0 ∉ others.flatMap Message.printed)
    (short : (others.flatMap Message.printed).length < bufferSize)
    (free : ∀ message, message ∈ others → ¬ LogLine.ending <:+: message.text)
    (release : Level.info.number ≤ limit) :
    ∃ bytes : List UInt8, 0 < bytes.length ∧ bytes.length < bufferSize ∧ 0 ∉ bytes ∧
      ∀ chunk : Chunk, chunk.bytes = bytes → chunk.Terminated →
        ∀ failure before after,
          (∀ call, call ∈ before ++ after → ¬ LogLine.ending <:+: call.text) →
          readLog (log limit (before ++
              program.event failure (.receiveData (cstring (chunk.stale.store chunk.bytes))) ++
                after)) =
            some (shown limit before ++ (program.received []).relative :: others ++
              shown limit after) := by
  have long := ending_length_le_printed more
  have positive : 0 < LogLine.ending.length := by decide
  refine ⟨forgery others, ?_, ?_, forgery_nonzero nonzero, ?_⟩
  · rw [forgery_length more]
    omega
  · rw [forgery_length more]
    exact short
  intro chunk same terminated failure before after around
  have printed : cstring (chunk.stale.store chunk.bytes) = some (forgery others) :=
    same ▸ (cstring_store_iff chunk.nonzero).mpr terminated
  have lines : shown limit (before ++ [program.received (forgery others)] ++ after) =
      shown limit before ++ (program.received []).relative.forging others ::
        shown limit after := by
    have admitted : (program.received (forgery others)).level.number ≤ limit := release
    simp [shown, admitted, program.received_forgery]
  rw [printed, Program.event, log_eq, lines]
  apply forged_reads_back _ more
  intro message member
  simp only [List.mem_append, List.mem_cons] at member around
  rcases member with (earlier | rfl | forged) | later
  · exact shown_free (fun other among => around other (.inl among)) message earlier
  · exact program.received_nothing
  · exact free message forged
  · exact shown_free (fun other among => around other (.inr among)) message later

def signalled : List Message :=
  [((tlsServer sourceDirectory).noted (.receiveSignal 15)).relative]

theorem client_forges_lines_signal :
    ∃ bytes : List UInt8, 0 < bytes.length ∧ bytes.length < bufferSize ∧ 0 ∉ bytes ∧
      ∀ chunk : Chunk, chunk.bytes = bytes → chunk.Terminated →
        readLog (log Level.info.number
            ((tlsServer sourceDirectory).event greeted.failure
              (.receiveData (cstring (chunk.stale.store chunk.bytes))))) =
          some [((tlsServer sourceDirectory).received []).relative,
            ((tlsServer sourceDirectory).noted (.receiveSignal 15)).relative] := by
  obtain ⟨bytes, positive, short, nonzero, forged⟩ :=
    @client_forges_lines (tlsServer sourceDirectory) signalled _ (by simp [signalled]) (by decide) (by decide)
      (fun message member => by
        obtain rfl := List.mem_singleton.mp member
        exact free_of_plain ((tlsServer sourceDirectory).newline_not_mem_noted _)) (Int.le_refl _)
  refine ⟨bytes, positive, short, nonzero, fun chunk same terminated => ?_⟩
  have read := forged chunk same terminated greeted.failure [] [] (by simp)
  rw [List.nil_append, List.append_nil] at read
  exact read

end ServerLog
