import LinuxTutorial.Log.HexDump
import LinuxTutorial.Log.LogLine

set_option autoImplicit false

namespace LogFile

open CText Delimited HexText IntLoop LogData LogLine Rows

structure Build where
  wdmLogLevel : Option Int
  wdmDebug : Bool
  wdmSourceRootLength : Nat

def Build.level (build : Build) : Int := logLevel build.wdmLogLevel build.wdmDebug

structure DataCall (root : Nat) where
  file : Name
  rooted : root ≤ file.bytes.length
  function : Name
  line : Nat
  str : List UInt8
  data : Option (List UInt8)
  size : Int32
  max : Int32
  split : Int32
  short : line < 2 ^ 31
  points : ∀ bytes, data = some bytes → 0 < size → (bytes.length : Int) = size.toInt

inductive Statement (root : Nat) where
  | line (call : LineCall root)
  | data (call : DataCall root)

def Statement.run (build : Build) : Statement build.wdmSourceRootLength → Run Event Unit
  | .line call =>
    if build.level ≥ call.level.number then printf call.relative.printed else pure ()
  | .data call =>
    logData build.wdmLogLevel build.wdmDebug build.wdmSourceRootLength call.file.bytes
      call.function.bytes (Int32.ofNat call.line) call.str call.data call.size call.max call.split

def logRun (build : Build) : List (Statement build.wdmSourceRootLength) → Run Event Unit
  | [] => pure ()
  | statement :: rest => do
    statement.run build
    logRun build rest

def printed (run : Run Event Unit) : List UInt8 := run.events.flatMap Event.text

structure Dump where
  file : Name
  function : Name
  line : Nat
  str : List UInt8
  rows : List (List UInt8)
  filled : rows ≠ [] ∧ ∀ row ∈ rows, row ≠ []
  deriving DecidableEq

def dumpOpening : List UInt8 := ascii "\x1b[32m[FATAL]["

def dumpEnding : List UInt8 := reset ++ [newline]

def Dump.header (dump : Dump) : List UInt8 :=
  dumpOpening ++ dump.file.bytes ++ ascii "][" ++ dump.function.bytes ++ ascii "][" ++
    digits dump.line ++ ascii "]:" ++ dump.str

def Dump.printed (dump : Dump) : List UInt8 :=
  dump.header ++ rowsText newline blank token dump.rows ++ dumpEnding

inductive Record where
  | line (message : Message)
  | data (dump : Dump)
  deriving DecidableEq

def Record.printed : Record → List UInt8
  | .line message => message.printed
  | .data dump => dump.printed

-- The text of a line does not end it, and the text of a dump stays on the line of its header.
def Record.Plain : Record → Prop
  | .line message => ¬ ending <:+: message.text
  | .data dump => newline ∉ dump.str

def readMessage (bytes : List UInt8) : Option (Record × List UInt8) := do
  let (line, after) ← untilStop ending bytes
  let message ← readLine line
  some (.line message, after)

def readBody (file function : Name) (line : Nat) (bytes : List UInt8) :
    Option (Record × List UInt8) := do
  let (body, after) ← untilStop dumpEnding (bytes.dropWhile (· ≠ newline))
  let rows ← readRows newline blank hexToken (body ++ [newline])
  if filled : rows ≠ [] ∧ ∀ row ∈ rows, row ≠ [] then
    let str := bytes.takeWhile (· ≠ newline)
    some (.data { file, function, line, str, rows, filled }, after)
  else none

def readDump (bytes : List UInt8) : Option (Record × List UInt8) := do
  let rest ← bytes.dropPrefix? dumpOpening
  let (file, rest) ← readName rest
  let rest ← rest.dropPrefix? (ascii "][")
  let (function, rest) ← readName rest
  let rest ← rest.dropPrefix? (ascii "][")
  let line := digitsValue (rest.takeWhile (· ≠ bracket))
  let rest ← (rest.dropWhile (· ≠ bracket)).dropPrefix? (ascii "]:")
  readBody file function line rest

def readRecord (bytes : List UInt8) : Option (Record × List UInt8) :=
  (readDump bytes).or (readMessage bytes)

def readLogFile (bytes : List UInt8) : Option (List Record) := records readRecord bytes

-- The call that the preprocessor leaves in the program.
def DataCall.call {root : Nat} (call : DataCall root) : Call where
  file := (call.file.drop root call.rooted).bytes
  function := call.function.bytes
  line := Int32.ofNat call.line
  str := call.str
  data := call.data
  size := call.size
  max := call.max
  split := call.split
  points := call.points

theorem layOut_filled {call : Call} (dumps : call.Dumps) :
    layOut call.split.toInt.natAbs (call.bytes.take call.dumped) ≠ [] ∧
      ∀ row ∈ layOut call.split.toInt.natAbs (call.bytes.take call.dumped), row ≠ [] := by
  have width := width_pos dumps.nonzero
  have shaped := shaped_layOut width (call.bytes.take call.dumped)
  refine ⟨fun none => ?_, fun row member => shaped.ne_nil width member⟩
  have flat := flatten_layOut call.split.toInt.natAbs (call.bytes.take call.dumped)
  have length := dumps.length_dumped
  have positive := dumps.count_pos
  rw [← flat, none, List.flatten_nil, List.length_nil, dumps.dumped_eq] at length
  omega

section DataCall

variable {root : Nat} {call : DataCall root}

theorem DataCall.dumps (shows : call.data ≠ none ∧ 0 < call.size ∧ call.split ≠ 0) :
    call.call.Dumps := by
  have admitted : call.call.Admitted := { present := shows.1, positive := shows.2.1 }
  exact admitted.dumps shows.2.2

theorem DataCall.filled (shows : call.data ≠ none ∧ 0 < call.size ∧ call.split ≠ 0) :
    layOut call.split.toInt.natAbs (call.call.bytes.take call.call.dumped) ≠ [] ∧
      ∀ row ∈ layOut call.split.toInt.natAbs (call.call.bytes.take call.call.dumped), row ≠ [] := by
  have split : call.call.split = call.split := rfl
  have filled := layOut_filled (DataCall.dumps shows)
  rw [split] at filled
  exact filled

def DataCall.dump (call : DataCall root) : Option Dump :=
  if shows : call.data ≠ none ∧ 0 < call.size ∧ call.split ≠ 0 then
    some
      { file := call.file.drop root call.rooted
        function := call.function
        line := call.line
        str := call.str
        rows := layOut call.split.toInt.natAbs (call.call.bytes.take call.call.dumped)
        filled := DataCall.filled shows }
  else none

end DataCall

def Statement.shown (build : Build) : Statement build.wdmSourceRootLength → Option Record
  | .line call => if build.level ≥ call.level.number then some (.line call.relative) else none
  | .data call => if build.level ≥ logLevelTrace then call.dump.map .data else none

theorem dump_printed {root : Nat} {call : DataCall root} (dumps : call.call.Dumps) :
    ∃ dump, call.dump = some dump ∧ dump.printed = call.call.printed := by
  have shows : call.data ≠ none ∧ 0 < call.size ∧ call.split ≠ 0 :=
    ⟨dumps.present, dumps.positive, dumps.nonzero⟩
  have line : (Int32.ofNat call.line).toInt = call.line := Int32.toInt_ofNat_of_lt call.short
  have opening : dumpOpening = logColorTrace ++ ascii "[FATAL][" := rfl
  refine ⟨_, dif_pos shows, ?_⟩
  rw [dumps.printed_eq, Call.header, LogData.header]
  simp only [DataCall.call, line, decimal_natCast, dumpText, Dump.printed, Dump.header, dumpEnding,
    opening, List.append_assoc]

theorem data_run {build : Build} (level : build.level ≥ logLevelTrace) (call : DataCall build.wdmSourceRootLength) :
    Statement.run build (.data call) = call.call.run := by
  simp only [Statement.run, logData]
  exact if_pos level

theorem data_run_below {build : Build} (level : ¬ build.level ≥ logLevelTrace)
    (call : DataCall build.wdmSourceRootLength) : Statement.run build (.data call) = pure () := by
  simp only [Statement.run, logData]
  exact if_neg level

theorem data_printed (build : Build) (call : DataCall build.wdmSourceRootLength)
    (completes : (Statement.run build (.data call)).Completes) :
    printed (Statement.run build (.data call)) =
      (Statement.shown build (.data call)).toList.flatMap Record.printed := by
  by_cases level : build.level ≥ logLevelTrace
  · rw [data_run level] at completes ⊢
    by_cases admitted : call.call.Admitted
    · obtain ⟨dump, shown, same⟩ := dump_printed ⟨admitted, completes⟩
      simp only [Statement.shown, level, if_true, shown, Option.map_some, Option.toList_some,
        List.flatMap_singleton]
      exact same.symm
    · have shows : ¬ (call.data ≠ none ∧ 0 < call.size ∧ call.split ≠ 0) :=
        fun shows => admitted ⟨shows.1, shows.2.1⟩
      have shown : call.dump = none := dif_neg shows
      rw [Call.unadmitted admitted]
      simp only [Statement.shown, level, if_true, shown]
      rfl
  · rw [data_run_below level]
    simp only [Statement.shown, level, if_false]
    rfl

theorem statement_printed (build : Build) (statement : Statement build.wdmSourceRootLength)
    (completes : (statement.run build).Completes) :
    printed (statement.run build) = (statement.shown build).toList.flatMap Record.printed := by
  cases statement with
  | line message =>
    simp only [Statement.run, Statement.shown]
    split_ifs
    · simp [printed, printf, perform, Event.text, Record.printed]
    · rfl
  | data call => exact data_printed build call completes

theorem logRun_printed (build : Build) {statements : List (Statement build.wdmSourceRootLength)}
    (completes : (logRun build statements).Completes) :
    printed (logRun build statements) =
      (statements.filterMap (Statement.shown build)).flatMap Record.printed := by
  induction statements with
  | nil => rfl
  | cons statement rest ih =>
    obtain ⟨value, first, later, events⟩ := Run.Completes.bind completes
    have here := statement_printed build statement (by rw [Run.Completes, first]; rfl)
    have there := ih later
    have whole : printed (logRun build (statement :: rest)) =
        printed (statement.run build) ++ printed (logRun build rest) := by
      rw [printed, logRun, events, List.flatMap_append]
      rfl
    rw [whole, here, there]
    cases shown : statement.shown build with
    | none => simp [shown]
    | some record => simp [shown]

theorem dropPrefix_dumpOpening (level : Level) (rest : List UInt8) :
    (level.opening ++ rest).dropPrefix? dumpOpening = none := by
  cases level <;> rfl

theorem readDump_line (message : Message) (rest : List UInt8) :
    readDump (message.printed ++ rest) = none := by
  simp only [Message.printed, Message.header, List.append_assoc, readDump, dropPrefix_dumpOpening,
    Option.bind_eq_bind, Option.bind_none]

theorem readMessage_printed {message : Message} (plain : ¬ ending <:+: message.text)
    (rest : List UInt8) :
    readMessage (message.printed ++ rest) = some (.line message, rest) := by
  have unbordered : newline ∉ reset := by decide
  have free : ¬ ending <:+: (message.header ++ message.text) :=
    fun inside => plain ((ending_infix_iff message).mp inside)
  have split : untilStop ending (message.printed ++ rest) =
      some (message.header ++ message.text, rest) := untilStop_append unbordered free rest
  simp only [readMessage, split, readLine_header, Option.bind_eq_bind, Option.bind_some]

theorem readBody_printed {dump : Dump} (plain : newline ∉ dump.str) (rest : List UInt8) :
    readBody dump.file dump.function dump.line
      (dump.str ++ rowsText newline blank token dump.rows ++ dumpEnding ++ rest) =
        some (.data dump, rest) := by
  obtain ⟨row, rows, same⟩ := List.exists_cons_of_ne_nil dump.filled.1
  obtain ⟨more, starts⟩ : ∃ more, rowsText newline blank token dump.rows = newline :: more :=
    ⟨_, by rw [same, rowsText, List.flatMap_cons, List.cons_append]⟩
  obtain ⟨taken, left⟩ := takeWhile_until (more ++ dumpEnding ++ rest) plain
  have parts : dump.str ++ rowsText newline blank token dump.rows ++ dumpEnding ++ rest =
      dump.str ++ newline :: (more ++ dumpEnding ++ rest) := by simp [starts]
  obtain ⟨tail, ends, unbordered⟩ : ∃ tail, dumpEnding = escape :: tail ∧ escape ∉ tail :=
    ⟨ascii "[0m" ++ [newline], by decide, by decide⟩
  have free : ¬ (escape :: tail) <:+: rowsText newline blank token dump.rows := by
    intro inside
    exact escape_not_mem_rowsText dump.rows (inside.subset List.mem_cons_self)
  have split : untilStop dumpEnding (newline :: (more ++ dumpEnding ++ rest)) =
      some (rowsText newline blank token dump.rows, rest) := by
    have found := untilStop_append unbordered free rest
    rw [← ends, starts] at found
    rw [starts]
    exact found
  have read := token_legible.readRows dump.filled.2
  simp only [parts, readBody, taken, left, split, read, Option.bind_eq_bind, Option.bind_some]
  exact dif_pos dump.filled

theorem readDump_printed {dump : Dump} (plain : newline ∉ dump.str) (rest : List UInt8) :
    readDump (dump.printed ++ rest) = some (.data dump, rest) := by
  have number : bracket ∉ digits dump.line := by
    intro member
    exact absurd (digit_of_mem_digits member).2 (by decide)
  let body := dump.str ++ rowsText newline blank token dump.rows ++ dumpEnding ++ rest
  obtain ⟨taken, left⟩ := takeWhile_until (ascii ":" ++ body) number
  have parts : dump.printed ++ rest = dumpOpening ++ (dump.file.bytes ++ bracket :: (ascii "[" ++
      (dump.function.bytes ++ bracket :: (ascii "[" ++ (digits dump.line ++ bracket ::
        (ascii ":" ++ body)))))) := by
    simp only [Dump.printed, Dump.header, List.append_assoc, body]
    rfl
  have between (rest : List UInt8) :
      (bracket :: (ascii "[" ++ rest)).dropPrefix? (ascii "][") = some rest :=
    dropPrefix_self (ascii "][") rest
  have behind (rest : List UInt8) :
      (bracket :: (ascii ":" ++ rest)).dropPrefix? (ascii "]:") = some rest :=
    dropPrefix_self (ascii "]:") rest
  simp only [parts, readDump, dropPrefix_self, readName_field, between, behind, taken, left,
    digitsValue_digits, Option.bind_eq_bind, Option.bind_some]
  exact readBody_printed plain rest

theorem readRecord_printed {record : Record} (plain : record.Plain) (rest : List UInt8) :
    readRecord (record.printed ++ rest) = some (record, rest) := by
  cases record with
  | line message =>
    rw [readRecord, Record.printed, readDump_line, Option.none_or]
    exact readMessage_printed plain rest
  | data dump =>
    rw [readRecord, Record.printed, readDump_printed plain, Option.some_or]

theorem readBody_plain {file function : Name} {line : Nat} {bytes rest : List UInt8}
    {record : Record} (found : readBody file function line bytes = some (record, rest)) :
    record.Plain := by
  obtain ⟨⟨body, after⟩, -, found⟩ := Option.bind_eq_some_iff.mp found
  obtain ⟨rows, -, found⟩ := Option.bind_eq_some_iff.mp found
  split_ifs at found
  cases found
  intro member
  simpa using List.mem_takeWhile_imp member

theorem readDump_plain {bytes rest : List UInt8} {record : Record}
    (found : readDump bytes = some (record, rest)) : record.Plain := by
  simp only [readDump, Option.bind_eq_bind, Option.bind_eq_some_iff] at found
  obtain ⟨_, -, _, -, _, -, _, -, _, -, _, -, found⟩ := found
  exact readBody_plain found

theorem readMessage_plain {bytes rest : List UInt8} {record : Record}
    (found : readMessage bytes = some (record, rest)) : record.Plain := by
  obtain ⟨⟨line, after⟩, split, found⟩ := Option.bind_eq_some_iff.mp found
  obtain ⟨message, read, same⟩ := Option.bind_eq_some_iff.mp found
  cases same
  have free := (untilStop_spec split).2
  exact fun ends => free (ends.trans (readLine_suffix read).isInfix)

theorem readRecord_plain {bytes rest : List UInt8} {record : Record}
    (found : readRecord bytes = some (record, rest)) : record.Plain := by
  rcases Option.or_eq_some_iff.mp found with dump | ⟨-, line⟩
  · exact readDump_plain dump
  · exact readMessage_plain line

theorem record_printed_ne_nil (record : Record) : record.printed ≠ [] := by
  cases record <;> simp [Record.printed, Message.printed, Dump.printed, ending, dumpEnding]

-- A dump that comes to its loop takes remainders by split.
def Statement.Splits (build : Build) : Statement build.wdmSourceRootLength → Prop
  | .line _ => True
  | .data call =>
    build.level ≥ logLevelTrace → call.data ≠ none → 0 < call.size → call.split ≠ 0

theorem statement_completes_iff (build : Build) (statement : Statement build.wdmSourceRootLength) :
    (statement.run build).Completes ↔ statement.Splits build := by
  cases statement with
  | line message =>
    simp only [Statement.run, Statement.Splits, iff_true]
    split_ifs <;> rfl
  | data call =>
    by_cases level : build.level ≥ logLevelTrace
    · rw [data_run level]
      constructor
      · intro completes _ present positive
        have admitted : call.call.Admitted :=
          { present := present, positive := positive }
        have dumps : call.call.Dumps := ⟨admitted, completes⟩
        exact dumps.nonzero
      · intro splits
        by_cases admitted : call.call.Admitted
        · exact (admitted.dumps (splits level admitted.present admitted.positive)).completes
        · rw [Call.unadmitted admitted]
          rfl
    · rw [data_run_below level]
      exact ⟨fun _ shown => absurd shown level, fun _ => rfl⟩

theorem logRun_completes_iff (build : Build) (statements : List (Statement build.wdmSourceRootLength)) :
    (logRun build statements).Completes ↔
      ∀ statement, statement ∈ statements → statement.Splits build := by
  induction statements with
  | nil => simp [logRun, Run.Completes]
  | cons statement rest ih =>
    rw [List.forall_mem_cons, ← statement_completes_iff, ← ih]
    constructor
    · intro completes
      obtain ⟨value, first, later, -⟩ := Run.Completes.bind completes
      exact ⟨by rw [Run.Completes, first]; rfl, later⟩
    · rintro ⟨first, later⟩
      exact Run.completes_bind first later

/-- The statements come to their end exactly where no dump splits at zero, and the log that they
print then reads back as the lines and dumps that are shown exactly where each of these is plain. -/
theorem log_file_reads_back_iff (build : Build) (statements : List (Statement build.wdmSourceRootLength)) :
    ((logRun build statements).Completes ↔
        ∀ statement, statement ∈ statements → statement.Splits build) ∧
      ((logRun build statements).Completes →
        (readLogFile (printed (logRun build statements)) =
            some (statements.filterMap (Statement.shown build)) ↔
          ∀ record, record ∈ statements.filterMap (Statement.shown build) → record.Plain)) := by
  refine ⟨logRun_completes_iff build statements, fun completes => ?_⟩
  rw [logRun_printed build completes]
  exact records_flatMap_iff record_printed_ne_nil (fun _ _ _ => readRecord_plain)
    (fun _ plain rest => readRecord_printed plain rest) _

end LogFile
