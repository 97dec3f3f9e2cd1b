import LinuxTutorial.Log.LogData
import LinuxTutorial.Shared.Delimited
import LinuxTutorial.Shared.Rows

set_option autoImplicit false

namespace LogLine

open CText Delimited LogData

inductive Level where
  | trace
  | debug
  | info
  | warn
  | error
  | fatal
  deriving DecidableEq

-- LOG_LEVEL_TRACE to LOG_LEVEL_FATAL
def Level.number : Level → Int
  | .trace => 5
  | .debug => 4
  | .info => 3
  | .warn => 2
  | .error => 1
  | .fatal => 0

-- LOG_COLOR_TRACE to LOG_COLOR_FATAL
def Level.color : Level → List UInt8
  | .trace => ascii "\x1b[32m"
  | .debug => ascii "\x1b[36m"
  | .info => ascii "\x1b[37m"
  | .warn => ascii "\x1b[33m"
  | .error => ascii "\x1b[31m"
  | .fatal => ascii "\x1b[1m\x1b[31m"

def Level.tag : Level → List UInt8
  | .trace => ascii "TRACE"
  | .debug => ascii "DEBUG"
  | .info => ascii "INFO "
  | .warn => ascii "WARN "
  | .error => ascii "ERROR"
  | .fatal => ascii "FATAL"

def bracket : UInt8 := 93

/-- The name of a source file or of a function: on one line, without a closing bracket. -/
structure Name where
  bytes : List UInt8
  plain : newline ∉ bytes ∧ bracket ∉ bytes
  deriving DecidableEq

-- &__FILE__[WDM_SOURCE_ROOT_LENGTH]
def Name.drop (name : Name) (count : Nat) (_inside : count ≤ name.bytes.length) : Name where
  bytes := name.bytes.drop count
  plain := ⟨fun member => name.plain.1 (List.mem_of_mem_drop member),
    fun member => name.plain.2 (List.mem_of_mem_drop member)⟩

structure Message where
  level : Level
  file : Name
  function : Name
  line : Nat
  text : List UInt8
  deriving DecidableEq

def Level.opening (level : Level) : List UInt8 :=
  level.color ++ ascii "[" ++ level.tag ++ ascii "]["

-- LOG_COLOR"[TAG][%s][%s][%d]:"
def Message.header (message : Message) : List UInt8 :=
  message.level.opening ++ message.file.bytes ++ ascii "][" ++ message.function.bytes ++
    ascii "][" ++ decimal message.line ++ ascii "]:"

-- "\n"RESET
def ending : List UInt8 := newline :: reset

def Message.printed (message : Message) : List UInt8 := message.header ++ message.text ++ ending

/-- A call of a macro: the name of its file has the bytes that are left out. -/
structure LineCall (root : Nat) extends Message where
  rooted : root ≤ file.bytes.length

section Log

variable {root : Nat}

def LineCall.relative (call : LineCall root) : Message :=
  { call.toMessage with file := call.file.drop root call.rooted }

def logMacro (limit : Int) (call : LineCall root) : List UInt8 :=
  if limit ≥ call.level.number then call.relative.printed else []

def log (limit : Int) (calls : List (LineCall root)) : List UInt8 := calls.flatMap (logMacro limit)

-- The calls that the preprocessor leaves in the program.
def shown (limit : Int) (calls : List (LineCall root)) : List Message :=
  (calls.filter fun call => limit ≥ call.level.number).map LineCall.relative

end Log

def levels : List Level := [.trace, .debug, .info, .warn, .error, .fatal]

def readLevel (bytes : List UInt8) : Option (Level × List UInt8) :=
  levels.findSome? fun level => (bytes.dropPrefix? level.opening).map fun rest => (level, rest)

def readName (bytes : List UInt8) : Option (Name × List UInt8) :=
  let name := bytes.takeWhile (· ≠ bracket)
  if plain : newline ∉ name ∧ bracket ∉ name then
    some (⟨name, plain⟩, bytes.dropWhile (· ≠ bracket))
  else none

def readLine (bytes : List UInt8) : Option Message := do
  let (level, rest) ← readLevel bytes
  let (file, rest) ← readName rest
  let rest ← rest.dropPrefix? (ascii "][")
  let (function, rest) ← readName rest
  let rest ← rest.dropPrefix? (ascii "][")
  let line := digitsValue (rest.takeWhile (· ≠ bracket))
  let text ← (rest.dropWhile (· ≠ bracket)).dropPrefix? (ascii "]:")
  some { level := level, file := file, function := function, line := line, text := text }

def readLog (bytes : List UInt8) : Option (List Message) := do
  let lines ← pieces ending bytes
  lines.mapM readLine

theorem dropPrefix_opening (level other : Level) (rest : List UInt8) :
    (level.opening ++ rest).dropPrefix? other.opening =
      if level = other then some rest else none := by
  by_cases same : level = other
  · rw [if_pos same, same, dropPrefix_self]
  · rw [if_neg same]
    cases level <;> cases other <;> first | rfl | exact absurd rfl same

theorem readLevel_opening (level : Level) (rest : List UInt8) :
    readLevel (level.opening ++ rest) = some (level, rest) := by
  simp only [readLevel, levels, dropPrefix_opening, List.findSome?_cons]
  cases level <;> rfl

theorem readName_field (name : Name) (rest : List UInt8) :
    readName (name.bytes ++ bracket :: rest) = some (name, bracket :: rest) := by
  obtain ⟨taken, left⟩ := takeWhile_until rest name.plain.2
  simp only [readName, taken, left, name.plain, not_false_eq_true, and_self, dite_true]

theorem decimal_natCast (value : Nat) : decimal (value : Int) = digits value := by
  simp [decimal, show ¬ (value : Int) < 0 by omega]

theorem readLine_header (message : Message) :
    readLine (message.header ++ message.text) = some message := by
  have plain : bracket ∉ digits message.line := by
    intro member
    exact absurd (digit_of_mem_digits member).2 (by decide)
  obtain ⟨taken, left⟩ := takeWhile_until (ascii ":" ++ message.text) plain
  have parts : message.header ++ message.text = message.level.opening ++
      (message.file.bytes ++ bracket :: (ascii "[" ++ (message.function.bytes ++ bracket ::
        (ascii "[" ++ (digits message.line ++ bracket :: (ascii ":" ++ message.text)))))) := by
    simp only [Message.header, decimal_natCast, List.append_assoc]
    rfl
  have between (rest : List UInt8) :
      (bracket :: (ascii "[" ++ rest)).dropPrefix? (ascii "][") = some rest :=
    dropPrefix_self (ascii "][") rest
  have behind (rest : List UInt8) :
      (bracket :: (ascii ":" ++ rest)).dropPrefix? (ascii "]:") = some rest :=
    dropPrefix_self (ascii "]:") rest
  simp only [parts, readLine, readLevel_opening, readName_field, between, behind, taken, left,
    digitsValue_digits, Option.bind_eq_bind, Option.bind_some]

theorem newline_not_mem_header (message : Message) : newline ∉ message.header := by
  have opening (level : Level) : newline ∉ level.opening := by cases level <;> decide
  have number : newline ∉ digits message.line := by
    intro member
    exact absurd (digit_of_mem_digits member).1 (by decide)
  have between : newline ∉ ascii "][" := by decide
  have behind : newline ∉ ascii "]:" := by decide
  simp only [Message.header, decimal_natCast, List.mem_append, not_or]
  exact ⟨⟨⟨⟨⟨⟨opening message.level, message.file.plain.1⟩, between⟩, message.function.plain.1⟩,
    between⟩, number⟩, behind⟩

theorem ending_infix_iff (message : Message) :
    ending <:+: message.header ++ message.text ↔ ending <:+: message.text := by
  constructor
  · exact infix_append (newline_not_mem_header message)
  · intro inside
    exact inside.trans (List.suffix_append _ _).isInfix

theorem readName_suffix {bytes rest : List UInt8} {name : Name}
    (found : readName bytes = some (name, rest)) : rest <:+ bytes := by
  simp only [readName] at found
  split_ifs at found
  cases found
  exact List.dropWhile_suffix _

theorem dropPrefix_suffix {bytes front rest : List UInt8}
    (dropped : bytes.dropPrefix? front = some rest) : rest <:+ bytes :=
  ⟨front, (eq_append_of_dropPrefix dropped).symm⟩

theorem readLevel_suffix {bytes rest : List UInt8} {level : Level}
    (found : readLevel bytes = some (level, rest)) : rest <:+ bytes := by
  obtain ⟨other, -, found⟩ := List.exists_of_findSome?_eq_some found
  obtain ⟨later, dropped, same⟩ := Option.map_eq_some_iff.mp found
  cases same
  exact dropPrefix_suffix dropped

theorem readLine_suffix {bytes : List UInt8} {message : Message}
    (found : readLine bytes = some message) : message.text <:+ bytes := by
  simp only [readLine, Option.bind_eq_bind, Option.bind_eq_some_iff] at found
  obtain ⟨⟨level, first⟩, opened, ⟨file, second⟩, named, third, between, ⟨function, fourth⟩,
    called, fifth, again, text, behind, same⟩ := found
  cases same
  have number : fifth.dropWhile (· ≠ bracket) <:+ fifth := List.dropWhile_suffix _
  exact (dropPrefix_suffix behind).trans (number.trans ((dropPrefix_suffix again).trans
    ((readName_suffix called).trans ((dropPrefix_suffix between).trans
      ((readName_suffix named).trans (readLevel_suffix opened))))))

theorem log_eq (limit : Int) {root : Nat} (calls : List (LineCall root)) :
    log limit calls = (shown limit calls).flatMap Message.printed := by
  induction calls with
  | nil => rfl
  | cons call calls ih =>
    simp only [log, shown] at ih
    by_cases admitted : limit ≥ call.level.number
    · simp [log, shown, logMacro, admitted, ih]
    · simp [log, shown, logMacro, admitted, ih]

theorem mem_of_mapM {α β : Type} {read : α → Option β} {items : List α} {values : List β}
    (found : items.mapM read = some values) :
    ∀ value, value ∈ values → ∃ item, item ∈ items ∧ read item = some value := by
  induction items generalizing values with
  | nil =>
    cases found
    simp
  | cons item items ih =>
    rw [List.mapM_cons] at found
    obtain ⟨first, here, found⟩ := Option.bind_eq_some_iff.mp found
    obtain ⟨rest, there, same⟩ := Option.bind_eq_some_iff.mp found
    cases same
    intro value member
    rcases List.mem_cons.mp member with rfl | member
    · exact ⟨item, List.mem_cons_self, here⟩
    · obtain ⟨other, inside, found⟩ := ih there value member
      exact ⟨other, List.mem_cons_of_mem _ inside, found⟩

/-- A log reads back as its messages exactly where no text contains the end of a line. -/
theorem readLog_iff (messages : List Message) :
    readLog (messages.flatMap Message.printed) = some messages ↔
      ∀ message, message ∈ messages → ¬ ending <:+: message.text := by
  have unbordered : newline ∉ reset := by decide
  have lines : messages.flatMap Message.printed =
      (messages.map fun message => message.header ++ message.text).flatMap (· ++ ending) := by
    rw [List.flatMap_map]
    rfl
  rw [lines]
  constructor
  · intro found message member
    obtain ⟨lines, split, found⟩ := Option.bind_eq_some_iff.mp found
    obtain ⟨line, inside, read⟩ := mem_of_mapM found message member
    have free := piecesWithin_free split line inside
    exact fun ends => free (ends.trans (readLine_suffix read).isInfix)
  · intro free
    have split := (pieces_flatMap_iff unbordered
      (messages.map fun message => message.header ++ message.text)).mpr (by
        simp only [List.mem_map, forall_exists_index, and_imp, forall_apply_eq_imp_iff₂]
        intro message member
        exact fun inside => free message member ((ending_infix_iff message).mp inside))
    rw [readLog, show ending = newline :: reset from rfl, split]
    exact Rows.mapM_map messages fun message _ => readLine_header message

theorem log_reads_back_iff (limit : Int) (root : Nat) (calls : List (LineCall root)) :
    readLog (log limit calls) = some (shown limit calls) ↔
      ∀ call, call ∈ calls → limit ≥ call.level.number → ¬ ending <:+: call.text := by
  rw [log_eq, readLog_iff]
  simp only [shown, List.forall_mem_map, List.mem_filter, decide_eq_true_eq, and_imp]
  rfl

def Message.forging (message : Message) (others : List Message) : Message :=
  let lines := others.flatMap Message.printed
  { message with text := message.text ++ ending ++ lines.take (lines.length - ending.length) }

theorem forging_printed (message : Message) {others : List Message} (more : others ≠ []) :
    (message.forging others).printed = (message :: others).flatMap Message.printed := by
  obtain ⟨front, last, rfl⟩ : ∃ front last, others = front ++ [last] :=
    ⟨others.dropLast, others.getLast more, (List.dropLast_concat_getLast more).symm⟩
  let before := front.flatMap Message.printed ++ (last.header ++ last.text)
  have lines : (front ++ [last]).flatMap Message.printed = before ++ ending := by
    simp [before, Message.printed]
  have header : (message.forging (front ++ [last])).header = message.header := rfl
  have text : (message.forging (front ++ [last])).text = message.text ++ ending ++ before := by
    simp [Message.forging, lines]
  rw [List.flatMap_cons, lines, Message.printed, header, text, Message.printed]
  simp only [List.append_assoc]

theorem forged_reads_back (message : Message) {others before after : List Message}
    (more : others ≠ [])
    (free : ∀ each, each ∈ before ++ message :: others ++ after → ¬ ending <:+: each.text) :
    readLog ((before ++ message.forging others :: after).flatMap Message.printed) =
      some (before ++ message :: others ++ after) := by
  have same : (before ++ message.forging others :: after).flatMap Message.printed =
      (before ++ message :: others ++ after).flatMap Message.printed := by
    simp only [List.flatMap_append, List.flatMap_cons, forging_printed message more,
      List.append_assoc]
  rw [same, readLog_iff]
  exact free

end LogLine
