import LinuxTutorial.Shared.CText
import LinuxTutorial.Shared.HexText
import LinuxTutorial.Shared.IntLoop

set_option autoImplicit false

/-!
Events are what is printed, the indices at which data is read, the remainders that are
evaluated and the increments of the loop counter.
-/

namespace LogData

open CText HexText IntLoop

inductive Event where
  | print (text : List UInt8)
  | remainder (dividend divisor : Int32)
  | read (index : Int32)
  | increment (value : Int32)
  deriving DecidableEq

def printf (text : List UInt8) : Run Event Unit := perform (.print text) (some ())

def remainder (dividend divisor : Int32) : Run Event Int32 :=
  perform (.remainder dividend divisor) (rem dividend divisor)

-- ((uint8_t *) data)[index] of data that points to these bytes.
def readData (data : List UInt8) (index : Int32) : Run Event UInt8 :=
  perform (.read index) (if index < 0 then none else data[index.toNatClampNeg]?)

def logColorTrace : List UInt8 := ascii "\x1b[32m"

def reset : List UInt8 := ascii "\x1b[0m"

def newline : UInt8 := 10

def blank : UInt8 := 32

-- "[FATAL][%s][%s][%d]:%s"
def header (file function : List UInt8) (line : Int32) (str : List UInt8) : List UInt8 :=
  logColorTrace ++ ascii "[FATAL][" ++ file ++ ascii "][" ++ function ++ ascii "][" ++
    decimal line.toInt ++ ascii "]:" ++ str

def byteText (c : UInt8) : List UInt8 := hex02 c.toNat ++ [blank]

def dumpByte (data : List UInt8) (split i : Int32) : Run Event Unit := do
  let column ← remainder i split
  if column = 0 then printf [newline]
  let c ← readData data i
  printf (byteText c)

def clampMax (size max : Int32) : Int32 := if max > size ∨ max ≤ 0 then size else max

-- `none` stands for NULL.
def wdmLogData (file function : List UInt8) (line : Int32) (str : List UInt8)
    (data : Option (List UInt8)) (size max split : Int32) : Run Event Unit :=
  match data with
  | none => pure ()
  | some data =>
    if size ≤ 0 then pure ()
    else do
      printf (header file function line str)
      forLoop .increment (clampMax size max) (dumpByte data split) 0
      printf (reset ++ [newline])

def logLevelTrace : Int := 5

def logLevelInfo : Int := 3

-- LOG_LEVEL, by WDM_LOG_LEVEL where it is defined and else by WDM_DEBUG.
def logLevel (wdmLogLevel : Option Int) (wdmDebug : Bool) : Int :=
  wdmLogLevel.getD (if wdmDebug then logLevelTrace else logLevelInfo)

def logData (wdmLogLevel : Option Int) (wdmDebug : Bool) (wdmSourceRootLength : Nat)
    (file function : List UInt8) (line : Int32) (str : List UInt8) (data : Option (List UInt8))
    (size max split : Int32) : Run Event Unit :=
  if logLevel wdmLogLevel wdmDebug ≥ logLevelTrace then
    wdmLogData (file.drop wdmSourceRootLength) function line str data size max split
  else pure ()

/-- The arguments of a call; data that is not NULL points to size bytes. -/
structure Call where
  file : List UInt8
  function : List UInt8
  line : Int32
  str : List UInt8
  data : Option (List UInt8)
  size : Int32
  max : Int32
  split : Int32
  points : ∀ bytes, data = some bytes → 0 < size → (bytes.length : Int) = size.toInt

def Call.run (call : Call) : Run Event Unit :=
  wdmLogData call.file call.function call.line call.str call.data call.size call.max call.split

def Call.header (call : Call) : List UInt8 :=
  LogData.header call.file call.function call.line call.str

def turn (data : List UInt8) (split : Int32) (index : Nat) : List Event :=
  .remainder (.ofNat index) split ::
    ((if split.toInt.natAbs ∣ index then [.print [newline]] else []) ++
      [.read (.ofNat index), .print (byteText (data.getD index 0))])

theorem clampMax_le {size max : Int32} : (clampMax size max).toInt ≤ size.toInt := by
  unfold clampMax
  split_ifs with outside
  · exact Int.le_refl _
  · simp only [gt_iff_lt, not_or, Int32.not_lt, Int32.le_iff_toInt_le] at outside
    exact outside.1

theorem clampMax_pos {size max : Int32} (positive : 0 < size) : 0 < clampMax size max := by
  unfold clampMax
  split_ifs with outside
  · exact positive
  · simp only [not_or, Int32.not_le] at outside
    exact outside.2

theorem clampMax_toInt (size max : Int32) :
    (clampMax size max).toInt = if max ≤ 0 then size.toInt else min max.toInt size.toInt := by
  by_cases low : max ≤ 0
  · simp [clampMax, low]
  · by_cases high : max > size
    · have bound := Int32.lt_iff_toInt_lt.mp high
      simp only [clampMax, high, true_or, if_true, low, if_false]
      omega
    · have bound := Int32.le_iff_toInt_le.mp (Int32.not_lt.mp high)
      simp only [clampMax, high, low, or_self, if_false]
      omega

theorem readData_ofNat {data : List UInt8} {index : Nat} {bound : Int32}
    (inside : (index : Int) < bound.toInt) (present : index < data.length) :
    readData data (.ofNat index) =
      { events := [.read (.ofNat index)], value := some (data.getD index 0) } := by
  have value := toInt_ofNat inside
  have unsigned : ¬ Int32.ofNat index < 0 := by
    rw [Int32.lt_iff_toInt_lt, value, Int32.toInt_zero]
    omega
  have position : (Int32.ofNat index).toNatClampNeg = index := by
    rw [← Int32.toNat_toInt, value, Int.toNat_natCast]
  rw [readData, if_neg unsigned, position, perform, List.getD_eq_getElem?_getD,
    List.getElem?_eq_getElem present, Option.getD_some]

theorem dumpByte_turn {data : List UInt8} {split bound : Int32} {index : Nat}
    (inside : (index : Int) < bound.toInt) (present : index < data.length)
    (nonzero : split ≠ 0) :
    dumpByte data split (.ofNat index) = { events := turn data split index, value := some () } := by
  have column : Int32.ofNat index % split = 0 ↔ split.toInt.natAbs ∣ index :=
    mod_ofNat_eq_zero inside
  unfold dumpByte
  rw [remainder, perform, rem_ofNat inside nonzero, readData_ofNat inside present]
  by_cases first : split.toInt.natAbs ∣ index
  · simp [turn, first, column.mpr first, printf, perform]
  · simp [turn, first, column, printf, perform]

theorem dumpByte_zero {split : Int32} (zero : split = 0) (data : List UInt8) (i : Int32) :
    dumpByte data split i = { events := [.remainder i 0], value := none } := by
  simp [dumpByte, remainder, perform, rem, zero]

def Call.bytes (call : Call) : List UInt8 := call.data.getD []

structure Call.Admitted (call : Call) : Prop where
  present : call.data ≠ none
  positive : 0 < call.size

def Call.count (call : Call) : Nat := (clampMax call.size call.max).toNatClampNeg

theorem Call.unadmitted {call : Call} (unadmitted : ¬ call.Admitted) :
    call.run = { events := [], value := some () } := by
  unfold Call.run
  cases data : call.data with
  | none => rfl
  | some bytes =>
    have empty : call.size ≤ 0 := by
      rw [← Int32.not_lt]
      intro positive
      exact unadmitted ⟨by simp [data], positive⟩
    rw [wdmLogData, if_pos empty, pure_eq]

theorem Call.Admitted.run {call : Call} (admitted : call.Admitted) :
    call.run =
      printf call.header >>= fun _ =>
        forLoop .increment (clampMax call.size call.max) (dumpByte call.bytes call.split) 0 >>=
          fun _ => printf (reset ++ [newline]) := by
  obtain ⟨bytes, data⟩ := Option.ne_none_iff_exists'.mp admitted.present
  have nonempty : ¬ call.size ≤ 0 := by
    rw [Int32.not_le]
    exact admitted.positive
  rw [Call.run, data, wdmLogData, if_neg nonempty, Call.bytes, data]
  rfl

theorem Call.Admitted.count_eq {call : Call} (admitted : call.Admitted) :
    (call.count : Int) = (clampMax call.size call.max).toInt := by
  have positive := @clampMax_pos call.size call.max admitted.positive
  apply Int32.cast_toNatClampNeg
  rw [Int32.le_iff_toInt_le]
  exact Int.le_of_lt (Int32.lt_iff_toInt_lt.mp positive)

theorem Call.Admitted.count_pos {call : Call} (admitted : call.Admitted) : 0 < call.count := by
  rw [Call.count, Int32.toNatClampNeg_pos_iff]
  exact clampMax_pos admitted.positive

theorem Call.Admitted.length_bytes {call : Call} (admitted : call.Admitted) :
    (call.bytes.length : Int) = call.size.toInt := by
  obtain ⟨bytes, data⟩ := Option.ne_none_iff_exists'.mp admitted.present
  rw [Call.bytes, data]
  exact call.points bytes data admitted.positive

theorem Call.Admitted.count_le {call : Call} (admitted : call.Admitted) :
    call.count ≤ call.bytes.length := by
  have bound := @clampMax_le call.size call.max
  rw [← admitted.count_eq, ← admitted.length_bytes] at bound
  exact_mod_cast bound

theorem Call.Admitted.run_completes {call : Call} (admitted : call.Admitted)
    (nonzero : call.split ≠ 0) :
    call.run =
      { events := .print call.header ::
          ((List.range call.count).flatMap fun index =>
            turn call.bytes call.split index ++ [.increment (.ofNat index)]) ++
          [.print (reset ++ [newline])]
        value := some () } := by
  have whole := admitted.count_eq
  have short := admitted.count_le
  have turns (index : Nat) (inside : index < call.count) :
      dumpByte call.bytes call.split (.ofNat index) =
        { events := turn call.bytes call.split index, value := some () } := by
    have below : (index : Int) < (clampMax call.size call.max).toInt := by omega
    exact dumpByte_turn below (by omega) nonzero
  rw [admitted.run, forLoop_whole whole turns]
  simp [printf, perform]

theorem Call.Admitted.run_stops {call : Call} (admitted : call.Admitted)
    (zero : call.split = 0) :
    call.run = { events := [.print call.header, .remainder 0 0], value := none } := by
  have loop := @forLoop_stops Event .increment (clampMax call.size call.max)
    (dumpByte call.bytes call.split) 0 _ (clampMax_pos admitted.positive)
    (dumpByte_zero zero call.bytes 0)
  rw [admitted.run, loop]
  simp [printf, perform]

end LogData
