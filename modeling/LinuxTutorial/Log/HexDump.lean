import LinuxTutorial.Log.LogData
import LinuxTutorial.Shared.Rows

set_option autoImplicit false

namespace LogData

open CText HexText IntLoop Rows

def Event.text : Event → List UInt8
  | .print text => text
  | _ => []

def Call.printed (call : Call) : List UInt8 := call.run.events.flatMap Event.text

def Call.dump (call : Call) : List UInt8 := call.printed.drop call.header.length

-- max where it is between 1 and size, and size otherwise.
def Call.dumped (call : Call) : Nat :=
  if 1 ≤ call.max ∧ call.max ≤ call.size then call.max.toNatClampNeg
  else call.size.toNatClampNeg

def decodeDump (text : List UInt8) : Option (List (List UInt8)) :=
  readRows newline blank hexToken (shown text)

def token (c : UInt8) : List UInt8 := hex02 c.toNat

def dumpText (split : Int32) (bytes : List UInt8) : List UInt8 :=
  rowsText newline blank token (layOut split.toInt.natAbs bytes) ++ (reset ++ [newline])

theorem token_legible : Legible newline blank token hexToken where
  different := by decide
  nonempty byte := by simp [token, hex02_byte]
  noNewline byte member := absurd (hex02_printable member) (by decide)
  noBlank byte member := absurd (hex02_printable member) (by decide)
  exactly := hexToken_hex02

theorem escape_not_mem_rowsText (rows : List (List UInt8)) :
    escape ∉ rowsText newline blank token rows := by
  have noEscape (byte : UInt8) : escape ∉ token byte :=
    fun member => absurd (hex02_printable member) (by decide)
  have separators : escape ≠ newline ∧ escape ≠ blank := by decide
  simp [rowsText, rowText, noEscape, separators]

theorem width_pos {split : Int32} (nonzero : split ≠ 0) : 0 < split.toInt.natAbs := by
  apply Int.natAbs_pos.mpr
  rw [← Int32.toInt_zero]
  exact fun same => nonzero (Int32.toInt_inj.mp same)

theorem decode_dumpText {split : Int32} (nonzero : split ≠ 0) (bytes : List UInt8) :
    decodeDump (dumpText split bytes) = some (layOut split.toInt.natAbs bytes) := by
  have width := width_pos nonzero
  have shape := shaped_layOut width bytes
  have ending : shown (reset ++ [newline]) = [newline] := by decide
  rw [decodeDump, dumpText, shown_append _ (escape_not_mem_rowsText _), ending]
  exact token_legible.readRows fun row member => shape.ne_nil width member

theorem dumpText_inj {split : Int32} (nonzero : split ≠ 0) {first second : List UInt8} :
    dumpText split first = dumpText split second ↔ first = second := by
  constructor
  · intro same
    have rows := decode_dumpText nonzero first
    rw [same, decode_dumpText nonzero second, Option.some.injEq] at rows
    rw [← flatten_layOut split.toInt.natAbs first, ← rows, flatten_layOut]
  · intro same
    rw [same]

example : dumpText (-2) [1, 35, 69, 103, 137] =
    ascii "\n01 23 \n45 67 \n89 \x1b[0m\n" := by decide

-- By the turns: each goes on with the rows that the turns before it have printed.
theorem loopText_eq (split : Int32) (data : List UInt8) {count : Nat}
    (inside : count ≤ data.length) :
    ((List.range count).flatMap fun index =>
        (turn data split index ++ [Event.increment (.ofNat index)]).flatMap Event.text) =
      rowsText newline blank token (layOut split.toInt.natAbs (data.take count)) := by
  induction count with
  | zero => rfl
  | succ count ih =>
    have present : count < data.length := inside
    have one : data.take (count + 1) = data.take count ++ [data.getD count 0] := by
      rw [List.take_succ_eq_append_getElem present, List.getD_eq_getElem?_getD,
        List.getElem?_eq_getElem present, Option.getD_some]
    have done : (data.take count).length = count := List.length_take_of_le (by omega)
    have before := ih (by omega)
    rw [List.range_succ, List.flatMap_append, before, one, layOut_append, rowsText_place,
      flatten_layOut, done]
    split_ifs with first <;> simp [turn, first, Event.text, byteText, token]

/-- A call that both guards let through and that comes to its end. -/
structure Call.Dumps (call : Call) : Prop extends call.Admitted where
  completes : call.run.Completes

theorem Call.Dumps.nonzero {call : Call} (dumps : call.Dumps) : call.split ≠ 0 := by
  intro zero
  have completes := dumps.completes
  rw [dumps.run_stops zero] at completes
  cases completes

theorem Call.Admitted.dumps {call : Call} (admitted : call.Admitted) (nonzero : call.split ≠ 0) :
    call.Dumps where
  toAdmitted := admitted
  completes := by
    rw [admitted.run_completes nonzero]
    rfl

theorem Call.Admitted.dumped_eq {call : Call} (admitted : call.Admitted) :
    call.dumped = call.count := by
  have positive := Int32.lt_iff_toInt_lt.mp admitted.positive
  have count : call.count = (clampMax call.size call.max).toInt.toNat := rfl
  rw [Call.dumped, count, clampMax_toInt]
  simp only [Int32.le_iff_toInt_le, Int32.toInt_one, Int32.toInt_zero, ← Int32.toNat_toInt]
    at positive ⊢
  split_ifs <;> omega

theorem Call.Admitted.length_dumped {call : Call} (admitted : call.Admitted) :
    (call.bytes.take call.dumped).length = call.dumped := by
  apply List.length_take_of_le
  rw [admitted.dumped_eq]
  exact admitted.count_le

theorem Call.Dumps.printed_eq {call : Call} (dumps : call.Dumps) :
    call.printed = call.header ++ dumpText call.split (call.bytes.take call.dumped) := by
  have loop := loopText_eq call.split call.bytes dumps.count_le
  rw [Call.printed, dumps.run_completes dumps.nonzero, List.cons_append, List.flatMap_cons,
    List.flatMap_append, List.flatMap_assoc, loop, ← dumps.dumped_eq]
  simp [Event.text, dumpText]

theorem Call.Dumps.dump_eq {call : Call} (dumps : call.Dumps) :
    call.dump = dumpText call.split (call.bytes.take call.dumped) := by
  rw [Call.dump, dumps.printed_eq, List.drop_left]

theorem dump_decodes (call : Call) (dumps : call.Dumps) :
    call.printed = call.header ++ call.dump ∧
    (∃ rows, decodeDump call.dump = some rows ∧ rows.flatten = call.bytes.take call.dumped ∧
      rows ≠ [] ∧ Shaped call.split.toInt.natAbs rows) ∧
    ∀ other : Call, other.Dumps → other.dumped = call.dumped → other.split = call.split →
      (call.dump = other.dump ↔
        call.bytes.take call.dumped = other.bytes.take other.dumped) := by
  have nonzero := dumps.nonzero
  have rows := flatten_layOut call.split.toInt.natAbs (call.bytes.take call.dumped)
  refine ⟨?_, ⟨layOut call.split.toInt.natAbs (call.bytes.take call.dumped), ?_, rows, ?_, ?_⟩, ?_⟩
  · rw [dumps.dump_eq, ← dumps.printed_eq]
  · rw [dumps.dump_eq, decode_dumpText nonzero]
  · intro none
    have length := dumps.length_dumped
    have positive := dumps.count_pos
    rw [← rows, none, List.flatten_nil, List.length_nil, dumps.dumped_eq] at length
    omega
  · exact shaped_layOut (width_pos nonzero) _
  · intro other otherDumps _ split
    rw [dumps.dump_eq, otherDumps.dump_eq, split]
    exact dumpText_inj nonzero

def fiveOfSix : Call where
  file := ascii "main.c"
  function := ascii "main"
  line := 1
  str := ascii "data"
  data := some [1, 35, 69, 103, 137, 171]
  size := 6
  max := 5
  split := -2
  points bytes found _ := by
    cases found
    rfl

def fiveBytes : Call where
  file := ascii "main.c"
  function := ascii "send"
  line := 120
  str := ascii "packet"
  data := some [1, 35, 69, 103, 137]
  size := 5
  max := 0
  split := -2
  points bytes found _ := by
    cases found
    rfl

theorem dump_decodes_five :
    (∃ rows, decodeDump fiveOfSix.dump = some rows ∧ rows.flatten = [1, 35, 69, 103, 137] ∧
      Shaped 2 rows) ∧ fiveOfSix.dump = fiveBytes.dump := by
  have six : fiveOfSix.Admitted := { present := by simp [fiveOfSix], positive := by decide }
  have five : fiveBytes.Admitted := { present := by simp [fiveBytes], positive := by decide }
  obtain ⟨-, ⟨rows, decoded, whole, -, shaped⟩, same⟩ :=
    dump_decodes fiveOfSix (six.dumps (by decide))
  refine ⟨⟨rows, decoded, whole, shaped⟩, ?_⟩
  have count : fiveBytes.dumped = fiveOfSix.dumped := by decide
  have bytes : fiveOfSix.bytes.take fiveOfSix.dumped = fiveBytes.bytes.take fiveBytes.dumped := by
    decide
  exact (same fiveBytes (five.dumps (by decide)) count rfl).mpr bytes

end LogData
