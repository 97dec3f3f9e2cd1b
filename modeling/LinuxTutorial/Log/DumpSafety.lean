import LinuxTutorial.Log.LogData

set_option autoImplicit false

namespace LogData

open CText HexText IntLoop

def Event.Allowed (size : Int32) : Event → Prop
  | .print _ => True
  | .remainder _ divisor => divisor ≠ 0
  | .read index => 0 ≤ index ∧ index < size
  | .increment value => value < Int32.maxValue

def Event.isIncrement : Event → Bool
  | .increment _ => true
  | _ => false

structure Safe (size : Int32) (iterations : Nat) (run : Run Event Unit) : Prop where
  allowed : ∀ event, event ∈ run.events → event.Allowed size
  completes : run.Completes
  counted : run.events.countP Event.isIncrement = iterations

-- The lesser of max and size, and size where max is not positive; without data no loop is run.
def Call.iterations (call : Call) : Nat :=
  if call.data = none then 0
  else if call.max ≤ 0 then call.size.toNatClampNeg
  else min call.max.toNatClampNeg call.size.toNatClampNeg

theorem Call.iterations_unadmitted {call : Call} (unadmitted : ¬ call.Admitted) :
    call.iterations = 0 := by
  unfold Call.iterations
  split_ifs with absent low
  · rfl
  · have empty : call.size ≤ 0 := Int32.not_lt.mp fun positive => unadmitted ⟨absent, positive⟩
    exact Int32.toNatClampNeg_eq_zero_iff.mpr empty
  · have empty : call.size ≤ 0 := Int32.not_lt.mp fun positive => unadmitted ⟨absent, positive⟩
    rw [Int32.toNatClampNeg_eq_zero_iff.mpr empty, Nat.min_zero]

theorem Call.Admitted.iterations_eq {call : Call} (admitted : call.Admitted) :
    call.iterations = call.count := by
  have count : call.count = (clampMax call.size call.max).toInt.toNat := rfl
  rw [Call.iterations, if_neg admitted.present, count, clampMax_toInt]
  split_ifs with low
  · rfl
  · simp only [← Int32.toNat_toInt]
    omega

theorem turn_allowed {call : Call} (admitted : call.Admitted) (nonzero : call.split ≠ 0)
    {index : Nat} (inside : index < call.count) {event : Event}
    (member : event ∈ turn call.bytes call.split index ++ [.increment (.ofNat index)]) :
    event.Allowed call.size := by
  have below : (index : Int) < (clampMax call.size call.max).toInt := by
    rw [← admitted.count_eq]
    exact_mod_cast inside
  have value := toInt_ofNat below
  have upper := @clampMax_le call.size call.max
  have limit := (clampMax call.size call.max).toInt_lt
  have reads : (0 : Int32) ≤ .ofNat index ∧ .ofNat index < call.size := by
    rw [Int32.le_iff_toInt_le, Int32.lt_iff_toInt_lt, value, Int32.toInt_zero]
    omega
  have counter : Int32.ofNat index < Int32.maxValue := by
    rw [Int32.lt_iff_toInt_lt, value, Int32.toInt_maxValue]
    omega
  simp only [turn, List.mem_append, List.mem_cons, List.not_mem_nil, or_false] at member
  rcases member with (rfl | (printed | rfl | rfl)) | rfl
  · exact nonzero
  · split_ifs at printed
    · rw [List.mem_singleton.mp printed]
      trivial
    · cases printed
  · exact reads
  · trivial
  · exact counter

theorem turn_counted (data : List UInt8) (split : Int32) (index : Nat) :
    (turn data split index ++ [Event.increment (.ofNat index)]).countP Event.isIncrement = 1 := by
  unfold turn
  split_ifs <;> rfl

theorem safe_of_nonzero {call : Call} (admitted : call.Admitted) (nonzero : call.split ≠ 0) :
    Safe call.size call.iterations call.run := by
  rw [admitted.run_completes nonzero, admitted.iterations_eq]
  constructor
  · intro event member
    simp only [List.cons_append, List.mem_cons, List.mem_append, List.mem_flatMap,
      List.mem_range, List.not_mem_nil, or_false] at member
    rcases member with rfl | ⟨index, inside, found⟩ | rfl
    · trivial
    · apply turn_allowed admitted nonzero inside
      simpa using found
    · trivial
  · rfl
  · have turns : (List.range call.count).map (List.countP Event.isIncrement ∘ fun index =>
        turn call.bytes call.split index ++ [.increment (.ofNat index)]) =
          (List.range call.count).map fun _ => 1 := by
      apply List.map_congr_left
      intro index _
      exact turn_counted _ _ _
    simp only [List.cons_append, List.countP_cons, List.countP_append, List.countP_flatMap, turns]
    simp [Event.isIncrement]

theorem safe_of_unadmitted {call : Call} (unadmitted : ¬ call.Admitted) :
    Safe call.size call.iterations call.run := by
  rw [call.unadmitted unadmitted, call.iterations_unadmitted unadmitted]
  refine ⟨?_, rfl, rfl⟩
  intro event member
  cases member

theorem not_safe_of_zero {call : Call} (admitted : call.Admitted) (zero : call.split = 0) :
    ¬ Safe call.size call.iterations call.run := by
  intro safe
  have divided : Event.remainder 0 0 ∈ call.run.events := by
    rw [admitted.run_stops zero]
    simp
  exact safe.allowed _ divided rfl

theorem call_safe_iff (call : Call) :
    Safe call.size call.iterations call.run ↔ (call.Admitted → call.split ≠ 0) := by
  constructor
  · intro safe admitted zero
    exact not_safe_of_zero admitted zero safe
  · intro nonzero
    by_cases admitted : call.Admitted
    · exact safe_of_nonzero admitted (nonzero admitted)
    · exact safe_of_unadmitted admitted

theorem Call.guarded_iff (call : Call) :
    (call.Admitted → call.split ≠ 0) ↔
      call.data = none ∨ call.size ≤ 0 ∨ call.split ≠ 0 := by
  constructor
  · intro guarded
    by_cases absent : call.data = none
    · exact .inl absent
    · by_cases empty : call.size ≤ 0
      · exact .inr (.inl empty)
      · exact .inr (.inr (guarded ⟨absent, Int32.not_le.mp empty⟩))
  · rintro (absent | empty | nonzero) admitted
    · exact absurd absent admitted.present
    · exact absurd admitted.positive (Int32.not_lt.mpr empty)
    · exact nonzero

theorem dump_safe_iff_split_nonzero (call : Call) :
    Safe call.size call.iterations call.run ↔
      call.data = none ∨ call.size ≤ 0 ∨ call.split ≠ 0 :=
  (call_safe_iff call).trans call.guarded_iff

def unsplitByte : Call where
  file := ascii "main.c"
  function := ascii "main"
  line := 1
  str := ascii "data"
  data := some [65]
  size := 1
  max := 0
  split := 0
  points bytes found _ := by
    cases found
    rfl

theorem unsplit_byte_divides :
    ¬ Safe unsplitByte.size unsplitByte.iterations unsplitByte.run :=
  not_safe_of_zero { present := by simp [unsplitByte], positive := by decide } rfl

theorem logData_safe_iff (wdmLogLevel : Option Int) (wdmDebug : Bool) (wdmSourceRootLength : Nat)
    (call : Call) :
    Safe call.size (if logLevel wdmLogLevel wdmDebug ≥ logLevelTrace then call.iterations else 0)
        (logData wdmLogLevel wdmDebug wdmSourceRootLength call.file call.function call.line call.str
          call.data call.size call.max call.split) ↔
      logLevel wdmLogLevel wdmDebug < logLevelTrace ∨ call.data = none ∨ call.size ≤ 0 ∨
        call.split ≠ 0 := by
  unfold logData
  split_ifs with traced
  · have quiet : ¬ logLevel wdmLogLevel wdmDebug < logLevelTrace := by omega
    have inside := call_safe_iff { call with file := call.file.drop wdmSourceRootLength }
    rw [Call.guarded_iff] at inside
    rw [or_iff_right quiet]
    exact inside
  · refine iff_of_true ⟨?_, rfl, rfl⟩ (.inl (by omega))
    intro event member
    cases member

end LogData
