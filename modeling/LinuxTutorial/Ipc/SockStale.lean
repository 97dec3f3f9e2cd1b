import LinuxTutorial.Ipc.SockText

set_option autoImplicit false

namespace SockText

open CText

theorem sprintf_take {text : List UInt8} {size : Nat} (buffer : Buffer bufferSize)
    (covered : size ≤ text.length + 1) :
    (buffer.sprintf text).take size = (text ++ [0]).take size := by
  have inside : size ≤ (text ++ [0]).length := by
    rw [List.length_append, List.length_singleton]
    exact covered
  rw [Buffer.sprintf, Buffer.store, List.take_append_of_le_length inside]

theorem sprintf_behind {text : List UInt8} (short : text.length + 1 < bufferSize) (byte : UInt8) :
    ((Buffer.fill bufferSize byte).sprintf text)[text.length + 1]? = some byte := by
  have written : (text ++ [(0 : UInt8)]).length = text.length + 1 := by simp
  have left : 0 < bufferSize - (text.length + 1) := by omega
  rw [Buffer.sprintf, Buffer.store, written, List.getElem?_append_right (by simp), written]
  simp [Buffer.fill, left]

theorem covered_of_same {text : List UInt8} {size : Nat} (short : text.length + 1 < bufferSize)
    (same : ((Buffer.fill bufferSize 1).sprintf text).take size =
      ((Buffer.fill bufferSize 2).sprintf text).take size) : size ≤ text.length + 1 := by
  by_contra beyond
  have one := sprintf_behind short 1
  have two := sprintf_behind short 2
  rw [← List.getElem?_take_of_lt (by omega : text.length + 1 < size)] at one two
  rw [same, two] at one
  cases one

-- The sends of a run take no more of a buffer than what was written to it.
def Covered (pid : Int32) (count : Nat) (sends : List Int) : Prop :=
  ∀ (sent : Nat) size, sends[sent]? = some size →
    (∀ earlier, earlier ∈ sends.take sent → 0 < earlier) →
      size ≤ (message pid (count + sent)).length + 1

variable {pid : Int32}

theorem covered_cons {count : Nat} {size : Int} {sizes : List Int} :
    Covered pid count (size :: sizes) ↔
      size ≤ (message pid count).length + 1 ∧ (0 < size → Covered pid (count + 1) sizes) := by
  constructor
  · intro covered
    constructor
    · exact covered 0 size rfl (by simp)
    · intro positive sent later found earlier
      have bound := covered (sent + 1) later found (by simpa using ⟨positive, earlier⟩)
      rwa [Nat.add_comm sent 1, ← Nat.add_assoc] at bound
  · rintro ⟨first, rest⟩ sent later found earlier
    cases sent with
    | zero =>
      obtain rfl : size = later := Option.some.inj found
      exact first
    | succ sent =>
      simp only [List.take_succ_cons, List.mem_cons, forall_eq_or_imp] at earlier
      have bound := rest earlier.1 sent later found earlier.2
      rwa [Nat.add_assoc, Nat.add_comm 1 sent] at bound

theorem stream_same {count : Nat} {sends : List Int} (covered : Covered pid count sends)
    (one two : Nat → Buffer bufferSize) :
    (clientThread pid one count sends).stream = (clientThread pid two count sends).stream := by
  induction sends generalizing count with
  | nil => rfl
  | cons size sizes ih =>
    obtain ⟨first, rest⟩ := covered_cons.mp covered
    simp only [clientThread]
    split_ifs with stopped
    · rfl
    · have taken : size.toNat ≤ (message pid count).length + 1 := by omega
      simp only [sprintf_take _ taken, ih (rest (by omega))]

theorem covered_of_stream_same {count : Nat} {sends : List Int}
    (same : (clientThread pid (fun _ => Buffer.fill bufferSize 1) count sends).stream =
      (clientThread pid (fun _ => Buffer.fill bufferSize 2) count sends).stream) :
    Covered pid count sends := by
  induction sends generalizing count with
  | nil =>
    intro sent size found
    simp at found
  | cons size sizes ih =>
    apply covered_cons.mpr
    simp only [clientThread] at same
    split_ifs at same with stopped
    · constructor
      · omega
      · omega
    · have short := (message_short pid count).2
      have length (byte : UInt8) :
          (((Buffer.fill bufferSize byte).sprintf (message pid count)).take size.toNat).length =
            min size.toNat bufferSize := by
        have fits : (message pid count ++ [0]).length ≤ bufferSize := by
          rw [List.length_append, List.length_singleton]
          omega
        rw [List.length_take, Buffer.sprintf, Buffer.length_store _ fits]
      obtain ⟨first, later⟩ := List.append_inj same (by rw [length, length])
      have bound := covered_of_same short first
      constructor
      · omega
      · intro _
        exact ih later

theorem stream_independent_iff_covered (pid : Int32) (sends : List Int) :
    (∀ one two : Nat → Buffer bufferSize,
      (clientThread pid one 0 sends).stream = (clientThread pid two 0 sends).stream) ↔
      Covered pid 0 sends := by
  constructor
  · intro same
    exact covered_of_stream_same (same _ _)
  · intro covered
    exact stream_same covered

theorem whole_record_leaks :
    ¬ ∀ (pid : Int32) (sends : List Int), (∀ size, size ∈ sends → 0 < size ∧ size ≤ 1024) →
      ∀ one two : Nat → Buffer bufferSize,
        (clientThread pid one 0 sends).stream = (clientThread pid two 0 sends).stream := by
  intro same
  have covered : Covered 7 0 [1024] := covered_of_stream_same (same 7 [1024] (by simp) _ _)
  have bound := covered 0 1024 rfl (by simp)
  have short := (message_short 7 0).2
  simp only [bufferSize, Nat.add_zero] at short bound
  omega

end SockText
