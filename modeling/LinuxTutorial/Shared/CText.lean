import Mathlib.Data.List.Basic
import Mathlib.Data.List.TakeWhile
import Mathlib.Tactic.IntervalCases

set_option autoImplicit false

/-!
Characters are bytes, a string ends at its first NUL, and a buffer keeps what was in it
where nothing is written.
-/

namespace CText

def ascii (text : String) : List UInt8 := text.toList.map fun char => UInt8.ofNat char.toNat

def digits (value : Nat) : List UInt8 :=
  (Nat.toDigits 10 value).map fun char => UInt8.ofNat char.toNat

-- The conversion %d.
def decimal (value : Int) : List UInt8 :=
  if value < 0 then ascii "-" ++ digits value.natAbs else digits value.natAbs

-- The string at the start of an allocation; `none` where reading runs past its end.
def cstring : List UInt8 → Option (List UInt8)
  | [] => none
  | byte :: rest => if byte = 0 then some [] else (cstring rest).map (byte :: ·)

structure Buffer (size : Nat) where
  bytes : List UInt8
  size_eq : bytes.length = size

def Buffer.store {size : Nat} (buffer : Buffer size) (bytes : List UInt8) : List UInt8 :=
  bytes ++ buffer.bytes.drop bytes.length

-- sprintf of a text with its terminator.
def Buffer.sprintf {size : Nat} (buffer : Buffer size) (text : List UInt8) : List UInt8 :=
  buffer.store (text ++ [0])

def Buffer.fill (size : Nat) (byte : UInt8) : Buffer size where
  bytes := List.replicate size byte
  size_eq := List.length_replicate

theorem Buffer.length_store {size : Nat} (buffer : Buffer size) {bytes : List UInt8}
    (fits : bytes.length ≤ size) : (buffer.store bytes).length = size := by
  have length := buffer.size_eq
  simp only [Buffer.store, List.length_append, List.length_drop]
  omega

theorem digit_of_mem_digits {value : Nat} {byte : UInt8} (member : byte ∈ digits value) :
    48 ≤ byte ∧ byte ≤ 57 := by
  obtain ⟨char, digit, rfl⟩ := List.mem_map.mp member
  have isDigit := Nat.isDigit_of_mem_toDigits (by decide) (by decide) digit
  simp only [Char.isDigit, Bool.and_eq_true, decide_eq_true_eq] at isDigit
  have lower : 48 ≤ char.toNat := isDigit.1
  have upper : char.toNat ≤ 57 := isDigit.2
  interval_cases char.toNat <;> decide

theorem digits_length {value size : Nat} (positive : 0 < size) (bound : value < 10 ^ size) :
    (digits value).length ≤ size := by
  simpa [digits] using (Nat.length_toDigits_le_iff (by decide) positive).mpr bound

def digitsValue (bytes : List UInt8) : Nat :=
  bytes.foldl (fun value byte => 10 * value + (byte.toNat - 48)) 0

theorem digitsValue_digits (value : Nat) : digitsValue (digits value) = value := by
  have char_value (before : Nat) (char : Char) (member : char ∈ Nat.toDigits 10 value) :
      10 * before + ((UInt8.ofNat char.toNat).toNat - 48) =
        10 * before + (char.toNat - '0'.toNat) := by
    have isDigit := Nat.isDigit_of_mem_toDigits (by decide) (by decide) member
    simp only [Char.isDigit, Bool.and_eq_true, decide_eq_true_eq] at isDigit
    have upper : char.toNat ≤ 57 := isDigit.2
    have small : char.toNat % 2 ^ 8 = char.toNat := Nat.mod_eq_of_lt (by omega)
    have zero : '0'.toNat = 48 := rfl
    rw [UInt8.toNat_ofNat', small, zero]
  calc
    digitsValue (digits value) =
        (Nat.toDigits 10 value).foldl
          (fun value char => 10 * value + ((UInt8.ofNat char.toNat).toNat - 48)) 0 := by
      rw [digitsValue, digits, List.foldl_map]
    _ = (Nat.toDigits 10 value).foldl
          (fun value char => 10 * value + (char.toNat - '0'.toNat)) 0 :=
      List.foldl_ext _ _ _ char_value
    _ = value := by
      rw [← Nat.ofDigitChars_eq_foldl, Nat.ofDigitChars_toDigits (by decide) (by decide)]

theorem decimal_printable {value : Int} {byte : UInt8} (member : byte ∈ decimal value) :
    45 ≤ byte := by
  have digit (found : byte ∈ digits value.natAbs) : 45 ≤ byte :=
    UInt8.le_trans (by decide) (digit_of_mem_digits found).1
  unfold decimal at member
  split_ifs at member
  · rcases List.mem_append.mp member with sign | found
    · obtain rfl : byte = 45 := List.mem_singleton.mp sign
      decide
    · exact digit found
  · exact digit member

theorem decimal_length (value : Int32) : (decimal value.toInt).length ≤ 11 := by
  have lower := value.le_toInt
  have upper := value.toInt_lt
  have length : (digits value.toInt.natAbs).length ≤ 10 := digits_length (by decide) (by omega)
  unfold decimal
  split_ifs
  · have sign : (ascii "-").length = 1 := rfl
    simp only [List.length_append, sign]
    omega
  · omega

theorem cstring_text {text : List UInt8} (rest : List UInt8) (nonzero : 0 ∉ text) :
    cstring (text ++ 0 :: rest) = some text := by
  induction text with
  | nil => rfl
  | cons byte text ih =>
    simp only [List.mem_cons, not_or] at nonzero
    have different : byte ≠ 0 := fun same => nonzero.1 same.symm
    simp [cstring, different, ih nonzero.2]

theorem cstring_eq_some {bytes text : List UInt8} (found : cstring bytes = some text) :
    0 ∉ text ∧ ∃ rest, bytes = text ++ 0 :: rest := by
  induction bytes generalizing text with
  | nil => cases found
  | cons byte bytes ih =>
    simp only [cstring] at found
    split_ifs at found with zero
    · cases found
      exact ⟨List.not_mem_nil, bytes, by simp [zero]⟩
    · obtain ⟨tail, inside, rfl⟩ := Option.map_eq_some_iff.mp found
      obtain ⟨nonzero, rest, rfl⟩ := ih inside
      refine ⟨?_, rest, rfl⟩
      simp only [List.mem_cons, not_or]
      exact ⟨fun same => zero same.symm, nonzero⟩

theorem cstring_append {text rest : List UInt8} (nonzero : 0 ∉ text) :
    cstring (text ++ rest) = (cstring rest).map (text ++ ·) := by
  induction text with
  | nil => simp
  | cons byte text ih =>
    simp only [List.mem_cons, not_or] at nonzero
    have different : byte ≠ 0 := fun same => nonzero.1 same.symm
    simp [cstring, different, ih nonzero.2, Function.comp_def]

theorem cstring_empty_iff (bytes : List UInt8) : cstring bytes = some [] ↔ bytes[0]? = some 0 := by
  cases bytes with
  | nil => simp [cstring]
  | cons byte bytes =>
    by_cases zero : byte = 0
    · simp [cstring, zero]
    · simp [cstring, zero]

theorem cstring_store_iff {size : Nat} {buffer : Buffer size} {text : List UInt8}
    (nonzero : 0 ∉ text) :
    cstring (buffer.store text) = some text ↔ buffer.bytes[text.length]? = some 0 := by
  have behind : buffer.bytes[text.length]? = (buffer.bytes.drop text.length)[0]? := by simp
  rw [Buffer.store, cstring_append nonzero, behind, ← cstring_empty_iff]
  cases cstring (buffer.bytes.drop text.length) with
  | none => simp
  | some rest => simp

theorem cstring_inside {bytes behind text : List UInt8} (unended : 0 ∉ behind)
    (found : cstring (bytes ++ behind) = some text) : ∃ rest, bytes = text ++ 0 :: rest := by
  induction bytes generalizing text with
  | nil =>
    obtain ⟨_, rest, same⟩ := cstring_eq_some found
    rw [List.nil_append] at same
    simp [same] at unended
  | cons byte bytes ih =>
    simp only [List.cons_append, cstring] at found
    split_ifs at found with zero
    · cases found
      exact ⟨bytes, by simp [zero]⟩
    · obtain ⟨tail, inside, rfl⟩ := Option.map_eq_some_iff.mp found
      obtain ⟨rest, rfl⟩ := ih inside
      exact ⟨rest, rfl⟩

section Cut

variable {α β : Type}

def cut : List Nat → List α → List (List α)
  | [], _ => []
  | size :: sizes, stream => stream.take size :: cut sizes (stream.drop size)

theorem cut_map (change : α → β) (sizes : List Nat) (stream : List α) :
    cut sizes (stream.map change) = (cut sizes stream).map (List.map change) := by
  induction sizes generalizing stream with
  | nil => rfl
  | cons size sizes ih => simp [cut, List.map_take, ← ih, List.map_drop]

theorem cut_flatten (sizes : List Nat) (stream : List α) (whole : sizes.sum = stream.length) :
    (cut sizes stream).flatten = stream := by
  induction sizes generalizing stream with
  | nil => simpa [cut, eq_comm] using whole
  | cons size sizes ih =>
    have rest : sizes.sum = (stream.drop size).length := by
      simp only [List.sum_cons] at whole
      simp only [List.length_drop]
      omega
    simp [cut, ih _ rest]

theorem cut_ne_nil {sizes : List Nat} {stream piece : List α}
    (positive : ∀ size, size ∈ sizes → 0 < size) (whole : sizes.sum = stream.length)
    (member : piece ∈ cut sizes stream) : piece ≠ [] := by
  induction sizes generalizing stream with
  | nil => cases member
  | cons size sizes ih =>
    have first := positive size List.mem_cons_self
    simp only [List.sum_cons] at whole
    simp only [cut, List.mem_cons] at member
    rcases member with rfl | member
    · apply List.ne_nil_of_length_pos
      simp only [List.length_take]
      omega
    · apply ih (fun other inside => positive other (List.mem_cons_of_mem _ inside)) _ member
      simp only [List.length_drop]
      omega

theorem mem_cut {sizes : List Nat} {stream piece : List α} {byte : α}
    (found : piece ∈ cut sizes stream) (member : byte ∈ piece) : byte ∈ stream := by
  induction sizes generalizing stream with
  | nil => cases found
  | cons size sizes ih =>
    simp only [cut, List.mem_cons] at found
    rcases found with rfl | found
    · exact List.mem_of_mem_take member
    · exact List.mem_of_mem_drop (ih found)

end Cut

end CText
