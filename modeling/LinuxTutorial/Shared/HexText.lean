import Mathlib.Data.List.Basic

set_option autoImplicit false

namespace HexText

def upperHex (value : Nat) : List UInt8 :=
  (Nat.toDigits 16 value).map fun char => UInt8.ofNat char.toUpper.toNat

-- The conversion %02X.
def hex02 (value : Nat) : List UInt8 := (upperHex value).leftpad 2 48

def hexDigit (byte : UInt8) : Option Nat :=
  if 48 ≤ byte ∧ byte ≤ 57 then some (byte.toNat - 48)
  else if 65 ≤ byte ∧ byte ≤ 70 then some (byte.toNat - 55)
  else if 97 ≤ byte ∧ byte ≤ 102 then some (byte.toNat - 87)
  else none

-- Two hexadecimal digits.
def hexToken : List UInt8 → Option UInt8
  | [high, low] => do
    let high ← hexDigit high
    let low ← hexDigit low
    some (UInt8.ofNat (16 * high + low))
  | _ => none

def upperDigit (digit : Nat) : UInt8 := UInt8.ofNat digit.digitChar.toUpper.toNat

theorem hexDigit_upperDigit {digit : Nat} (small : digit < 16) :
    hexDigit (upperDigit digit) = some digit := by
  have all : ∀ digit, digit < 16 → hexDigit (upperDigit digit) = some digit := by decide
  exact all digit small

theorem upperDigit_printable {digit : Nat} (small : digit < 16) : 48 ≤ upperDigit digit := by
  have all : ∀ digit, digit < 16 → 48 ≤ upperDigit digit := by decide
  exact all digit small

theorem hex02_byte (byte : UInt8) :
    hex02 byte.toNat = [upperDigit (byte.toNat / 16), upperDigit (byte.toNat % 16)] := by
  have bound := byte.toNat_lt
  by_cases short : byte.toNat < 16
  · have zero : byte.toNat / 16 = 0 := Nat.div_eq_of_lt short
    have same : byte.toNat % 16 = byte.toNat := Nat.mod_eq_of_lt short
    rw [hex02, upperHex, Nat.toDigits_of_lt_base short, zero, same]
    rfl
  · have high : byte.toNat / 16 < 16 := by omega
    rw [hex02, upperHex, Nat.toDigits_of_base_le (by decide) (by omega),
      Nat.toDigits_of_lt_base high]
    rfl

theorem hexToken_hex02 (byte : UInt8) : hexToken (hex02 byte.toNat) = some byte := by
  have bound := byte.toNat_lt
  have high : byte.toNat / 16 < 16 := by omega
  have low : byte.toNat % 16 < 16 := Nat.mod_lt _ (by decide)
  have whole : 16 * (byte.toNat / 16) + byte.toNat % 16 = byte.toNat := Nat.div_add_mod _ _
  rw [hex02_byte, hexToken, hexDigit_upperDigit high, hexDigit_upperDigit low]
  simp only [Option.bind_eq_bind, Option.bind_some, whole, UInt8.ofNat_toNat]

theorem hex02_printable {byte digit : UInt8} (member : digit ∈ hex02 byte.toNat) : 48 ≤ digit := by
  have bound := byte.toNat_lt
  rw [hex02_byte, List.mem_cons, List.mem_singleton] at member
  rcases member with rfl | rfl
  · exact upperDigit_printable (by omega)
  · exact upperDigit_printable (by omega)

def escape : UInt8 := 27

-- Without the sequences from an escape to its m; the flag says that one has begun.
def shownFrom : Bool → List UInt8 → List UInt8
  | _, [] => []
  | true, byte :: rest => shownFrom (byte != 109) rest
  | false, byte :: rest =>
    if byte = escape then shownFrom true rest else byte :: shownFrom false rest

def shown (text : List UInt8) : List UInt8 := shownFrom false text

theorem shown_append {text : List UInt8} (rest : List UInt8) (plain : escape ∉ text) :
    shown (text ++ rest) = text ++ shown rest := by
  induction text with
  | nil => rfl
  | cons byte text ih =>
    simp only [List.mem_cons, not_or] at plain
    have different : byte ≠ escape := fun same => plain.1 same.symm
    have later := ih plain.2
    simp only [shown] at later
    simp [shown, shownFrom, different, later]

end HexText
