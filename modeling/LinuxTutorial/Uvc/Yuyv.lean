import LinuxTutorial.Uvc.Camera
import Mathlib.Tactic.Ring

set_option autoImplicit false

namespace Uvc

-- for (size_t i = 0; i < height; i++) for (size_t j = 0; j < width; j += 2): i * width + j
def pairIndices (width height : UInt32) : List Nat :=
  (List.range height.toNat).flatMap fun i =>
    (List.range ((width.toNat + 1) / 2)).map fun pair => (i * width.toNat + 2 * pair) % 2 ^ 64

def groupReads (index : Nat) : List Nat :=
  [(index * 2 + 0) % 2 ^ 64, (index * 2 + 1) % 2 ^ 64, (index * 2 + 2) % 2 ^ 64,
    (index * 2 + 3) % 2 ^ 64]

def yuyvReads (width height : UInt32) : List Nat := (pairIndices width height).flatMap groupReads

-- An odd width makes the last pair of the last row read one pixel further.
def yuyvExtent (width height : UInt32) : Nat :=
  if width.toNat % 2 = 1 ∧ 0 < height.toNat then 2 * width.toNat * height.toNat + 2
  else 2 * width.toNat * height.toNat

theorem mem_yuyvReads {width height : UInt32} {read : Nat} :
    read ∈ yuyvReads width height ↔
      ∃ i, i < height.toNat ∧ ∃ pair, 2 * pair < width.toNat ∧
        read ∈ groupReads ((i * width.toNat + 2 * pair) % 2 ^ 64) := by
  have pairs (pair : Nat) : pair < (width.toNat + 1) / 2 ↔ 2 * pair < width.toNat := by omega
  simp [yuyvReads, pairIndices, pairs]

theorem yuyvReads_lt {width height : UInt32} {read : Nat}
    (small : 2 * width.toNat * height.toNat < 2 ^ 32) (member : read ∈ yuyvReads width height) :
    read < yuyvExtent width height := by
  obtain ⟨i, row, pair, column, member⟩ := mem_yuyvReads.mp member
  have rows : i * width.toNat + width.toNat ≤ width.toNat * height.toNat := by
    calc
      i * width.toNat + width.toNat = width.toNat * (i + 1) := by ring
      _ ≤ width.toNat * height.toNat := Nat.mul_le_mul_left _ row
  have area : 2 * width.toNat * height.toNat = 2 * (width.toNat * height.toNat) := by ring
  have index : (i * width.toNat + 2 * pair) % 2 ^ 64 = i * width.toNat + 2 * pair := by omega
  rw [index] at member
  simp only [groupReads, List.mem_cons, List.not_mem_nil, or_false] at member
  unfold yuyvExtent
  split_ifs <;> omega

theorem last_mem_yuyvReads {width height : UInt32}
    (small : 2 * width.toNat * height.toNat < 2 ^ 32) (odd : width.toNat % 2 = 1)
    (rows : 0 < height.toNat) :
    2 * width.toNat * height.toNat + 1 ∈ yuyvReads width height := by
  have area : 2 * width.toNat * height.toNat = 2 * (width.toNat * height.toNat) := by ring
  have last : (height.toNat - 1) * width.toNat + width.toNat = width.toNat * height.toNat := by
    obtain ⟨before, same⟩ : ∃ before, height.toNat = before + 1 := ⟨height.toNat - 1, by omega⟩
    rw [same, Nat.add_sub_cancel]
    ring
  apply mem_yuyvReads.mpr
  refine ⟨height.toNat - 1, by omega, (width.toNat - 1) / 2, by omega, ?_⟩
  simp only [groupReads, List.mem_cons, List.not_mem_nil, or_false]
  omega

end Uvc
