import Mathlib.Algebra.Order.Ring.Defs
import Mathlib.Tactic.Linarith

set_option autoImplicit false

namespace Clamp

section Order

variable {R : Type} [LinearOrder R]

def clamp (low high value : R) : R := max low (min high value)

variable {low high value : R}

theorem clamp_below (below : value ≤ low) (ordered : low ≤ high) :
    clamp low high value = low := by
  rw [clamp, min_eq_right (below.trans ordered), max_eq_left below]

theorem clamp_above (above : high ≤ value) (ordered : low ≤ high) :
    clamp low high value = high := by
  rw [clamp, min_eq_left above, max_eq_right ordered]

theorem clamp_inside (above : low ≤ value) (below : value ≤ high) :
    clamp low high value = value := by
  rw [clamp, min_eq_right below, max_eq_right above]

theorem clamp_mono {other : R} (order : value ≤ other) :
    clamp low high value ≤ clamp low high other :=
  max_le_max_left low (min_le_min_left high order)

end Order

variable {R : Type} [CommRing R] [LinearOrder R] [IsStrictOrderedRing R]
variable {low high margin one two : R}

-- Two values come closer only where both are cut off, or nearly so, at the same bound.
theorem clamp_gap_iff (room : low + margin ≤ high) (positive : 0 < margin) (order : one ≤ two) :
    clamp low high two - clamp low high one < margin ↔
      two - one < margin ∨ two < low + margin ∨ high - margin < one := by
  have ordered : low ≤ high := by linarith
  rcases le_total one low with below | inside
  · rw [clamp_below below ordered]
    rcases le_total two low with small | large
    · rw [clamp_below small ordered]
      exact iff_of_true (by linarith) (.inr (.inl (by linarith)))
    rcases le_total two high with within | above
    · rw [clamp_inside large within]
      grind
    · rw [clamp_above above ordered]
      grind
  rcases le_total one high with within | above
  · rw [clamp_inside inside within]
    rcases le_total two high with small | large
    · rw [clamp_inside (inside.trans order) small]
      grind
    · rw [clamp_above large ordered]
      grind
  · rw [clamp_above above ordered, clamp_above (above.trans order) ordered]
    exact iff_of_true (by linarith) (.inr (.inr (by linarith)))

theorem clamp_close_iff (room : low + margin ≤ high) (positive : 0 < margin) :
    |clamp low high one - clamp low high two| < margin ↔
      |one - two| < margin ∨ (one < low + margin ∧ two < low + margin) ∨
        (high - margin < one ∧ high - margin < two) := by
  rcases le_total one two with order | order
  · rw [abs_sub_comm, abs_sub_comm one, abs_of_nonneg (sub_nonneg.mpr (clamp_mono order)),
      abs_of_nonneg (sub_nonneg.mpr order), clamp_gap_iff room positive order]
    grind
  · rw [abs_of_nonneg (sub_nonneg.mpr (clamp_mono order)),
      abs_of_nonneg (sub_nonneg.mpr order), clamp_gap_iff room positive order]
    grind

end Clamp
