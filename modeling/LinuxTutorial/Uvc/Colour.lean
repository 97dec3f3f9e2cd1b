import LinuxTutorial.Shared.Clamp
import LinuxTutorial.Uvc.Conversion
import Mathlib.Data.Rat.Cast.Order
import Mathlib.Tactic.NormNum

set_option autoImplicit false

namespace Uvc

open Blocks Clamp

-- The exact conversion, of a luma and of chromas that have 128 taken away.
def exactRed (y v : Rat) : Rat := clamp 0 255 (y + 1.402 * v)

def plainGreen (y u v : Rat) : Rat := y - 0.344136 * u - 0.714136 * v

def exactGreen (y u v : Rat) : Rat := clamp 0 255 (plainGreen y u v)

def exactBlue (y u : Rat) : Rat := clamp 0 255 (y + 1.772 * u)

def centered (chroma : UInt8) : Int := chroma.toNat - 128

structure ColourLaw (y u v red green blue : UInt8) : Prop where
  red : |(red.toNat : Rat) - exactRed y.toNat (centered v)| < 2
  green : |(green.toNat : Rat) - exactGreen y.toNat (centered u) (centered v)| < 2
  blue : |(blue.toNat : Rat) - exactBlue y.toNat (centered u)| < 2

-- What the swapped chromas and the rounding add to green: nothing much where V is to U nearly as
-- 95 is to 271.
def greenError (u v : UInt8) : Rat :=
  (270.818816 * (centered v : Rat) - 94.901184 * (centered u : Rat) -
    ((88 * centered v - 183 * centered u) % 256 : Int)) / 256

def GreenCloses (y u v : UInt8) : Prop :=
  |greenError u v| < 2 ∨
    (plainGreen y.toNat (centered u) (centered v) + greenError u v < 2 ∧
      plainGreen y.toNat (centered u) (centered v) < 2) ∨
    (253 < plainGreen y.toNat (centered u) (centered v) + greenError u v ∧
      253 < plainGreen y.toNat (centered u) (centered v))

theorem minmax_toNat (value : Int) :
    ((UInt8.ofInt (minmax 0 value 255)).toNat : Rat) = clamp 0 255 (value : Rat) := by
  have bounds : 0 ≤ minmax 0 value 255 ∧ minmax 0 value 255 ≤ 255 := by
    unfold minmax
    split_ifs <;> omega
  have cast : ((UInt8.ofInt (minmax 0 value 255)).toNat : Int) = minmax 0 value 255 := by
    rw [UInt8.ofInt, UInt8.toNat_ofNat']
    omega
  have value_eq : (minmax 0 value 255 : Rat) = clamp 0 255 (value : Rat) := by
    unfold minmax
    split_ifs with below above
    · rw [clamp_below (by exact_mod_cast below.le) (by norm_num)]
      norm_num
    · rw [clamp_above (by exact_mod_cast above.le) (by norm_num)]
      norm_num
    · rw [clamp_inside (by exact_mod_cast not_lt.mp below) (by exact_mod_cast not_lt.mp above)]
  rw [← value_eq]
  exact_mod_cast congrArg (Int.cast : Int → Rat) cast

theorem scaled_shift (byte : UInt8) (added : Int) :
    ((byte.toNat : Int) <<< (8 : Nat) + added) >>> (8 : Nat) = byte.toNat + added / 256 := by
  rw [Int.shiftRight_eq_div_pow, Int.shiftLeft_eq]
  omega

theorem rounded_close {added : Int} {exact : Rat} (above : (added : Rat) / 256 - exact < 2)
    (below : exact - (added : Rat) / 256 < 1) : |((added / 256 : Int) : Rat) - exact| < 2 := by
  have low : 256 * (added / 256) ≤ added := by omega
  have high : added < 256 * (added / 256) + 256 := by omega
  have lowRat : 256 * ((added / 256 : Int) : Rat) ≤ added := by exact_mod_cast low
  have highRat : (added : Rat) < 256 * ((added / 256 : Int) : Rat) + 256 := by exact_mod_cast high
  rw [abs_lt]
  constructor
  · linarith
  · linarith

theorem centered_bounds (chroma : UInt8) :
    (-128 : Rat) ≤ centered chroma ∧ (centered chroma : Rat) ≤ 127 := by
  have bound := chroma.toNat_lt
  have low : -128 ≤ centered chroma := by
    rw [centered]
    omega
  have high : centered chroma ≤ 127 := by
    rw [centered]
    omega
  constructor
  · exact_mod_cast low
  · exact_mod_cast high

theorem channel_close (y : UInt8) {added : Int} {exact : Rat}
    (above : (added : Rat) / 256 - exact < 2) (below : exact - (added : Rat) / 256 < 1) :
    |((UInt8.ofInt (minmax 0 (((y.toNat : Int) <<< (8 : Nat) + added) >>> (8 : Nat))
        255)).toNat : Rat) - clamp 0 255 (y.toNat + exact)| < 2 := by
  have rounded := rounded_close above below
  rw [minmax_toNat, scaled_shift, clamp_close_iff (by norm_num) (by norm_num)]
  left
  push_cast at rounded ⊢
  rwa [add_sub_add_left_eq_sub]

theorem red_close (y v : UInt8) :
    |((red ((y.toNat : Int) <<< (8 : Nat)) (centered v)).toNat : Rat) -
      exactRed y.toNat (centered v)| < 2 := by
  obtain ⟨low, high⟩ := centered_bounds v
  apply channel_close
  · push_cast
    linarith
  · push_cast
    linarith

theorem blue_close (y u : UInt8) :
    |((blue ((y.toNat : Int) <<< (8 : Nat)) (centered u)).toNat : Rat) -
      exactBlue y.toNat (centered u)| < 2 := by
  obtain ⟨low, high⟩ := centered_bounds u
  apply channel_close
  · push_cast
    linarith
  · push_cast
    linarith

theorem green_sum (y u v : UInt8) :
    ((((y.toNat : Int) <<< (8 : Nat) + 88 * centered v - 183 * centered u) >>> (8 : Nat) : Int) :
      Rat) = plainGreen y.toNat (centered u) (centered v) + greenError u v := by
  have divided := Int.emod_add_mul_ediv (88 * centered v - 183 * centered u) 256
  have dividedRat : (((88 * centered v - 183 * centered u) % 256 : Int) : Rat) +
      256 * ((88 * centered v - 183 * centered u) / 256 : Int) =
        88 * centered v - 183 * centered u := by
    exact_mod_cast divided
  rw [add_sub_assoc, scaled_shift, greenError, plainGreen, Int.cast_add, Int.cast_natCast]
  linarith

theorem green_close_iff (y u v : UInt8) :
    |((green ((y.toNat : Int) <<< (8 : Nat)) (centered u) (centered v)).toNat : Rat) -
      exactGreen y.toNat (centered u) (centered v)| < 2 ↔ GreenCloses y u v := by
  rw [green, minmax_toNat, exactGreen, green_sum, clamp_close_iff (by norm_num) (by norm_num),
    add_sub_cancel_left, GreenCloses]
  norm_num

theorem colourLaw_iff (y u v : UInt8) :
    ColourLaw y u v (red ((y.toNat : Int) <<< (8 : Nat)) (centered v))
      (green ((y.toNat : Int) <<< (8 : Nat)) (centered u) (centered v))
      (blue ((y.toNat : Int) <<< (8 : Nat)) (centered u)) ↔ GreenCloses y u v := by
  constructor
  · intro law
    exact (green_close_iff y u v).mp law.green
  · intro closes
    exact ⟨red_close y v, (green_close_iff y u v).mpr closes, blue_close y u⟩

theorem rgb_byte {count k offset : Nat} (yuyv : List UInt8) (inside : k < count)
    (channel : offset < 3) :
    ((List.range count).flatMap (pixel yuyv)).getD (k * 3 + offset) 0 =
      (pixel yuyv k).getD offset 0 := by
  rw [List.getD_eq_getElem?_getD, getElem?_flatMap_range length_pixel inside channel,
    List.getD_eq_getElem?_getD]

theorem colour_law_iff_green_closes (width height : UInt32) (even : width.toNat % 2 = 0)
    (small : 3 * (width.toNat * height.toNat) < 2 ^ 32) (yuyv : List UInt8)
    (length : yuyv.length = 2 * (width.toNat * height.toNat)) :
    ∃ rgb, yuyv2rgb yuyv width height = some rgb ∧
      ((∀ k, k < width.toNat * height.toNat →
          ColourLaw (luma yuyv k) (chromaU yuyv k) (chromaV yuyv k) (rgb.getD (k * 3 + 0) 0)
            (rgb.getD (k * 3 + 1) 0) (rgb.getD (k * 3 + 2) 0)) ↔
        ∀ k, k < width.toNat * height.toNat →
          GreenCloses (luma yuyv k) (chromaU yuyv k) (chromaV yuyv k)) := by
  have proper : Proper width height := ⟨even, small⟩
  refine ⟨_, proper.yuyv2rgb_eq length, ?_⟩
  apply forall₂_congr
  intro k inside
  rw [rgb_byte yuyv inside (by omega), rgb_byte yuyv inside (by omega),
    rgb_byte yuyv inside (by omega)]
  exact colourLaw_iff _ _ _

theorem green_closes_grey (y : UInt8) : GreenCloses y 128 128 := by
  have grey : centered 128 = 0 := rfl
  left
  rw [greenError, grey]
  norm_num

theorem colour_law_iff_green_closes_grey : ∃ rgb, yuyv2rgb [90, 128, 200, 128] 2 1 = some rgb ∧
    ∀ k, k < 2 → ColourLaw (luma [90, 128, 200, 128] k) (chromaU [90, 128, 200, 128] k)
      (chromaV [90, 128, 200, 128] k) (rgb.getD (k * 3 + 0) 0) (rgb.getD (k * 3 + 1) 0)
      (rgb.getD (k * 3 + 2) 0) := by
  obtain ⟨rgb, made, law⟩ :=
    colour_law_iff_green_closes 2 1 rfl (by decide) [90, 128, 200, 128] rfl
  have grey : ∀ k, k < 2 → chromaU [90, 128, 200, 128] k = 128 ∧
      chromaV [90, 128, 200, 128] k = 128 := by decide
  refine ⟨rgb, made, ?_⟩
  apply law.mpr
  intro k inside
  rw [(grey k inside).1, (grey k inside).2]
  exact green_closes_grey _

theorem green_added_for_red :
    ¬ ∀ rgb, yuyv2rgb [128, 128, 128, 255] 2 1 = some rgb →
      ColourLaw 128 128 255 (rgb.getD 0 0) (rgb.getD 1 0) (rgb.getD 2 0) := by
  intro law
  have made : yuyv2rgb [128, 128, 128, 255] 2 1 = some [255, 171, 128, 255, 171, 128] := by
    decide
  have close := (law _ made).green
  have stored : (([255, 171, 128, 255, 171, 128] : List UInt8).getD 1 0).toNat = 171 := rfl
  have luma : (128 : UInt8).toNat = 128 := rfl
  have blue : centered 128 = 0 := rfl
  have red : centered 255 = 127 := rfl
  rw [stored, luma, blue, red, exactGreen, plainGreen, clamp_inside (by norm_num) (by norm_num)] at close
  norm_num [abs_lt] at close

end Uvc
