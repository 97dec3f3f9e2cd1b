import LinuxTutorial.Uvc.Conversion
import Mathlib.Data.List.Nodup

set_option autoImplicit false

namespace Uvc

open Blocks

def triple (rows : List (List UInt8)) (i j : Nat) : Option (List UInt8) :=
  rows[i]?.map fun row => (row.drop (j * 3)).take 3

structure LaidOut (color : UInt8 → UInt8 → UInt8 → List UInt8) (width height : Nat)
    (yuyv : List UInt8) (rows : List (List UInt8)) : Prop where
  rowCount : rows.length = height
  rowLength : ∀ row, row ∈ rows → row.length = width * 3
  pixels : ∀ i, i < height → ∀ j, j < width → ∃ y u v,
    yuyv[2 * (i * width + j)]? = some y ∧
    yuyv[2 * (i * width + j - j % 2) + 1]? = some u ∧
    yuyv[2 * (i * width + j - j % 2) + 3]? = some v ∧
    triple rows i j = some (color y u v)

/-- The conversion of a frame reads inside it and nothing else than `yuyvReads`; it stores each
byte of a block of 3 * width * height once, whatever was there, and none behind it. -/
structure Touches (width height : UInt32) (yuyv rgb : List UInt8) : Prop where
  result : yuyv2rgb yuyv width height = some rgb
  inside : ∀ read, read ∈ yuyvReads width height → read < yuyv.length
  onlyReads : ∀ other block,
    (∀ read, read ∈ yuyvReads width height → other[read]? = yuyv[read]?) →
      convertPairs other width height block = convertPairs yuyv width height block
  once : ∃ stored, pairStores yuyv width height = some stored ∧
    (∀ block, convertPairs yuyv width height block = stores block stored) ∧
    ∀ write, (stored.map Prod.fst).count write =
      if write < 3 * (width.toNat * height.toNat) then 1 else 0
  fills : ∀ block behind, block.length = 3 * (width.toNat * height.toNat) →
    convertPairs yuyv width height (block ++ behind) = some (rgb ++ behind)

def AgreeFrom (start count : Nat) (one two : List UInt8) : Prop :=
  ∀ offset, offset < count → one[start + offset]? = two[start + offset]?

structure Local (width height : Nat) (one two : List UInt8) (rowsOne rowsTwo : List (List UInt8)) :
    Prop where
  pixels : ∀ i, i < height → ∀ j, j < width →
    AgreeFrom (2 * (i * width + j - j % 2)) 4 one two → triple rowsOne i j = triple rowsTwo i j
  rows : ∀ i, i < height → AgreeFrom (2 * (i * width)) (2 * width) one two →
    rowsOne[i]? = rowsTwo[i]?

variable {width height : UInt32} {yuyv one two : List UInt8}

theorem even_row {width : Nat} (even : width % 2 = 0) (i j : Nat) :
    (i * width + j) % 2 = j % 2 := by
  have row : i * width % 2 = 0 := by
    rw [Nat.mul_mod, even, Nat.mul_zero]
  omega

def pixelRows (yuyv : List UInt8) (width height : Nat) : List (List UInt8) :=
  (List.range height).map fun i =>
    (List.range width).flatMap fun j => pixel yuyv (i * width + j)

theorem triple_pixelRows {width height i j : Nat} (row : i < height) (column : j < width) :
    triple (pixelRows yuyv width height) i j = some (pixel yuyv (i * width + j)) := by
  have samples := take_drop_flatMap_range (fun j => @length_pixel yuyv (i * width + j)) column
  simp only [triple, pixelRows, List.getElem?_map, List.getElem?_range row, Option.map_some,
    samples]

theorem pixel_congr {k : Nat} (same : AgreeFrom (2 * (k - k % 2)) 4 one two) :
    pixel one k = pixel two k := by
  have place : 2 * k = 2 * (k - k % 2) + 2 * (k % 2) := by omega
  have first := same (2 * (k % 2)) (by omega)
  have second := same 1 (by omega)
  have fourth := same 3 (by omega)
  rw [← place] at first
  simp only [pixel, luma, chromaU, chromaV, List.getD_eq_getElem?_getD, first, second, fourth]

theorem laidOut_pixelRows (proper : Proper width height)
    (length : yuyv.length = 2 * (width.toNat * height.toNat)) :
    LaidOut samples width.toNat height.toNat yuyv
      (pixelRows yuyv width.toNat height.toNat) := by
  constructor
  · simp [pixelRows]
  · intro row member
    obtain ⟨i, _, rfl⟩ := List.mem_map.mp member
    exact length_flatMap_range (fun j => @length_pixel yuyv (i * width.toNat + j)) width.toNat
  · intro i row j column
    have rows : (i + 1) * width.toNat ≤ height.toNat * width.toNat := Nat.mul_le_mul_right _ row
    have parity := even_row proper.even i j
    have even := proper.even
    have start := even_row even i 0
    rw [Nat.succ_mul, Nat.mul_comm height.toNat] at rows
    have inside (index : Nat) (bound : index < yuyv.length) :
        yuyv[index]? = some (yuyv.getD index 0) := by
      simp [bound]
    refine ⟨_, _, _, inside _ (by omega), inside _ (by omega), inside _ (by omega), ?_⟩
    rw [triple_pixelRows row column, pixel, luma, chromaU, chromaV, parity]

theorem local_pixelRows {width height : Nat} (even : width % 2 = 0) :
    Local width height one two (pixelRows one width height) (pixelRows two width height) := by
  constructor
  · intro i row j column same
    rw [triple_pixelRows row column, triple_pixelRows row column, pixel_congr]
    rwa [even_row even i j]
  · intro i row same
    have pixels : ∀ j, j ∈ List.range width →
        pixel one (i * width + j) = pixel two (i * width + j) := by
      intro j inside
      have column := List.mem_range.mp inside
      apply pixel_congr
      intro offset within
      have later := same (2 * (j - j % 2) + offset) (by omega)
      have place : 2 * (i * width) + (2 * (j - j % 2) + offset) =
          2 * (i * width + j - (i * width + j) % 2) + offset := by
        rw [even_row even i j]
        omega
      rwa [place] at later
    simp only [pixelRows, List.getElem?_map, List.getElem?_range row, Option.map_some]
    rw [List.flatMap_congr pixels]

theorem touches_pixels (proper : Proper width height)
    (length : yuyv.length = 2 * (width.toNat * height.toNat)) :
    Touches width height yuyv
      ((List.range (width.toNat * height.toNat)).flatMap (pixel yuyv)) := by
  have result := proper.yuyv2rgb_eq length
  have bounds := (yuyv2rgb_isSome yuyv width height).mp (by rw [result]; rfl)
  obtain ⟨stored, converted⟩ := proper.converted length
  have indices := converted.indices.trans proper.writes
  constructor
  · exact result
  · exact bounds.1
  · intro other block same
    exact convertPairs_congr block same
  · refine ⟨stored, converted.made, converted.convertPairs_eq, ?_⟩
    intro write
    rw [indices]
    split_ifs with inside
    · exact List.count_eq_one_of_mem List.nodup_range (List.mem_range.mpr inside)
    · apply List.count_eq_zero_of_not_mem
      rwa [List.mem_range]
  · intro block behind size
    have whole := proper.convertPairs_eq length size
    rw [converted.convertPairs_eq] at whole
    rw [converted.convertPairs_eq, stores_before, whole, Option.map_some]
    intro write member
    rw [indices, List.mem_range] at member
    rwa [size]

theorem frame_laid_out (width height : UInt32) (even : width.toNat % 2 = 0)
    (small : 3 * (width.toNat * height.toNat) < 2 ^ 32) (yuyv : List UInt8)
    (length : yuyv.length = 2 * (width.toNat * height.toNat)) :
    ∃ rgb rows, Touches width height yuyv rgb ∧ jpegRows rgb width height = some rows ∧
      LaidOut samples width.toNat height.toNat yuyv rows ∧
      ∀ other otherRows, other.length = yuyv.length →
        frameRows other width height = some otherRows →
          Local width.toNat height.toNat yuyv other rows otherRows := by
  have proper : Proper width height := ⟨even, small⟩
  refine ⟨_, _, touches_pixels proper length, proper.jpegRows_eq length_pixel,
    laidOut_pixelRows proper length, ?_⟩
  intro other otherRows same completed
  rw [proper.frameRows_eq (same.trans length)] at completed
  cases completed
  exact local_pixelRows even

theorem frame_laid_out_pair : ∃ rgb rows, Touches 2 1 [100, 90, 200, 160] rgb ∧
    jpegRows rgb 2 1 = some rows ∧ LaidOut samples 2 1 [100, 90, 200, 160] rows := by
  obtain ⟨rgb, rows, touches, made, laid, _⟩ :=
    frame_laid_out 2 1 (by decide) (by decide) [100, 90, 200, 160] rfl
  exact ⟨rgb, rows, touches, made, laid⟩

end Uvc
