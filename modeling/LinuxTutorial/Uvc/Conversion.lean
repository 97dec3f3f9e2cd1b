import LinuxTutorial.Shared.Blocks
import LinuxTutorial.Uvc.Yuyv

set_option autoImplicit false

namespace Uvc

open Blocks

def minmax (min v max : Int) : Int := if v < min then min else if max < v then max else v

def red (y v : Int) : UInt8 := UInt8.ofInt (minmax 0 ((y + 359 * v) >>> (8 : Nat)) 255)

def green (y u v : Int) : UInt8 := UInt8.ofInt (minmax 0 ((y + 88 * v - 183 * u) >>> (8 : Nat)) 255)

def blue (y u : Int) : UInt8 := UInt8.ofInt (minmax 0 ((y + 454 * u) >>> (8 : Nat)) 255)

-- calloc(width * height * 3, sizeof(uint8_t))
def rgbSize (width height : UInt32) : Nat := (width * height * 3).toNat

def groupTargets (index : Nat) : List Nat :=
  [(index * 3 + 0) % 2 ^ 64, (index * 3 + 1) % 2 ^ 64, (index * 3 + 2) % 2 ^ 64,
    (index * 3 + 3) % 2 ^ 64, (index * 3 + 4) % 2 ^ 64, (index * 3 + 5) % 2 ^ 64]

-- The body of the inner loop, for what it reads at `groupReads index`.
def groupWrites (index : Nat) : List UInt8 → List (Nat × UInt8)
  | [byte0, byte1, byte2, byte3] =>
    let y0 := (byte0.toNat : Int) <<< (8 : Nat)
    let u := (byte1.toNat : Int) - 128
    let y1 := (byte2.toNat : Int) <<< (8 : Nat)
    let v := (byte3.toNat : Int) - 128
    [((index * 3 + 0) % 2 ^ 64, red y0 v),
      ((index * 3 + 1) % 2 ^ 64, green y0 u v),
      ((index * 3 + 2) % 2 ^ 64, blue y0 u),
      ((index * 3 + 3) % 2 ^ 64, red y1 v),
      ((index * 3 + 4) % 2 ^ 64, green y1 u v),
      ((index * 3 + 5) % 2 ^ 64, blue y1 u)]
  | _ => []

def yuyvWrites (width height : UInt32) : List Nat :=
  (pairIndices width height).flatMap groupTargets

-- The loops of yuyv2rgb, over the block they fill; `none` where an index is outside its buffer.
def convertPairs (yuyv : List UInt8) (width height : UInt32) (rgb : List UInt8) :
    Option (List UInt8) :=
  transfer yuyv groupReads groupWrites (pairIndices width height) rgb

def yuyv2rgb (yuyv : List UInt8) (width height : UInt32) : Option (List UInt8) :=
  convertPairs yuyv width height (List.replicate (rgbSize width height) 0)

def pairStores (yuyv : List UInt8) (width height : UInt32) : Option (List (Nat × UInt8)) :=
  transferStores yuyv groupReads groupWrites (pairIndices width height)

-- calloc(width * 3, sizeof(JSAMPLE))
def rowSize (width : UInt32) : Nat := (width * 3).toNat

def sampleReads (width : UInt32) (i j : Nat) : List Nat :=
  [((i * width.toNat + j) * 3 + 0) % 2 ^ 64, ((i * width.toNat + j) * 3 + 1) % 2 ^ 64,
    ((i * width.toNat + j) * 3 + 2) % 2 ^ 64]

def sampleTargets (j : Nat) : List Nat := [j * 3 + 0, j * 3 + 1, j * 3 + 2]

def sampleWrites (j : Nat) (samples : List UInt8) : List (Nat × UInt8) :=
  (sampleTargets j).zip samples

def jpegReads (width height : UInt32) : List Nat :=
  (List.range height.toNat).flatMap fun i =>
    (List.range width.toNat).flatMap (sampleReads width i)

def jpegRow (rgb : List UInt8) (width : UInt32) (i : Nat) : Option (List UInt8) :=
  transfer rgb (sampleReads width i) sampleWrites (List.range width.toNat)
    (List.replicate (rowSize width) 0)

-- image, as it is given to jpeg_write_scanlines
def jpegRows (rgb : List UInt8) (width height : UInt32) : Option (List (List UInt8)) :=
  (List.range height.toNat).mapM (jpegRow rgb width)

def frameRows (yuyv : List UInt8) (width height : UInt32) : Option (List (List UInt8)) := do
  let rgb ← yuyv2rgb yuyv width height
  jpegRows rgb width height

def samples (y u v : UInt8) : List UInt8 :=
  [red ((y.toNat : Int) <<< (8 : Nat)) ((v.toNat : Int) - 128),
    green ((y.toNat : Int) <<< (8 : Nat)) ((u.toNat : Int) - 128) ((v.toNat : Int) - 128),
    blue ((y.toNat : Int) <<< (8 : Nat)) ((u.toNat : Int) - 128)]

-- Pixel k of a frame has its own luma, and the chroma of its pair.
def luma (yuyv : List UInt8) (k : Nat) : UInt8 := yuyv.getD (2 * k) 0

def chromaU (yuyv : List UInt8) (k : Nat) : UInt8 := yuyv.getD (2 * (k - k % 2) + 1) 0

def chromaV (yuyv : List UInt8) (k : Nat) : UInt8 := yuyv.getD (2 * (k - k % 2) + 3) 0

def pixel (yuyv : List UInt8) (k : Nat) : List UInt8 :=
  samples (luma yuyv k) (chromaU yuyv k) (chromaV yuyv k)

theorem groupWrites_targets {yuyv values : List UInt8} (index : Nat)
    (found : loads yuyv (groupReads index) = some values) :
    (groupWrites index values).map Prod.fst = groupTargets index := by
  have inside := (loads_isSome yuyv (groupReads index)).mp (by rw [found]; rfl)
  rw [loads_getD 0 inside] at found
  cases found
  rfl

theorem yuyv2rgb_isSome (yuyv : List UInt8) (width height : UInt32) :
    (yuyv2rgb yuyv width height).isSome = true ↔
      (∀ read, read ∈ yuyvReads width height → read < yuyv.length) ∧
        ∀ write, write ∈ yuyvWrites width height → write < rgbSize width height := by
  have bounds := transfer_isSome (fun index _ found => @groupWrites_targets yuyv _ index found)
    (pairIndices width height) (List.replicate (rgbSize width height) 0)
  rwa [List.length_replicate] at bounds

theorem convertPairs_congr {yuyv other : List UInt8} {width height : UInt32} (block : List UInt8)
    (same : ∀ read, read ∈ yuyvReads width height → yuyv[read]? = other[read]?) :
    convertPairs yuyv width height block = convertPairs other width height block :=
  transfer_congr block same

theorem sampleWrites_targets {rgb values : List UInt8} {width : UInt32} {i : Nat} (j : Nat)
    (found : loads rgb (sampleReads width i j) = some values) :
    (sampleWrites j values).map Prod.fst = sampleTargets j := by
  have inside := (loads_isSome rgb (sampleReads width i j)).mp (by rw [found]; rfl)
  rw [loads_getD 0 inside] at found
  cases found
  rfl

theorem jpegRows_isSome (rgb : List UInt8) (width height : UInt32) :
    (jpegRows rgb width height).isSome = true ↔
      (∀ read, read ∈ jpegReads width height → read < rgb.length) ∧
        (0 < height.toNat → ∀ j, j < width.toNat →
          ∀ write, write ∈ sampleTargets j → write < rowSize width) := by
  have row (i : Nat) : (jpegRow rgb width i).isSome = true ↔ _ :=
    transfer_isSome (fun j _ found => @sampleWrites_targets rgb _ width i j found)
      (List.range width.toNat) (List.replicate (rowSize width) 0)
  simp only [jpegRows, mapM_isSome, row, List.length_replicate, List.mem_range, jpegReads,
    List.mem_flatMap]
  constructor
  · intro rows
    constructor
    · rintro read ⟨i, inside, found⟩
      exact (rows i inside).1 read found
    · intro some j column write found
      exact (rows 0 some).2 write ⟨j, column, found⟩
  · rintro ⟨reads, writes⟩ i inside
    constructor
    · intro read found
      exact reads read ⟨i, inside, found⟩
    · rintro write ⟨j, column, found⟩
      exact writes (by omega) j column write found

theorem rgbSize_eq (width height : UInt32) :
    rgbSize width height = 3 * (width.toNat * height.toNat) % 2 ^ 32 := by
  simp only [rgbSize, UInt32.toNat_mul]
  generalize width.toNat * height.toNat = area
  have three : (3 : UInt32).toNat = 3 := rfl
  rw [three]
  omega

theorem rowSize_eq (width : UInt32) : rowSize width = 3 * width.toNat % 2 ^ 32 := by
  have three : (3 : UInt32).toNat = 3 := rfl
  rw [rowSize, UInt32.toNat_mul, three, Nat.mul_comm]

section Proper

/-- An even width, and a frame whose RGB bytes are counted without a wrap. -/
structure Proper (width height : UInt32) : Prop where
  even : width.toNat % 2 = 0
  small : 3 * (width.toNat * height.toNat) < 2 ^ 32

variable {width height : UInt32} {yuyv : List UInt8}

def pairCount (width height : UInt32) : Nat := height.toNat * (width.toNat / 2)

theorem Proper.area (proper : Proper width height) :
    width.toNat * height.toNat = 2 * pairCount width height := by
  have double : width.toNat = 2 * (width.toNat / 2) := by
    have even := proper.even
    omega
  calc
    width.toNat * height.toNat = 2 * (width.toNat / 2) * height.toNat := by rw [← double]
    _ = 2 * pairCount width height := by
      rw [pairCount]
      ring

theorem Proper.pairs (proper : Proper width height) :
    pairIndices width height = (List.range (pairCount width height)).map (2 * ·) := by
  have even := proper.even
  have small := proper.small
  have columns : (width.toNat + 1) / 2 = width.toNat / 2 := by omega
  rw [proper.area] at small
  rw [pairCount, List.map_eq_flatMap, ← flatMap_range_mul, pairIndices, columns]
  apply List.flatMap_congr
  intro i row
  rw [List.map_eq_flatMap]
  apply List.flatMap_congr
  intro pair column
  have rows : (i + 1) * (width.toNat / 2) ≤ pairCount width height :=
    Nat.mul_le_mul_right _ (List.mem_range.mp row)
  have start : i * width.toNat = 2 * (i * (width.toNat / 2)) := by
    calc
      i * width.toNat = i * (2 * (width.toNat / 2)) := by
        congr 1
        omega
      _ = 2 * (i * (width.toNat / 2)) := by ring
  have last := List.mem_range.mp column
  rw [Nat.succ_mul] at rows
  rw [start, Nat.mod_eq_of_lt (by omega), Nat.mul_add]

theorem groupReads_double {pair : Nat} (small : pair < 2 ^ 32) :
    groupReads (2 * pair) = [pair * 4 + 0, pair * 4 + 1, pair * 4 + 2, pair * 4 + 3] := by
  simp only [groupReads, List.cons.injEq, and_true]
  omega

theorem groupTargets_double {pair : Nat} (small : pair < 2 ^ 32) :
    groupTargets (2 * pair) = [pair * 6 + 0, pair * 6 + 1, pair * 6 + 2, pair * 6 + 3,
      pair * 6 + 4, pair * 6 + 5] := by
  simp only [groupTargets, List.cons.injEq, and_true]
  omega

theorem Proper.flatMap_pairs {size : Nat} {cells : Nat → List Nat} (proper : Proper width height)
    (consecutive : ∀ pair, pair < 2 ^ 32 →
      cells (2 * pair) = (List.range size).map (pair * size + ·)) :
    (pairIndices width height).flatMap cells = List.range (pairCount width height * size) := by
  have small := proper.small
  rw [proper.area] at small
  rw [proper.pairs, List.flatMap_map, ← range_mul]
  apply List.flatMap_congr
  intro pair inside
  have bound := List.mem_range.mp inside
  exact consecutive pair (by omega)

theorem Proper.reads (proper : Proper width height) :
    yuyvReads width height = List.range (2 * (width.toNat * height.toNat)) := by
  have bytes : 2 * (2 * pairCount width height) = pairCount width height * 4 := by ring
  rw [proper.area, bytes, yuyvReads]
  apply proper.flatMap_pairs
  intro pair small
  rw [groupReads_double small]
  rfl

theorem Proper.writes (proper : Proper width height) :
    yuyvWrites width height = List.range (3 * (width.toNat * height.toNat)) := by
  have bytes : 3 * (2 * pairCount width height) = pairCount width height * 6 := by ring
  rw [proper.area, bytes, yuyvWrites]
  apply proper.flatMap_pairs
  intro pair small
  rw [groupTargets_double small]
  rfl

theorem Proper.rgbSize_eq (proper : Proper width height) :
    rgbSize width height = 3 * (width.toNat * height.toNat) := by
  rw [Uvc.rgbSize_eq, Nat.mod_eq_of_lt proper.small]

theorem pixel_even (pair : Nat) :
    pixel yuyv (pair * 2 + 0) = samples (yuyv.getD (pair * 4 + 0) 0) (yuyv.getD (pair * 4 + 1) 0)
      (yuyv.getD (pair * 4 + 3) 0) := by
  have first : 2 * (pair * 2 + 0) = pair * 4 + 0 := by omega
  have start : 2 * (pair * 2 + 0 - (pair * 2 + 0) % 2) = pair * 4 := by omega
  rw [pixel, luma, chromaU, chromaV, first, start]

theorem pixel_odd (pair : Nat) :
    pixel yuyv (pair * 2 + 1) = samples (yuyv.getD (pair * 4 + 2) 0) (yuyv.getD (pair * 4 + 1) 0)
      (yuyv.getD (pair * 4 + 3) 0) := by
  have second : 2 * (pair * 2 + 1) = pair * 4 + 2 := by omega
  have start : 2 * (pair * 2 + 1 - (pair * 2 + 1) % 2) = pair * 4 := by omega
  rw [pixel, luma, chromaU, chromaV, second, start]

theorem length_pixel (k : Nat) : (pixel yuyv k).length = 3 := rfl

structure Converted (yuyv : List UInt8) (width height : UInt32)
    (stored : List (Nat × UInt8)) : Prop where
  made : pairStores yuyv width height = some stored
  indices : stored.map Prod.fst = yuyvWrites width height
  values : stored.map Prod.snd =
    (List.range (width.toNat * height.toNat)).flatMap (pixel yuyv)

theorem Proper.converted (proper : Proper width height)
    (length : yuyv.length = 2 * (width.toNat * height.toNat)) :
    ∃ stored, Converted yuyv width height stored := by
  have found : ∀ index, index ∈ pairIndices width height →
      loads yuyv (groupReads index) = some ((groupReads index).map (yuyv.getD · 0)) := by
    intro index member
    apply loads_getD
    intro read inside
    have reading : read ∈ yuyvReads width height := List.mem_flatMap.mpr ⟨index, member, inside⟩
    rw [proper.reads] at reading
    rw [length]
    exact List.mem_range.mp reading
  refine ⟨_, transferStores_eq found, ?_, ?_⟩
  · rw [List.map_flatMap]
    rfl
  · have small := proper.small
    rw [proper.area] at small
    rw [List.map_flatMap, proper.pairs, List.flatMap_map, proper.area, Nat.mul_comm 2,
      ← flatMap_range_mul]
    apply List.flatMap_congr
    intro pair inside
    have bound := List.mem_range.mp inside
    have halves : ((List.range 2).flatMap fun half => pixel yuyv (pair * 2 + half)) =
        pixel yuyv (pair * 2 + 0) ++ pixel yuyv (pair * 2 + 1) := rfl
    rw [groupReads_double (by omega), halves, pixel_even, pixel_odd]
    rfl

theorem Converted.convertPairs_eq {stored : List (Nat × UInt8)}
    (converted : Converted yuyv width height stored) (block : List UInt8) :
    convertPairs yuyv width height block = stores block stored := by
  have made := converted.made
  rw [pairStores] at made
  rw [convertPairs, transfer_eq_bind, made, Option.bind_some]

theorem Proper.convertPairs_eq {block : List UInt8} (proper : Proper width height)
    (length : yuyv.length = 2 * (width.toNat * height.toNat))
    (size : block.length = 3 * (width.toNat * height.toNat)) :
    convertPairs yuyv width height block =
      some ((List.range (width.toNat * height.toNat)).flatMap (pixel yuyv)) := by
  obtain ⟨stored, converted⟩ := proper.converted length
  rw [converted.convertPairs_eq, stores_range, converted.values]
  rw [converted.indices, proper.writes, size]

theorem Proper.yuyv2rgb_eq (proper : Proper width height)
    (length : yuyv.length = 2 * (width.toNat * height.toNat)) :
    yuyv2rgb yuyv width height =
      some ((List.range (width.toNat * height.toNat)).flatMap (pixel yuyv)) := by
  apply proper.convertPairs_eq length
  rw [List.length_replicate, proper.rgbSize_eq]

theorem Proper.rowSize_eq (proper : Proper width height) (rows : 0 < height.toNat) :
    rowSize width = width.toNat * 3 := by
  have area : width.toNat * 1 ≤ width.toNat * height.toNat := Nat.mul_le_mul_left _ rows
  have small := proper.small
  rw [Uvc.rowSize_eq, Nat.mod_eq_of_lt (by omega), Nat.mul_comm]

theorem Proper.jpegRow_eq {cell : Nat → List UInt8} (proper : Proper width height)
    (sizes : ∀ k, (cell k).length = 3) {i : Nat} (row : i < height.toNat) :
    jpegRow ((List.range (width.toNat * height.toNat)).flatMap cell) width i =
      some ((List.range width.toNat).flatMap fun j => cell (i * width.toNat + j)) := by
  have small := proper.small
  have rows : (i + 1) * width.toNat ≤ height.toNat * width.toNat := Nat.mul_le_mul_right _ row
  rw [Nat.succ_mul, Nat.mul_comm height.toNat] at rows
  have found : ∀ j, j ∈ List.range width.toNat →
      loads ((List.range (width.toNat * height.toNat)).flatMap cell) (sampleReads width i j) =
        some (cell (i * width.toNat + j)) := by
    intro j inside
    have column := List.mem_range.mp inside
    have reads : sampleReads width i j = [(i * width.toNat + j) * 3 + 0,
        (i * width.toNat + j) * 3 + 1, (i * width.toNat + j) * 3 + 2] := by
      simp only [sampleReads, List.cons.injEq, and_true]
      omega
    have before : i * width.toNat + j < width.toNat * height.toNat := by omega
    obtain ⟨one, two, three, same⟩ := List.length_eq_three.mp (sizes (i * width.toNat + j))
    have first := getElem?_flatMap_range sizes before (show 0 < 3 by omega)
    have second := getElem?_flatMap_range sizes before (show 1 < 3 by omega)
    have third := getElem?_flatMap_range sizes before (show 2 < 3 by omega)
    simp only [reads, loads, first, second, third, same]
    rfl
  have targets (j : Nat) (k : Nat) : (sampleWrites j (cell k)).map Prod.fst = sampleTargets j := by
    apply List.map_fst_zip
    rw [sizes]
    rfl
  have values (j : Nat) (k : Nat) : (sampleWrites j (cell k)).map Prod.snd = cell k := by
    apply List.map_snd_zip
    rw [sizes]
    rfl
  rw [jpegRow, transfer_eq_stores _ found, stores_range, List.map_flatMap]
  · simp only [values]
  · rw [List.map_flatMap, List.length_replicate, proper.rowSize_eq (by omega), ← range_mul]
    simp only [targets]
    rfl

theorem Proper.jpegRows_eq {cell : Nat → List UInt8} (proper : Proper width height)
    (sizes : ∀ k, (cell k).length = 3) :
    jpegRows ((List.range (width.toNat * height.toNat)).flatMap cell) width height =
      some ((List.range height.toNat).map fun i =>
        (List.range width.toNat).flatMap fun j => cell (i * width.toNat + j)) := by
  apply mapM_eq_map
  intro i inside
  exact proper.jpegRow_eq sizes (List.mem_range.mp inside)

theorem Proper.frameRows_eq (proper : Proper width height)
    (length : yuyv.length = 2 * (width.toNat * height.toNat)) :
    frameRows yuyv width height = some ((List.range height.toNat).map fun i =>
      (List.range width.toNat).flatMap fun j => pixel yuyv (i * width.toNat + j)) := by
  rw [frameRows, proper.yuyv2rgb_eq length]
  exact proper.jpegRows_eq length_pixel

end Proper

end Uvc
