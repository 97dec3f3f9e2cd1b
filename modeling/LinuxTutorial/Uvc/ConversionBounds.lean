import LinuxTutorial.Uvc.Conversion

set_option autoImplicit false

namespace Uvc

open Blocks

variable {width height : UInt32}

/-- For an input of 2 * width * height bytes, and an RGB block of 3 * width * height for jpeg. -/
structure InBounds (width height : UInt32) : Prop where
  yuyvReads : ∀ read, read ∈ yuyvReads width height → read < 2 * (width.toNat * height.toNat)
  yuyvWrites : ∀ write, write ∈ yuyvWrites width height → write < rgbSize width height
  jpegReads : ∀ read, read ∈ jpegReads width height → read < 3 * (width.toNat * height.toNat)
  jpegWrites : 0 < height.toNat → ∀ j, j < width.toNat →
    ∀ write, write ∈ sampleTargets j → write < rowSize width

-- What the model of the two functions makes of it: with such buffers both have a result.
def Completes (width height : UInt32) : Prop :=
  ∀ yuyv rgb : List UInt8, yuyv.length = 2 * (width.toNat * height.toNat) →
    rgb.length = 3 * (width.toNat * height.toNat) →
      (yuyv2rgb yuyv width height).isSome = true ∧ (jpegRows rgb width height).isSome = true

theorem inBounds_iff_isSome {yuyv rgb : List UInt8}
    (input : yuyv.length = 2 * (width.toNat * height.toNat))
    (block : rgb.length = 3 * (width.toNat * height.toNat)) :
    InBounds width height ↔
      (yuyv2rgb yuyv width height).isSome = true ∧ (jpegRows rgb width height).isSome = true := by
  rw [yuyv2rgb_isSome, jpegRows_isSome, input, block]
  constructor
  · intro bounds
    exact ⟨⟨bounds.yuyvReads, bounds.yuyvWrites⟩, bounds.jpegReads, bounds.jpegWrites⟩
  · rintro ⟨⟨reads, writes⟩, rowReads, rowWrites⟩
    exact ⟨reads, writes, rowReads, rowWrites⟩

theorem completes_iff_inBounds : Completes width height ↔ InBounds width height := by
  constructor
  · intro completes
    have input := List.length_replicate (n := 2 * (width.toNat * height.toNat)) (a := (0 : UInt8))
    have block := List.length_replicate (n := 3 * (width.toNat * height.toNat)) (a := (0 : UInt8))
    exact (inBounds_iff_isSome input block).mpr (completes _ _ input block)
  · intro bounds yuyv rgb input block
    exact (inBounds_iff_isSome input block).mp bounds

theorem area_lt (width height : UInt32) : width.toNat * height.toNat < 2 ^ 64 := by
  calc
    width.toNat * height.toNat < 2 ^ 32 * 2 ^ 32 :=
      Nat.mul_lt_mul'' width.toNat_lt height.toNat_lt
    _ = 2 ^ 64 := by norm_num

theorem width_pos (pixels : 0 < width.toNat * height.toNat) : 0 < width.toNat := by
  rcases Nat.eq_zero_or_pos width.toNat with none | positive
  · rw [none, Nat.zero_mul] at pixels
    exact absurd pixels (Nat.lt_irrefl 0)
  · exact positive

theorem mem_pairIndices {index : Nat} (inside : index < width.toNat * height.toNat)
    (even : index % width.toNat % 2 = 0) : index ∈ pairIndices width height := by
  have positive : 0 < width.toNat := width_pos (Nat.zero_lt_of_lt inside)
  have small := area_lt width height
  have column := Nat.mod_lt index positive
  have whole := Nat.div_add_mod' index width.toNat
  simp only [pairIndices, List.mem_flatMap, List.mem_map, List.mem_range]
  refine ⟨index / width.toNat, Nat.div_lt_of_lt_mul inside, index % width.toNat / 2, ?_, ?_⟩
  · omega
  · have pair : 2 * (index % width.toNat / 2) = index % width.toNat := by omega
    rw [pair, whole]
    omega

theorem mem_yuyvWrites {index : Nat} (pair : index ∈ pairIndices width height)
    (small : index * 3 + 5 < 2 ^ 64) : index * 3 + 5 ∈ yuyvWrites width height := by
  refine List.mem_flatMap.mpr ⟨index, pair, ?_⟩
  simp only [groupTargets, List.mem_cons]
  omega

theorem rgbSize_lt (width height : UInt32) : rgbSize width height < 2 ^ 32 := by
  rw [rgbSize_eq]
  omega

-- In a frame this large the first pair of some row is behind any block of 2^32 bytes, at an index
-- that does not wrap itself.
theorem large_writes_outside (large : 2 ^ 34 ≤ width.toNat * height.toNat) :
    ∃ write, write ∈ yuyvWrites width height ∧ rgbSize width height ≤ write := by
  have positive : 0 < width.toNat := width_pos (Nat.lt_of_lt_of_le (by norm_num) large)
  have bound := width.toNat_lt
  have size := rgbSize_lt width height
  have below := Nat.div_mul_le_self (2 ^ 32) width.toNat
  have above := Nat.lt_div_mul_add positive (a := 2 ^ 32)
  have nonzero : 0 < 2 ^ 32 / width.toNat := Nat.div_pos (by omega) positive
  have whole : width.toNat ≤ 2 ^ 32 / width.toNat * width.toNat := Nat.le_mul_of_pos_left _ nonzero
  have pair : 2 ^ 32 / width.toNat * width.toNat ∈ pairIndices width height := by
    apply mem_pairIndices
    · omega
    · rw [Nat.mul_mod_left]
  refine ⟨_, mem_yuyvWrites pair (by omega), ?_⟩
  omega

-- The last pair of an odd width is one pixel too long.
theorem odd_writes_outside (odd : width.toNat % 2 = 1) (rows : 0 < height.toNat)
    (few : width.toNat * height.toNat < 2 ^ 34) :
    ∃ write, write ∈ yuyvWrites width height ∧ rgbSize width height ≤ write := by
  have size := rgbSize_eq width height
  obtain ⟨before, same⟩ : ∃ before, height.toNat = before + 1 := ⟨height.toNat - 1, by omega⟩
  have area : width.toNat * height.toNat = width.toNat * before + width.toNat := by
    rw [same, Nat.mul_add, Nat.mul_one]
  have last : width.toNat * height.toNat - 1 = width.toNat * before + (width.toNat - 1) := by
    omega
  have column : (width.toNat * height.toNat - 1) % width.toNat = width.toNat - 1 := by
    rw [last, Nat.mul_add_mod, Nat.mod_eq_of_lt (by omega)]
  have pair : width.toNat * height.toNat - 1 ∈ pairIndices width height := by
    apply mem_pairIndices
    · omega
    · omega
  refine ⟨_, mem_yuyvWrites pair (by omega), ?_⟩
  omega

-- The last pair of an even width ends with the last byte, of which a wrapped size falls short.
theorem wrapped_writes_outside (even : width.toNat % 2 = 0)
    (wraps : 2 ^ 32 ≤ 3 * (width.toNat * height.toNat))
    (few : width.toNat * height.toNat < 2 ^ 34) :
    ∃ write, write ∈ yuyvWrites width height ∧ rgbSize width height ≤ write := by
  have size := rgbSize_lt width height
  have parity : width.toNat * height.toNat % 2 = 0 := by
    rw [Nat.mul_mod, even, Nat.zero_mul]
  have column : (width.toNat * height.toNat - 2) % width.toNat % 2 = 0 := by
    rw [Nat.mod_mod_of_dvd _ (Nat.dvd_of_mod_eq_zero even)]
    omega
  have pair : width.toNat * height.toNat - 2 ∈ pairIndices width height := by
    apply mem_pairIndices _ column
    omega
  refine ⟨_, mem_yuyvWrites pair (by omega), ?_⟩
  omega

theorem empty_pairIndices (empty : width.toNat = 0 ∨ height.toNat = 0) :
    pairIndices width height = [] := by
  rcases empty with none | none
  · simp [pairIndices, none]
  · simp [pairIndices, none]

theorem jpegReads_lt {read : Nat} (member : read ∈ jpegReads width height) :
    read < 3 * (width.toNat * height.toNat) := by
  simp only [jpegReads, List.mem_flatMap, List.mem_range] at member
  obtain ⟨i, row, j, column, member⟩ := member
  have rows : (i + 1) * width.toNat ≤ height.toNat * width.toNat := Nat.mul_le_mul_right _ row
  rw [Nat.succ_mul, Nat.mul_comm height.toNat] at rows
  simp only [sampleReads, List.mem_cons, List.not_mem_nil, or_false] at member
  omega

theorem jpegWrites_iff :
    (0 < height.toNat → ∀ j, j < width.toNat →
      ∀ write, write ∈ sampleTargets j → write < rowSize width) ↔
      width.toNat = 0 ∨ height.toNat = 0 ∨ 3 * width.toNat < 2 ^ 32 := by
  have size := rowSize_eq width
  constructor
  · intro inside
    by_contra outside
    have last := inside (by omega) (width.toNat - 1) (by omega) ((width.toNat - 1) * 3 + 2)
      (by simp [sampleTargets])
    omega
  · intro fits rows j column write member
    simp only [sampleTargets, List.mem_cons, List.not_mem_nil, or_false] at member
    omega

theorem inBounds_iff_even_and_unwrapped (width height : UInt32) :
    (Completes width height ↔ InBounds width height) ∧
      (InBounds width height ↔ width.toNat = 0 ∨ height.toNat = 0 ∨
        width.toNat % 2 = 0 ∧ 3 * (width.toNat * height.toNat) < 2 ^ 32) := by
  refine ⟨completes_iff_inBounds, ?_⟩
  constructor
  · intro bounds
    by_contra bad
    have outside : ∃ write, write ∈ yuyvWrites width height ∧ rgbSize width height ≤ write := by
      by_cases few : width.toNat * height.toNat < 2 ^ 34
      · by_cases even : width.toNat % 2 = 0
        · exact wrapped_writes_outside even (by omega) few
        · exact odd_writes_outside (by omega) (by omega) few
      · exact large_writes_outside (by omega)
    obtain ⟨write, member, beyond⟩ := outside
    have inside := bounds.yuyvWrites write member
    omega
  · intro good
    constructor
    · rcases good with none | none | ⟨even, small⟩
      · simp [yuyvReads, empty_pairIndices (.inl none)]
      · simp [yuyvReads, empty_pairIndices (.inr none)]
      · rw [Proper.reads ⟨even, small⟩]
        intro read member
        exact List.mem_range.mp member
    · rcases good with none | none | ⟨even, small⟩
      · simp [yuyvWrites, empty_pairIndices (.inl none)]
      · simp [yuyvWrites, empty_pairIndices (.inr none)]
      · rw [Proper.writes ⟨even, small⟩, Proper.rgbSize_eq ⟨even, small⟩]
        intro write member
        exact List.mem_range.mp member
    · intro read member
      exact jpegReads_lt member
    · apply jpegWrites_iff.mpr
      rcases good with none | none | ⟨even, small⟩
      · exact .inl none
      · exact .inr (.inl none)
      · by_cases rows : height.toNat = 0
        · exact .inr (.inl rows)
        · have area : width.toNat * 1 ≤ width.toNat * height.toNat :=
            Nat.mul_le_mul_left _ (by omega)
          omega

theorem one_pixel_outside : ¬ InBounds 1 1 := by
  intro bounds
  have read := bounds.yuyvReads 2 (by decide)
  have area : (1 : UInt32).toNat * (1 : UInt32).toNat = 1 := rfl
  omega

end Uvc
