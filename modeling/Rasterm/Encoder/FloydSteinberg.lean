import Mathlib.Algebra.Order.Ring.Int
import Rasterm.Encoder.Mapping
import Rasterm.Library.Sweep

/-!
Contract: `applyFloydSteinberg` leaves an image on the grid of its levels, and images
on the grid alone.

Owns the quantizer on its own values, the scan as one pass over the bytes of the image,
and the `int` expressions of the function.

Does not own how the error is shared out; any shares would do.
-/

set_option autoImplicit false

namespace Rasterm

open Rows

/-! ### The quantizer -/

/-- One of the values of a channel at a number of levels. -/
def OnGrid (levels : Int) (value : UInt8) : Prop :=
  ∃ quantized : Int, 0 ≤ quantized ∧ quantized < levels ∧
    (value.toNat : Int) = (quantized * 255).tdiv (levels - 1)

theorem quantizeChannel_bounds {levels : Int} (atLeast : 2 ≤ levels) (channel : UInt8) :
    0 ≤ quantizeChannel channel levels ∧ quantizeChannel channel levels < levels := by
  have byte := channel.toNat_lt
  have scaled : (channel.toNat : Int) * (levels - 1) ≤ 255 * (levels - 1) :=
    mul_le_mul_of_nonneg_right (by omega) (by omega)
  have nonneg : 0 ≤ (channel.toNat : Int) * (levels - 1) := mul_nonneg (by omega) (by omega)
  rw [quantizeChannel, if_neg (by omega), Int.tdiv_eq_ediv_of_nonneg (by omega)]
  constructor
  · exact Int.ediv_nonneg (by omega) (by omega)
  · omega

/-- The value of a level is a byte. -/
theorem gridValue_bounds {levels quantized : Int} (atLeast : 2 ≤ levels) (nonneg : 0 ≤ quantized)
    (below : quantized < levels) :
    0 ≤ (quantized * 255).tdiv (levels - 1) ∧ (quantized * 255).tdiv (levels - 1) ≤ 255 := by
  rw [Int.tdiv_eq_ediv_of_nonneg (by omega)]
  constructor
  · exact Int.ediv_nonneg (by omega) (by omega)
  · apply Int.ediv_le_of_le_mul (by omega)
    have scaled : quantized * 255 ≤ (levels - 1) * 255 :=
      mul_le_mul_of_nonneg_right (by omega) (by omega)
    rw [mul_comm 255]
    exact scaled

theorem toNat_byteOf {value : Int} (nonneg : 0 ≤ value) (le : value ≤ 255) :
    ((byteOf value).toNat : Int) = value := by
  rw [byteOf, UInt8.toNat_ofNat', Int.emod_eq_of_lt nonneg (by omega)]
  omega

theorem quantizedValue_bounds {levels : Int} (atLeast : 2 ≤ levels) (value : UInt8) :
    0 ≤ quantizedValue levels value ∧ quantizedValue levels value ≤ 255 := by
  obtain ⟨nonneg, below⟩ := quantizeChannel_bounds atLeast value
  rw [quantizedValue, if_pos (by omega)]
  exact gridValue_bounds atLeast nonneg below

theorem onGrid_quantizedValue {levels : Int} (atLeast : 2 ≤ levels) (value : UInt8) :
    OnGrid levels (byteOf (quantizedValue levels value)) := by
  obtain ⟨nonneg, le⟩ := quantizedValue_bounds atLeast value
  obtain ⟨quantizedNonneg, below⟩ := quantizeChannel_bounds atLeast value
  refine ⟨quantizeChannel value levels, quantizedNonneg, below, ?_⟩
  rw [toNat_byteOf nonneg le, quantizedValue, if_pos (by omega)]

/-- The quantizer finds the level of a value on the grid: rounding down to the value loses less
than one of `levels - 1` parts, and the 127 added make up for that up to 128 parts. -/
theorem quantizedValue_of_onGrid {levels : Int} (atLeast : 2 ≤ levels) (atMost : levels ≤ 129)
    {value : UInt8} (onGrid : OnGrid levels value) :
    quantizedValue levels value = value.toNat := by
  obtain ⟨quantized, nonneg, below, valueEq⟩ := onGrid
  have parts : 0 < levels - 1 := by omega
  have level : quantizeChannel value levels = quantized := by
    have scaledNonneg : 0 ≤ quantized * 255 := by omega
    rw [Int.tdiv_eq_ediv_of_nonneg scaledNonneg] at valueEq
    have rounded := Int.ediv_mul_le (quantized * 255) (show levels - 1 ≠ 0 by omega)
    have close := Int.lt_ediv_add_one_mul_self (quantized * 255) parts
    rw [← valueEq] at rounded close
    rw [add_mul, one_mul] at close
    have scaledValue : 0 ≤ (value.toNat : Int) * (levels - 1) :=
      mul_nonneg (by omega) (by omega)
    rw [quantizeChannel, if_neg (by omega), Int.tdiv_eq_ediv_of_nonneg (by omega)]
    omega
  rw [quantizedValue, if_pos (by omega), level, valueEq]

/-! ### One channel -/

theorem clampChannel_bounds (value : Int) : 0 ≤ clampChannel value ∧ clampChannel value ≤ 255 := by
  unfold clampChannel
  omega

theorem adjust_of_ne (pixels : Memory) {offset other : Nat} (error : Int) (different : other ≠ offset) :
    adjust pixels offset error other = pixels other :=
  Function.update_of_ne different _ _

/-- What is added to a byte is clamped, and stored as it is. -/
theorem adjust_self (pixels : Memory) (offset : Nat) (error : Int) :
    ((adjust pixels offset error offset).toNat : Int) =
      clampChannel ((pixels offset).toNat + error) := by
  obtain ⟨nonneg, le⟩ := clampChannel_bounds ((pixels offset).toNat + error)
  rw [adjust, Function.update_self, toNat_byteOf nonneg le]

theorem byteOf_toNat (value : UInt8) : byteOf value.toNat = value := by
  have byte := value.toNat_lt
  apply UInt8.toNat_inj.mp
  have same : ((byteOf value.toNat).toNat : Int) = value.toNat := toNat_byteOf (by omega) (by omega)
  omega

theorem adjust_zero (pixels : Memory) (offset : Nat) : adjust pixels offset 0 = pixels := by
  have byte := (pixels offset).toNat_lt
  have kept : clampChannel ((pixels offset).toNat + 0) = (pixels offset).toNat := by
    unfold clampChannel
    omega
  rw [adjust, kept, byteOf_toNat, Function.update_eq_self]

section Diffuse

variable {levels : Int} {width height x y channel : Nat}

/-- The neighbours that get a share of the error come later. -/
theorem diffuse_of_lt (pixels : Memory) (column : x < width) {earlier : Nat}
    (before : earlier < y * (width * 3) + x * 3 + channel) :
    diffuse levels width height x y channel pixels earlier = pixels earlier := by
  have own : Function.update pixels (y * (width * 3) + x * 3 + channel)
      (byteOf (quantizedValue levels (pixels (y * (width * 3) + x * 3 + channel)))) earlier =
      pixels earlier :=
    Function.update_of_ne (by omega) _ _
  unfold diffuse
  dsimp only
  split_ifs <;> repeat rw [adjust_of_ne _ _ (by omega)]
  all_goals exact own

theorem diffuse_self (pixels : Memory) (column : x < width) :
    diffuse levels width height x y channel pixels (y * (width * 3) + x * 3 + channel) =
      byteOf (quantizedValue levels (pixels (y * (width * 3) + x * 3 + channel))) := by
  unfold diffuse
  dsimp only
  split_ifs <;> repeat rw [adjust_of_ne _ _ (by omega)]
  all_goals exact Function.update_self _ _ _

/-- A channel on the grid has no error to pass on. -/
theorem diffuse_of_onGrid (pixels : Memory) (atLeast : 2 ≤ levels) (atMost : levels ≤ 129)
    (onGrid : OnGrid levels (pixels (y * (width * 3) + x * 3 + channel))) :
    diffuse levels width height x y channel pixels = pixels := by
  have fixed := quantizedValue_of_onGrid atLeast atMost onGrid
  unfold diffuse
  dsimp only
  rw [fixed, byteOf_toNat, Function.update_eq_self, Int.sub_self]
  have none : ((0 : Int) * 7).tdiv 16 = 0 ∧ ((0 : Int) * 5).tdiv 16 = 0 ∧
      ((0 : Int) * 3).tdiv 16 = 0 := by decide
  rw [none.1, none.2.1, none.2.2]
  simp only [Int.sub_self, adjust_zero, ite_self]

end Diffuse

/-! ### The scan -/

/-- The step of the scan at one byte of the image. -/
def diffuseAt (levels : Int) (width height index : Nat) (pixels : Memory) : Memory :=
  diffuse levels width height (index / 3 % width) (index / 3 / width) (index % 3) pixels

/-- Where a byte of the image is. -/
theorem offset_of_index {width height index : Nat} (inside : index < height * width * 3) :
    index / 3 % width < width ∧
      index / 3 / width * (width * 3) + index / 3 % width * 3 + index % 3 = index := by
  have positive : 0 < width := by
    rcases Nat.eq_zero_or_pos width with zero | positive
    · rw [zero, Nat.mul_zero, Nat.zero_mul] at inside
      exact absurd inside (Nat.not_lt_zero _)
    · exact positive
  refine ⟨Nat.mod_lt _ positive, ?_⟩
  have pixel := Nat.div_add_mod (index / 3) width
  have byte := Nat.div_add_mod index 3
  have scaled : index / 3 / width * (width * 3) = 3 * (width * (index / 3 / width)) := by ring
  rw [scaled]
  omega

theorem foldl_range_mul {State : Type} (size : Nat) (step : Nat → State → State) (count : Nat)
    (state : State) :
    (List.range count).foldl
        (fun state index =>
          (List.range size).foldl (fun state part => step (index * size + part) state) state)
        state =
      (List.range (count * size)).foldl (fun state index => step index state) state := by
  induction count with
  | zero => rw [Nat.zero_mul]; rfl
  | succ count inductionHypothesis =>
      rw [List.range_succ, List.foldl_append, inductionHypothesis, Nat.succ_mul, List.range_add,
        List.foldl_append, List.foldl_map]
      rfl

/-- Positions row by row are the indices of one pass. -/
theorem layRows_positions (width height : Nat) :
    layRows (fun x y => (x, y)) width height =
      (List.range (height * width)).map fun index => (index % width, index / width) := by
  induction height with
  | zero => simp [layRows]
  | succ height inductionHypothesis =>
      rw [layRows_succ, inductionHypothesis, Nat.succ_mul, List.range_add, List.map_append,
        List.map_map]
      congr 1
      apply List.map_congr_left
      intro column member
      have inside := List.mem_range.mp member
      have positive : 0 < width := by omega
      change (column, height) = ((height * width + column) % width, (height * width + column) / width)
      rw [Nat.mul_add_mod', Nat.mod_eq_of_lt inside, Nat.add_comm, Nat.add_mul_div_right _ _ positive,
        Nat.div_eq_of_lt inside, Nat.zero_add]

/-- The image is scanned byte by byte. -/
theorem applyFloydSteinberg_eq_upTo (pixels : Memory) (width height : Nat) (levels : Int) :
    applyFloydSteinberg pixels width height levels =
      Sweep.upTo (diffuseAt levels width height) pixels (height * width * 3) := by
  rw [Sweep.upTo_eq_foldl, ← foldl_range_mul, applyFloydSteinberg, layRows_positions,
    List.foldl_map]
  apply List.foldl_ext
  intro pixels index _
  apply List.foldl_ext
  intro pixels channel member
  have inside := List.mem_range.mp member
  have pixel : (index * 3 + channel) / 3 = index := by omega
  have byte : (index * 3 + channel) % 3 = channel := by omega
  rw [diffuseAt, pixel, byte]

/-! ### Expressions of type `int` -/

/-- `error` of a channel. -/
def channelError (levels : Int) (old : UInt8) : Int := old.toNat - quantizedValue levels old

/-- `error7`, `error5`, `error3` and `error1`. -/
def errorShares (levels : Int) (old : UInt8) : List Int :=
  let error := channelError levels old
  let error7 := (error * 7).tdiv 16
  let error5 := (error * 5).tdiv 16
  let error3 := (error * 3).tdiv 16
  [error7, error5, error3, error - error7 - error5 - error3]

/-- What `applyFloydSteinberg` evaluates as an `int`. -/
inductive FloydSteinbergInt (width height : Nat) (levels : Int) : Int → Prop where
  | parts : FloydSteinbergInt width height levels (levels - 1)
  | weighted (channel : UInt8) :
      FloydSteinbergInt width height levels (channel.toNat * (levels - 1))
  | rounded (channel : UInt8) :
      FloydSteinbergInt width height levels (channel.toNat * (levels - 1) + 127)
  | scaled (channel : UInt8) :
      FloydSteinbergInt width height levels (quantizeChannel channel levels * 255)
  | stride : FloydSteinbergInt width height levels (width * 3)
  | nextRow {y : Nat} (row : y < height) : FloydSteinbergInt width height levels (y + 1)
  | nextColumn {x : Nat} (column : x < width) (rows : 0 < height) :
      FloydSteinbergInt width height levels (x + 1)
  | offset {x channel : Nat} (column : x < width) (rows : 0 < height) (part : channel < 3) :
      FloydSteinbergInt width height levels (x * 3 + channel)
  | right {x channel : Nat} (column : x + 1 < width) (rows : 0 < height) (part : channel < 3) :
      FloydSteinbergInt width height levels (x * 3 + channel + 3)
  | left {x channel : Nat} (column : x < width) (first : 0 < x) (rows : 0 < height)
      (part : channel < 3) : FloydSteinbergInt width height levels (x * 3 + channel - 3)
  | product (old : UInt8) {factor : Int} (known : factor = 1 ∨ factor = 7 ∨ factor = 5 ∨ factor = 3) :
      FloydSteinbergInt width height levels (channelError levels old * factor)
  | remainder (old : UInt8) {first second : Int} (firstShared : first ∈ errorShares levels old)
      (secondShared : second = 0 ∨ second ∈ errorShares levels old) :
      FloydSteinbergInt width height levels (channelError levels old - first - second)
  | sum (held old : UInt8) {share : Int} (shared : share ∈ errorShares levels old) :
      FloydSteinbergInt width height levels (held.toNat + share)

theorem channelError_bounds {levels : Int} (atLeast : 2 ≤ levels) (old : UInt8) :
    -255 ≤ channelError levels old ∧ channelError levels old ≤ 255 := by
  have byte := old.toNat_lt
  have bounds := quantizedValue_bounds atLeast old
  unfold channelError
  omega

theorem tdiv_bounds {value bound : Int} (divisor : Int) (bounds : -bound ≤ value ∧ value ≤ bound) :
    -bound ≤ value.tdiv divisor ∧ value.tdiv divisor ≤ bound := by
  have size : (value.tdiv divisor).natAbs ≤ value.natAbs := by
    rw [Int.natAbs_tdiv]
    exact Nat.div_le_self _ _
  omega

theorem errorShares_bounds {levels : Int} (atLeast : 2 ≤ levels) (old : UInt8) :
    ∀ share ∈ errorShares levels old, -5000 ≤ share ∧ share ≤ 5000 := by
  have bounds := channelError_bounds atLeast old
  have share7 := tdiv_bounds 16 (show -1785 ≤ channelError levels old * 7 ∧
    channelError levels old * 7 ≤ 1785 by omega)
  have share5 := tdiv_bounds 16 (show -1275 ≤ channelError levels old * 5 ∧
    channelError levels old * 5 ≤ 1275 by omega)
  have share3 := tdiv_bounds 16 (show -765 ≤ channelError levels old * 3 ∧
    channelError levels old * 3 ≤ 765 by omega)
  unfold errorShares
  dsimp only
  intro share member
  simp only [List.mem_cons, List.not_mem_nil, or_false] at member
  rcases member with rfl | rfl | rfl | rfl <;> omega

/-- Only the bytes of a row can be too many. -/
theorem inInt_of_rowBytes {width height : Nat} {levels value : Int} (atLeast : 2 ≤ levels)
    (atMost : levels ≤ 129) (heightInt : (height : Int) ≤ intMax)
    (rowBytes : (width : Int) * 3 ≤ intMax) (evaluated : FloydSteinbergInt width height levels value) :
    InInt value := by
  unfold InInt
  unfold intMax at *
  cases evaluated with
  | weighted channel =>
      have byte := channel.toNat_lt
      have nonneg : 0 ≤ (channel.toNat : Int) * (levels - 1) := mul_nonneg (by omega) (by omega)
      have scaled : (channel.toNat : Int) * (levels - 1) ≤ 255 * (levels - 1) :=
        mul_le_mul_of_nonneg_right (by omega) (by omega)
      omega
  | rounded channel =>
      have byte := channel.toNat_lt
      have nonneg : 0 ≤ (channel.toNat : Int) * (levels - 1) := mul_nonneg (by omega) (by omega)
      have scaled : (channel.toNat : Int) * (levels - 1) ≤ 255 * (levels - 1) :=
        mul_le_mul_of_nonneg_right (by omega) (by omega)
      omega
  | scaled channel =>
      have bounds := quantizeChannel_bounds atLeast channel
      omega
  | product old known =>
      have bounds := channelError_bounds atLeast old
      rcases known with rfl | rfl | rfl | rfl <;> omega
  | remainder old firstShared secondShared =>
      have bounds := channelError_bounds atLeast old
      have first := errorShares_bounds atLeast old _ firstShared
      rcases secondShared with rfl | secondShared
      · omega
      · have second := errorShares_bounds atLeast old _ secondShared
        omega
  | sum held old shared =>
      have byte := held.toNat_lt
      have bounds := errorShares_bounds atLeast old _ shared
      omega
  | _ => omega

/-! ### Images -/

/-- Bytes with the dimensions of an image, as `int`s. -/
structure RgbImage where
  pixels : Memory
  width : Nat
  height : Nat
  width_le : (width : Int) ≤ intMax
  height_le : (height : Int) ≤ intMax

/-- The number of bytes. -/
def RgbImage.size (image : RgbImage) : Nat := image.height * image.width * 3

def RgbImage.dithered (image : RgbImage) (levels : Int) : Memory :=
  applyFloydSteinberg image.pixels image.width image.height levels

/-- `applyFloydSteinberg` runs without overflow, ends on the grid, leaves images on the grid
alone, stores every value it computes as it is, and does not change a byte it has quantized. -/
structure DithersCorrectly (image : RgbImage) (levels : Int) : Prop where
  defined : ∀ value, FloydSteinbergInt image.width image.height levels value → InInt value
  onGrid : ∀ index < image.size, OnGrid levels (image.dithered levels index)
  fixes : (∀ index < image.size, OnGrid levels (image.pixels index)) →
    image.dithered levels = image.pixels
  idempotent : applyFloydSteinberg (image.dithered levels) image.width image.height levels =
    image.dithered levels
  quantized : ∀ value, ((byteOf (quantizedValue levels value)).toNat : Int) =
    quantizedValue levels value
  clamped : ∀ pixels offset error, ((adjust pixels offset error offset).toNat : Int) =
      clampChannel ((pixels offset).toNat + error) ∧
    0 ≤ clampChannel ((pixels offset).toNat + error) ∧
    clampChannel ((pixels offset).toNat + error) ≤ 255
  scanned : image.dithered levels =
    Sweep.upTo (diffuseAt levels image.width image.height) image.pixels image.size
  settled : ∀ count later, count ≤ later → later ≤ image.size → ∀ index < count,
    Sweep.upTo (diffuseAt levels image.width image.height) image.pixels later index =
      Sweep.upTo (diffuseAt levels image.width image.height) image.pixels count index

namespace DithersCorrectly

variable {levels : Int} {width height : Nat}

theorem forward (levels : Int) (width height : Nat) :
    Sweep.Forward (diffuseAt levels width height) (height * width * 3) := by
  intro index inside pixels earlier before
  obtain ⟨column, offset⟩ := offset_of_index inside
  exact diffuse_of_lt pixels column (by omega)

theorem establishes (atLeast : 2 ≤ levels) :
    Sweep.Establishes (diffuseAt levels width height) (height * width * 3) (OnGrid levels) := by
  intro index inside pixels
  obtain ⟨column, offset⟩ := offset_of_index inside
  have own : diffuse levels width height (index / 3 % width) (index / 3 / width) (index % 3) pixels
      (index / 3 / width * (width * 3) + index / 3 % width * 3 + index % 3) = _ :=
    diffuse_self pixels column
  rw [offset] at own
  rw [diffuseAt, own]
  exact onGrid_quantizedValue atLeast _

theorem idle (atLeast : 2 ≤ levels) (atMost : levels ≤ 129) :
    Sweep.Idle (diffuseAt levels width height) (height * width * 3) (OnGrid levels) := by
  intro index inside pixels onGrid
  obtain ⟨column, offset⟩ := offset_of_index inside
  apply diffuse_of_onGrid pixels atLeast atMost
  rw [offset]
  exact onGrid

end DithersCorrectly

/-- The function is right exactly when the bytes of a row can be counted in an `int`. -/
theorem dithersCorrectly_iff (image : RgbImage) {levels : Int} (atLeast : 2 ≤ levels)
    (atMost : levels ≤ 129) : DithersCorrectly image levels ↔ (image.width : Int) * 3 ≤ intMax := by
  constructor
  · intro correct
    exact (correct.defined _ .stride).2
  · intro rowBytes
    have scanned := applyFloydSteinberg_eq_upTo image.pixels image.width image.height levels
    have forward := DithersCorrectly.forward levels image.width image.height
    have establishes : Sweep.Establishes (diffuseAt levels image.width image.height) image.size
        (OnGrid levels) :=
      DithersCorrectly.establishes atLeast
    have idle : Sweep.Idle (diffuseAt levels image.width image.height) image.size
        (OnGrid levels) :=
      DithersCorrectly.idle atLeast atMost
    refine ⟨?_, ?_, ?_, ?_, ?_, ?_, scanned, ?_⟩
    · exact fun value evaluated =>
        inInt_of_rowBytes atLeast atMost image.height_le rowBytes evaluated
    · intro index inside
      rw [RgbImage.dithered, scanned]
      exact Sweep.establishes forward establishes image.pixels (Nat.le_refl _) inside
    · intro onGrid
      rw [RgbImage.dithered, scanned]
      exact Sweep.fixes idle onGrid (Nat.le_refl _)
    · rw [RgbImage.dithered, applyFloydSteinberg_eq_upTo, scanned]
      exact Sweep.idempotent forward establishes idle image.pixels
    · intro value
      obtain ⟨nonneg, le⟩ := quantizedValue_bounds atLeast value
      exact toNat_byteOf nonneg le
    · intro pixels offset error
      exact ⟨adjust_self pixels offset error, clampChannel_bounds _⟩
    · intro count later order inside index done
      exact Sweep.settled forward image.pixels order inside done

/-- Two pixels of one colour, two rows, six levels. -/
theorem dithersCorrectly_small :
    DithersCorrectly ⟨fun _ => 100, 2, 2, by decide, by decide⟩ 6 :=
  (dithersCorrectly_iff ⟨fun _ => 100, 2, 2, by decide, by decide⟩ (by decide) (by decide)).mpr
    (by decide)

/-- In a row of 715827883 pixels the number of bytes overflows. -/
theorem overflow_of_wideRow :
    ¬ DithersCorrectly ⟨fun _ => 0, 715827883, 1, by decide, by decide⟩ 6 := by
  intro correct
  have stride := (correct.defined _ .stride).2
  exact absurd stride (by decide)

end Rasterm
