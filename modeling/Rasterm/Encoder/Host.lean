import Mathlib.Data.List.Sort
import Rasterm.Frame.Metadata
import Rasterm.Frame.Pixel

/-!
Contract: what the library takes from its host and never from its own logic:
which vector instructions are on, the iteration order of a hash map, the order in
which a sort leaves equal keys, and the values of its floating-point formulas.

Every floating-point formula is a parameter that sees exactly the values the
code feeds it; only its integer result or comparison enters the model.
-/

set_option autoImplicit false

namespace Rasterm

/-- Luminance bins of the sampled pixels, before division by the sample count. -/
structure Histogram where
  bins : List Nat := List.replicate 16 0
  samples : Nat := 0
deriving DecidableEq, Repr, Inhabited

inductive SimdMode where
  | scalar | avx2 | avx512
deriving DecidableEq, Repr

/-- Rectangles are sorted by row, then by column. -/
def DamageRect.Precedes (left right : DamageRect) : Prop :=
  left.y < right.y ∨ left.y = right.y ∧ left.x ≤ right.x

instance (left right : DamageRect) : Decidable (left.Precedes right) := by
  unfold DamageRect.Precedes
  infer_instance

instance : Std.Total DamageRect.Precedes where
  total left right := by
    unfold DamageRect.Precedes
    omega

instance : IsTrans DamageRect DamageRect.Precedes where
  trans first second third := by
    unfold DamageRect.Precedes
    omega

structure Host where
  hasSse2 : Bool
  /-- What `sixelAvx512Enabled` and `sixelAvx2Enabled` select. -/
  simdMode : SimdMode
  /-- Iteration order of a map, given every key it has held and its entries. -/
  iterate : List UInt32 → List (UInt32 × Nat) → List (UInt32 × Nat)
  iterate_perm : ∀ touched entries, (iterate touched entries).Perm entries
  /-- `std::sort` of rectangles; equal keys may come in any order. -/
  sortRegions : List DamageRect → List DamageRect
  sortRegions_perm : ∀ regions, (sortRegions regions).Perm regions
  sortRegions_sorted : ∀ regions, (sortRegions regions).Pairwise DamageRect.Precedes
  hslColor : Nat → Rat → Rat → UInt32
  /-- Oklab distance used for the fixed lookup table. -/
  fixedDistance : UInt32 → UInt32 → Rat
  /-- Oklab distance used for the adaptive lookup table. -/
  adaptiveDistance : UInt32 → UInt32 → Rat
  /-- `lround(channel + offset)` for one entry of the Bayer matrix. -/
  orderedDither : UInt8 → Nat → Int → Int
  /-- Half the sum of the absolute differences of two normalized histograms. -/
  histogramDistance : Histogram → Histogram → Rat
  /-- `changedPixels / area >= threshold`. -/
  changedRatioReaches : Nat → Nat → Rat → Bool
  /-- `changedArea >= frameArea * threshold`. -/
  areaReaches : Int → Int → Rat → Bool
  /-- One pixel converted to sRGB, through the transfer table or through primaries and
  tone mapping. -/
  convertPixel : ColorMetadata → ColorOptions → PixelChannels → PixelChannels

namespace Host

/-- Squared distance of two colours, channel by channel. -/
def squaredDistance (left right : UInt32) : Rat :=
  let difference (shift : UInt32) : Rat :=
    (((left >>> shift) &&& 0xff).toNat : Rat) - ((right >>> shift) &&& 0xff).toNat
  difference 16 ^ 2 + difference 8 ^ 2 + difference 0 ^ 2

/-- A scalar host with exact ratios, plain channel distances and no colour management. -/
def plain : Host where
  hasSse2 := false
  simdMode := .scalar
  iterate := fun _ entries => entries
  iterate_perm := fun _ _ => List.Perm.refl _
  sortRegions := List.insertionSort DamageRect.Precedes
  sortRegions_perm := fun regions => List.perm_insertionSort _ regions
  sortRegions_sorted := fun regions => List.pairwise_insertionSort _ regions
  hslColor := fun _ _ lightness => UInt32.ofNat (lightness * 255).floor.toNat * 0x010101
  fixedDistance := squaredDistance
  adaptiveDistance := squaredDistance
  orderedDither := fun channel threshold levels =>
    (channel.toNat : Int) + (2 * (threshold : Int) - 15) * 255 / (32 * max 1 (levels - 1))
  histogramDistance := fun left right =>
    let share (count samples : Nat) : Rat := (count : Rat) / samples
    (List.zipWith (fun first second =>
        max (share first left.samples - share second right.samples)
          (share second right.samples - share first left.samples)) left.bins right.bins).sum / 2
  changedRatioReaches := fun changed area threshold => (changed : Rat) / area ≥ threshold
  areaReaches := fun changed area threshold => (changed : Rat) ≥ area * threshold
  convertPixel := fun _ _ channels => channels

end Host

structure TerminalCellPixels where
  cellWidth : Int := 10
  cellHeight : Int := 20
deriving DecidableEq, Repr

structure SixelOptions where
  paletteLevelsPerChannel : Int := 6
  transparentBackground : Bool := true
  dither : DitherMode := .none
  maxColors : Int := 256
  maxFrameColors : Int := 64
  pixelAspectRatio : Int := 1
  useAdaptivePalette : Bool := false
  adaptivePaletteLockFrames : Int := 12
  sceneCutThreshold : Rat := 3 / 10
  persistPaletteRegisters : Bool := false
  paletteRefreshFrames : Int := 120
  independentRegionQuantization : Bool := false
deriving Repr

namespace SixelOptions

def forVideo : SixelOptions :=
  { paletteLevelsPerChannel := 5, dither := .none, transparentBackground := false,
    maxColors := 256, maxFrameColors := 204, pixelAspectRatio := 1,
    useAdaptivePalette := false }

def forRealtimeVideo : SixelOptions := forVideo

def forImage : SixelOptions :=
  { paletteLevelsPerChannel := 8, dither := .floydSteinberg, transparentBackground := true,
    maxColors := 256, maxFrameColors := 128, pixelAspectRatio := 1,
    useAdaptivePalette := true }

def forHighQualityVideo : SixelOptions :=
  { paletteLevelsPerChannel := 8, dither := .orderedBayer4x4, transparentBackground := false,
    maxColors := 256, maxFrameColors := 128, pixelAspectRatio := 1,
    useAdaptivePalette := true }

end SixelOptions

end Rasterm
