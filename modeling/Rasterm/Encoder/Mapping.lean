import Rasterm.Encoder.Palette
import Rasterm.Library.Rows

/-!
Contract: from the pixels of a packed frame to palette indices.

Owns the two dithers, which rewrite an RGB copy of the frame, and the scalar and
vector row mappers of the fixed table with the proof that they agree.
-/

set_option autoImplicit false

namespace Rasterm

open Rows

/-! ### Dithering -/

def clampChannel (value : Int) : Int := max 0 (min value 255)

/-- `static_cast<std::uint8_t>`. -/
def byteOf (value : Int) : UInt8 := UInt8.ofNat (value % 256).toNat

def quantizeChannel (channel : UInt8) (levels : Int) : Int :=
  if levels ≤ 1 then 0 else (channel.toNat * (levels - 1) + 127).tdiv 255

/-- One entry of the table `quantizedValues`. -/
def quantizedValue (levels : Int) (value : UInt8) : Int :=
  if levels > 1 then (quantizeChannel value levels * 255).tdiv (levels - 1) else 0

/-- Add to one byte and clamp. -/
def adjust (pixels : Memory) (offset : Nat) (error : Int) : Memory :=
  Function.update pixels offset (byteOf (clampChannel ((pixels offset).toNat + error)))

/-- Quantize one channel and pass the error on to the neighbours that exist. -/
def diffuse (levels : Int) (width height x y channel : Nat) (pixels : Memory) : Memory :=
  let stride := width * 3
  let offset := y * stride + x * 3 + channel
  let newValue := quantizedValue levels (pixels offset)
  let error : Int := (pixels offset).toNat - newValue
  let error7 := (error * 7).tdiv 16
  let error5 := (error * 5).tdiv 16
  let error3 := (error * 3).tdiv 16
  let error1 := error - error7 - error5 - error3
  let quantized := Function.update pixels offset (byteOf newValue)
  let right := if x + 1 < width then adjust quantized (offset + 3) error7 else quantized
  if y + 1 < height then
    let lowerLeft := if x > 0 then adjust right (offset + stride - 3) error3 else right
    let below := adjust lowerLeft (offset + stride) error5
    if x + 1 < width then adjust below (offset + stride + 3) error1 else below
  else right

def applyFloydSteinberg (pixels : Memory) (width height : Nat) (levels : Int) : Memory :=
  (layRows (fun x y => (x, y)) width height).foldl
    (fun pixels position =>
      (List.range 3).foldl
        (fun pixels channel => diffuse levels width height position.1 position.2 channel pixels)
        pixels)
    pixels

def bayer : List (List Nat) :=
  [[0, 8, 2, 10], [12, 4, 14, 6], [3, 11, 1, 9], [15, 7, 13, 5]]

def applyOrderedDither (host : Host) (pixels : Memory) (width height : Nat) (levels : Int) :
    Memory :=
  (layRows (fun x y => (x, y)) width height).foldl
    (fun pixels position =>
      (List.range 3).foldl
        (fun pixels channel =>
          let offset := position.2 * (width * 3) + position.1 * 3 + channel
          let threshold := (bayer.getD (position.2 % 4) []).getD (position.1 % 4) 0
          Function.update pixels offset
            (byteOf (clampChannel (host.orderedDither (pixels offset) threshold levels))))
        pixels)
    pixels

/-- The RGB bytes of one pixel, in the order the working buffer holds them. -/
def PixelChannels.bytes (channels : PixelChannels) : List UInt8 :=
  [channels.red, channels.green, channels.blue]

/-- The RGB copy `encodeView` fills before it dithers. -/
def workingBuffer (frame : FrameView) : Memory :=
  fun offset =>
    ((layRows frame.channels frame.width.toNat frame.height.toNat).flatMap
      PixelChannels.bytes).getD offset 0

/-- The frame whose pixels are mapped: the given one, or its dithered copy. -/
def ditheredSource (host : Host) (options : SixelOptions) (frame : FrameView) : FrameView :=
  let copy (pixels : Memory) : FrameView :=
    { data := some pixels
      width := frame.width
      height := frame.height
      stride := frame.width * 3
      format := .rgb24 }
  if options.dither = .none then frame
  else if options.dither = .floydSteinberg then
    copy (applyFloydSteinberg (workingBuffer frame) frame.width.toNat frame.height.toNat
      options.paletteLevelsPerChannel)
  else
    copy (applyOrderedDither host (workingBuffer frame) frame.width.toNat frame.height.toNat
      options.paletteLevelsPerChannel)

@[simp] theorem ditheredSource_width (host : Host) (options : SixelOptions) (frame : FrameView) :
    (ditheredSource host options frame).width = frame.width := by
  unfold ditheredSource
  split_ifs <;> rfl

@[simp] theorem ditheredSource_height (host : Host) (options : SixelOptions) (frame : FrameView) :
    (ditheredSource host options frame).height = frame.height := by
  unfold ditheredSource
  split_ifs <;> rfl

/-- Dithering keeps the frame readable. -/
theorem listed_ditheredSource (host : Host) (options : SixelOptions) {frame : FrameView}
    (listed : bytesPerPixel frame.format ≠ 0) :
    bytesPerPixel (ditheredSource host options frame).format ≠ 0 := by
  unfold ditheredSource
  split_ifs
  · exact listed
  · exact Nat.succ_ne_zero 2
  · exact Nat.succ_ne_zero 2

/-! ### The fixed table -/

/-- The vector loop: whole groups of lanes, then the remaining pixels one by one. -/
def mapLanes (lanes : Nat) (mapped : Nat → UInt8) (width : Nat) : Nat → Nat → List UInt8
  | 0, x => (List.range (width - x)).map fun offset => mapped (x + offset)
  | fuel + 1, x =>
      if x + lanes ≤ width then
        (List.range lanes).map (fun lane => mapped (x + lane)) ++
          mapLanes lanes mapped width fuel (x + lanes)
      else (List.range (width - x)).map fun offset => mapped (x + offset)

def mapPaletteRowAvx2 (pixels : Memory) (width : Nat) (layout : PixelLayout)
    (lookup : Nat → Nat) : List UInt8 :=
  mapLanes 8
    (fun x => UInt8.ofNat
      (lookup (FastColorMapper.lookupIndex
        (readPixel (pixels.advance (x * pixelStride layout)) layout))))
    width (width / 8) 0

def mapPaletteRowAvx512 (pixels : Memory) (width : Nat) (layout : PixelLayout)
    (lookup : Nat → Nat) : List UInt8 :=
  mapLanes 16
    (fun x => UInt8.ofNat
      (lookup (FastColorMapper.lookupIndex
        (readPixel (pixels.advance (x * pixelStride layout)) layout))))
    width (width / 16) 0

def mapPaletteRowScalar (pixels : Memory) (width : Nat) (layout : PixelLayout)
    (lookup : Nat → UInt8) : List UInt8 :=
  (List.range width).map fun x =>
    lookup (FastColorMapper.lookupIndex (readPixel (pixels.advance (x * pixelStride layout)) layout))

/-- The vector loop maps every pixel of the row once. -/
theorem mapLanes_eq (lanes : Nat) (mapped : Nat → UInt8) (width fuel x : Nat) (inside : x ≤ width) :
    mapLanes lanes mapped width fuel x =
      (List.range (width - x)).map fun offset => mapped (x + offset) := by
  induction fuel generalizing x with
  | zero => rfl
  | succ fuel inductionHypothesis =>
      unfold mapLanes
      split_ifs with group
      · have split : width - x = lanes + (width - (x + lanes)) := by omega
        rw [inductionHypothesis (x + lanes) group, split, List.range_add, List.map_append,
          List.map_map]
        simp only [Function.comp_def, Nat.add_assoc]
      · rfl

/-- One row of the fixed path, through the mapper the host selects. -/
def mapFixedRow (host : Host) (mapper : FastColorMapper) (source : FrameView) (y : Nat) :
    List UInt8 :=
  let layout := pixelLayout source.format
  let row := source.bytes.advance (y * source.stride.toNat)
  let simdEligible := pixelStride layout ≥ 3 ∧ source.width ≥ 64
  if simdEligible ∧ host.simdMode = .avx512 then
    mapPaletteRowAvx512 row source.width.toNat layout mapper.rgbLookup32
  else if simdEligible ∧ host.simdMode = .avx2 then
    mapPaletteRowAvx2 row source.width.toNat layout mapper.rgbLookup32
  else mapPaletteRowScalar row source.width.toNat layout mapper.rgbLookup

/-- The register the table assigns to a colour. -/
def FastColorMapper.register (mapper : FastColorMapper) (channels : PixelChannels) : Nat :=
  mapper.rgbLookup32 (lookupIndex channels)

/-- One row of the fixed path through the given mapper, whatever the width. -/
def mapFixedRowBy (mode : SimdMode) (mapper : FastColorMapper) (source : FrameView) (y : Nat) :
    List UInt8 :=
  let layout := pixelLayout source.format
  let row := source.bytes.advance (y * source.stride.toNat)
  match mode with
  | .avx512 => mapPaletteRowAvx512 row source.width.toNat layout mapper.rgbLookup32
  | .avx2 => mapPaletteRowAvx2 row source.width.toNat layout mapper.rgbLookup32
  | .scalar => mapPaletteRowScalar row source.width.toNat layout mapper.rgbLookup

/-- All three row mappers read the same table entry. -/
theorem mapFixedRowBy_eq (mode : SimdMode) (mapper : FastColorMapper) {source : FrameView}
    (listed : bytesPerPixel source.format ≠ 0) (y : Nat) :
    mapFixedRowBy mode mapper source y =
      (List.range source.width.toNat).map fun x =>
        UInt8.ofNat (mapper.register (source.channels x y)) := by
  have pixel : ∀ x, readPixel
      ((source.bytes.advance (y * source.stride.toNat)).advance
        (x * pixelStride (pixelLayout source.format))) (pixelLayout source.format) =
      source.channels x y := by
    intro x
    rw [pixelStride_pixelLayout listed, FrameView.channels, FrameView.pixel]
    congr 1
    funext offset
    simp only [Memory.advance]
    congr 1
    omega
  have lanes : ∀ count : Nat, ∀ fuel : Nat,
      mapLanes count
        (fun x => UInt8.ofNat (mapper.rgbLookup32 (FastColorMapper.lookupIndex (readPixel
          ((source.bytes.advance (y * source.stride.toNat)).advance
            (x * pixelStride (pixelLayout source.format))) (pixelLayout source.format)))))
        source.width.toNat fuel 0 =
      (List.range source.width.toNat).map fun x =>
        UInt8.ofNat (mapper.register (source.channels x y)) := by
    intro count fuel
    rw [mapLanes_eq _ _ _ _ _ (Nat.zero_le _)]
    simp only [pixel, Nat.sub_zero, Nat.zero_add, FastColorMapper.register]
  cases mode with
  | avx512 => exact lanes 16 _
  | avx2 => exact lanes 8 _
  | scalar =>
      simp only [mapFixedRowBy, mapPaletteRowScalar, pixel]
      rfl

/-- The host's choice cannot be seen. -/
theorem mapFixedRow_eq (host : Host) (mapper : FastColorMapper) {source : FrameView}
    (listed : bytesPerPixel source.format ≠ 0) (y : Nat) :
    mapFixedRow host mapper source y =
      (List.range source.width.toNat).map fun x =>
        UInt8.ofNat (mapper.register (source.channels x y)) := by
  unfold mapFixedRow
  simp only
  split_ifs
  · exact mapFixedRowBy_eq .avx512 mapper listed y
  · exact mapFixedRowBy_eq .avx2 mapper listed y
  · exact mapFixedRowBy_eq .scalar mapper listed y

end Rasterm
