import Rasterm.Encoder.Bands
import Rasterm.Encoder.Mapping

/-!
Contract: `VideoSixelEncoder`: preparation of logical frames, the decision to
send palette definitions, and the encoding of frames and regions.

Owns the encoder state with every field the code keeps between calls, and for
each operation what it returns and leaves behind. The bytes of a control string
are those of `streamPieces`; scratch vectors are not part of them.
-/

set_option autoImplicit false

namespace Rasterm

open Rows

/-! ### Palette signatures -/

def fnvOffset : UInt64 := 1469598103934665603

def fnvPrime : UInt64 := 1099511628211

def hashColors (seed : UInt64) (colors : List UInt32) : UInt64 :=
  ((colors.foldl (fun hash color => (hash ^^^ color.toUInt64) * fnvPrime) seed) ^^^
    UInt64.ofNat colors.length) * fnvPrime

/-- `paletteHash` of a register table. -/
def paletteHash (colors : List UInt32) : UInt64 := hashColors fnvOffset colors

/-- `paletteHash` of a caller's palette. -/
def callerPaletteHash (palette : List RgbColor) (firstRegister : Nat) : UInt64 :=
  hashColors (fnvOffset ^^^ UInt64.ofNat firstRegister)
    (palette.map fun color => packRgb color.red color.green color.blue)

/-! ### State -/

structure VideoSixelEncoder where
  options : SixelOptions
  analyzer : FastColorAnalyzer := {}
  colorMapper : FastAdaptiveColorMapper
  fastColorMapper : FastColorMapper
  paletteIndices : List UInt8 := []
  lastColorCountValue : Nat := 0
  paletteAge : Int := 0
  hasAdaptivePalette : Bool := false
  outputLimit : Nat := 0
  limitExceeded : Bool := false
  adaptiveFramePrepared : Bool := false
  paletteRegistersValid : Bool := false
  paletteSignature : UInt64 := 0
  framesSincePaletteRefresh : Int := 0
  /-- The thread's vectors in `emitIndexedFrame`. -/
  scratch : Scratch := {}

/-- The clamped options of the constructor. -/
def SixelOptions.clamped (options : SixelOptions) : SixelOptions :=
  let maxColors := max 2 (min options.maxColors 256)
  { options with
    maxColors := maxColors
    maxFrameColors := max 1 (min options.maxFrameColors (maxColors - 1)) }

/-- Registers in use, entry 0 included. -/
def SixelOptions.activeColorSlots (options : SixelOptions) : Nat :=
  (options.clamped.maxFrameColors + 1).toNat

theorem SixelOptions.two_le_activeColorSlots (options : SixelOptions) :
    2 ≤ options.activeColorSlots := by
  simp only [activeColorSlots, clamped]
  omega

theorem SixelOptions.activeColorSlots_le (options : SixelOptions) :
    options.activeColorSlots ≤ 256 := by
  simp only [activeColorSlots, clamped]
  omega

namespace VideoSixelEncoder

/-- The constructor; the thread's vectors hold whatever they held. -/
def create (host : Host) (options : SixelOptions) (scratch : Scratch) : VideoSixelEncoder where
  options := options.clamped
  colorMapper := { maxColors := options.activeColorSlots }
  fastColorMapper := FastColorMapper.build host options.activeColorSlots
    options.two_le_activeColorSlots options.activeColorSlots_le
  scratch := scratch

/-! ### Preparation -/

def beginLogicalFrame (encoder : VideoSixelEncoder) : VideoSixelEncoder :=
  if encoder.paletteRegistersValid ∧ encoder.options.paletteRefreshFrames > 0 ∧
      encoder.framesSincePaletteRefresh < encoder.options.paletteRefreshFrames then
    { encoder with framesSincePaletteRefresh := encoder.framesSincePaletteRefresh + 1 }
  else encoder

/-- Distance of an analysis to the one the mapper was last built from. -/
def sceneDifference (host : Host) (encoder : VideoSixelEncoder) (analyzer : FastColorAnalyzer) :
    Rat :=
  if encoder.colorMapper.hasHistogram then
    host.histogramDistance analyzer.luminanceHistogram encoder.colorMapper.previousHistogram
  else 1

/-- Build the palette from an analysis. -/
def rebuild (host : Host) (encoder : VideoSixelEncoder) (analyzer : FastColorAnalyzer) :
    VideoSixelEncoder :=
  { encoder with
    analyzer := analyzer
    colorMapper := encoder.colorMapper.buildOptimalPalette host analyzer
    paletteAge := 0
    hasAdaptivePalette := true }

/-- No palette yet, the lock has run out, or the scene has changed. -/
def mustRebuild (host : Host) (encoder : VideoSixelEncoder) (analyzer : FastColorAnalyzer) : Bool :=
  !encoder.hasAdaptivePalette ||
    encoder.paletteAge ≥ encoder.options.adaptivePaletteLockFrames ||
    encoder.sceneDifference host analyzer ≥ encoder.options.sceneCutThreshold

/-- Analyze a frame and rebuild the palette or keep it for one more frame. -/
def adaptPalette (host : Host) (encoder : VideoSixelEncoder) (frame : FrameView) :
    VideoSixelEncoder :=
  let analyzer := encoder.analyzer.analyzeFrameFast frame
  if encoder.mustRebuild host analyzer then encoder.rebuild host analyzer
  else { encoder with analyzer := analyzer, paletteAge := encoder.paletteAge + 1 }

def prepareFrame (host : Host) (encoder : VideoSixelEncoder) (frame : FrameView) :
    VideoSixelEncoder :=
  let begun := { encoder.beginLogicalFrame with adaptiveFramePrepared := false }
  if !encoder.options.useAdaptivePalette || !frame.isValid then begun
  else { begun.adaptPalette host frame with adaptiveFramePrepared := true }

/-- `prepareFrame(IndexedFrameView)`. -/
def prepareIndexedFrame (encoder : VideoSixelEncoder) : VideoSixelEncoder :=
  { encoder.beginLogicalFrame with adaptiveFramePrepared := false }

def prepareRegionalFrame (host : Host) (encoder : VideoSixelEncoder) (frame : FrameView) :
    VideoSixelEncoder :=
  if encoder.options.useAdaptivePalette && encoder.options.independentRegionQuantization then
    { encoder.beginLogicalFrame with adaptiveFramePrepared := false }
  else encoder.prepareFrame host frame

def prepareRegion (host : Host) (encoder : VideoSixelEncoder) (frame : FrameView)
    (region : DamageRegion) : VideoSixelEncoder :=
  if !encoder.options.useAdaptivePalette || !encoder.options.independentRegionQuantization ||
      !frame.isValid || !region.isValid then encoder
  else
    { encoder.rebuild host (encoder.analyzer.analyzeFrameFast (frame.region region)) with
      adaptiveFramePrepared := true }

/-- Definitions are repeated after a number of frames. -/
def refreshDue (encoder : VideoSixelEncoder) : Bool :=
  encoder.options.paletteRefreshFrames > 0 &&
    encoder.framesSincePaletteRefresh ≥ encoder.options.paletteRefreshFrames

/-- Whether the definitions go out with this frame. -/
def shouldEmitPalette (encoder : VideoSixelEncoder) (signature : UInt64) :
    VideoSixelEncoder × Bool :=
  if !encoder.options.persistPaletteRegisters then (encoder, true)
  else if !encoder.paletteRegistersValid ∨ signature ≠ encoder.paletteSignature ∨
      encoder.refreshDue then
    ({ encoder with
        paletteRegistersValid := true
        paletteSignature := signature
        framesSincePaletteRefresh := 0 }, true)
  else (encoder, false)

def reset (encoder : VideoSixelEncoder) : VideoSixelEncoder :=
  { encoder with
    paletteAge := 0
    hasAdaptivePalette := false
    adaptiveFramePrepared := false
    paletteRegistersValid := false
    paletteSignature := 0
    framesSincePaletteRefresh := 0
    colorMapper :=
      { encoder.colorMapper with
        hasHistogram := false
        rgbToColorNum := encoder.colorMapper.rgbToColorNum.clear } }

/-! ### Encoding -/

def setOutputLimit (encoder : VideoSixelEncoder) (maximumBytes : Nat) : VideoSixelEncoder :=
  { encoder with outputLimit := maximumBytes }

/-- Overwrite the front of the index vector; packed frames never shrink it. -/
def storeIndices (encoder : VideoSixelEncoder) (mapped : List UInt8) : VideoSixelEncoder :=
  { encoder with paletteIndices := mapped ++ encoder.paletteIndices.drop mapped.length }

/-- Map the pixels of a packed frame; also the number of colours. -/
def mapPixels (host : Host) (encoder : VideoSixelEncoder) (source : FrameView) :
    VideoSixelEncoder × Nat :=
  if encoder.options.useAdaptivePalette then
    let prepared :=
      if encoder.adaptiveFramePrepared then encoder else encoder.adaptPalette host source
    let mapped := layRows
      (fun x y =>
        let channels := source.channels x y
        UInt8.ofNat (prepared.colorMapper.getColorNumberReadOnly channels.red channels.green
          channels.blue))
      source.width.toNat source.height.toNat
    (prepared.storeIndices mapped, prepared.colorMapper.nextColorNum)
  else
    let mapped := (List.range source.height.toNat).flatMap
      (mapFixedRow host encoder.fastColorMapper source)
    let used := mapped.foldl (fun mapper color => mapper.markUsed color.toNat)
      encoder.fastColorMapper.reset
    ({ encoder with fastColorMapper := used }.storeIndices mapped, used.nextColorNum)

/-- The signature of the registers a packed frame is mapped to. -/
def packedSignature (encoder : VideoSixelEncoder) : UInt64 :=
  if encoder.options.useAdaptivePalette then paletteHash encoder.colorMapper.palette
  else paletteHash encoder.fastColorMapper.colorNumToRgb

/-- The definitions of a packed frame. -/
def emitPackedPalette (encoder : VideoSixelEncoder) (output : SixelOutput) : SixelOutput :=
  if encoder.options.useAdaptivePalette then emitAdaptivePalette output encoder.colorMapper
  else if encoder.options.persistPaletteRegisters then
    emitFullPalette output encoder.fastColorMapper
  else emitFixedPalette output encoder.fastColorMapper

/-- Write one control string from the mapped indices. -/
def write (encoder : VideoSixelEncoder) (width height colorCount lastColorCount : Nat)
    (palette : SixelOutput → SixelOutput) : VideoSixelEncoder × List UInt8 :=
  let opened := emitRasterAttributes
    (beginSixel { maximumBytes := encoder.outputLimit } encoder.options) width height
  let (painted, scratch) := emitIndexedFrame (palette opened) encoder.paletteIndices width height
    colorCount encoder.scratch
  let output := painted.append (ascii "\x1b\\")
  ({ encoder with
      scratch := scratch
      limitExceeded := output.limitExceeded
      lastColorCountValue := lastColorCount },
    if output.limitExceeded then [] else output.storage)

def encodeView (host : Host) (encoder : VideoSixelEncoder) (frame : FrameView) :
    VideoSixelEncoder × List UInt8 :=
  let source := ditheredSource host encoder.options frame
  let (mapped, colorCount) := { encoder with limitExceeded := false }.mapPixels host source
  let (decided, definePalette) := mapped.shouldEmitPalette mapped.packedSignature
  let lastColorCount :=
    if encoder.options.useAdaptivePalette then colorCount - 1
    else mapped.fastColorMapper.usedColorCount
  decided.write source.width.toNat source.height.toNat colorCount lastColorCount fun output =>
    if definePalette then decided.emitPackedPalette output else output

/-- The register of palette entry 0: register 0 is left to the background when possible. -/
def registerOffset (frame : IndexedFrameView) : Nat := if frame.palette.size = 256 then 0 else 1

/-- `encodeView(IndexedFrameView)`. -/
def encodeIndexedView (encoder : VideoSixelEncoder) (frame : IndexedFrameView) :
    VideoSixelEncoder × List UInt8 :=
  let offset := registerOffset frame
  let mapped := layRows (fun x y => frame.index x y + UInt8.ofNat offset)
    frame.width.toNat frame.height.toNat
  let (decided, definePalette) :=
    { encoder with limitExceeded := false, paletteIndices := mapped }.shouldEmitPalette
      (callerPaletteHash frame.palette.entries offset)
  decided.write frame.width.toNat frame.height.toNat (frame.palette.size + offset)
    frame.palette.size fun output =>
      if definePalette then emitCallerPalette output frame.palette.entries offset else output

def encodeFrame (host : Host) (encoder : VideoSixelEncoder) (frame : FrameView) :
    VideoSixelEncoder × List UInt8 :=
  if frame.isValid then encoder.encodeView host frame else (encoder, [])

/-- `encodeFrame(IndexedFrameView)`. -/
def encodeIndexedFrame (encoder : VideoSixelEncoder) (frame : IndexedFrameView) :
    VideoSixelEncoder × List UInt8 :=
  if frame.isValid then encoder.encodeIndexedView frame else (encoder, [])

/-- The region lies in a frame of the given size. -/
def regionInside (region : DamageRegion) (width height : Int) : Bool :=
  region.isValid && 0 ≤ region.x && 0 ≤ region.y && region.x + region.width ≤ width &&
    region.y + region.height ≤ height

def encodeRegion (host : Host) (encoder : VideoSixelEncoder) (frame : FrameView)
    (region : DamageRegion) : VideoSixelEncoder × List UInt8 :=
  if frame.isValid && regionInside region frame.width frame.height then
    encoder.encodeView host (frame.region region)
  else (encoder, [])

/-- `encodeRegion(IndexedFrameView)`. -/
def encodeIndexedRegion (encoder : VideoSixelEncoder) (frame : IndexedFrameView)
    (region : DamageRegion) : VideoSixelEncoder × List UInt8 :=
  if frame.isValid && regionInside region frame.width frame.height then
    encoder.encodeIndexedView (frame.region region)
  else (encoder, [])

/-! ### Either kind of frame -/

/-- The overloads of `prepareFrame`. -/
def prepare (host : Host) (encoder : VideoSixelEncoder) : Frame → VideoSixelEncoder
  | .packed view => encoder.prepareFrame host view
  | .indexed _ => encoder.prepareIndexedFrame

/-- The overloads of `prepareRegionalFrame`. -/
def prepareRegional (host : Host) (encoder : VideoSixelEncoder) : Frame → VideoSixelEncoder
  | .packed view => encoder.prepareRegionalFrame host view
  | .indexed _ => encoder.prepareIndexedFrame

/-- The overloads of `prepareRegion`. -/
def prepareArea (host : Host) (encoder : VideoSixelEncoder) (region : DamageRegion) :
    Frame → VideoSixelEncoder
  | .packed view => encoder.prepareRegion host view region
  | .indexed _ => encoder

/-- The overloads of `encodeView`. -/
def encodeAny (host : Host) (encoder : VideoSixelEncoder) : Frame → VideoSixelEncoder × List UInt8
  | .packed view => encoder.encodeView host view
  | .indexed view => encoder.encodeIndexedView view

/-- The overloads of `encodeFrame`. -/
def encode (host : Host) (encoder : VideoSixelEncoder) : Frame → VideoSixelEncoder × List UInt8
  | .packed view => encoder.encodeFrame host view
  | .indexed view => encoder.encodeIndexedFrame view

/-- The overloads of `encodeRegion`. -/
def encodeArea (host : Host) (encoder : VideoSixelEncoder) (region : DamageRegion) :
    Frame → VideoSixelEncoder × List UInt8
  | .packed view => encoder.encodeRegion host view region
  | .indexed view => encoder.encodeIndexedRegion view region

theorem encode_eq (host : Host) (encoder : VideoSixelEncoder) (frame : Frame) :
    encoder.encode host frame =
      if frame.isValid then encoder.encodeAny host frame else (encoder, []) := by
  cases frame <;> rfl

theorem encodeArea_eq (host : Host) (encoder : VideoSixelEncoder) (region : DamageRegion)
    (frame : Frame) :
    encoder.encodeArea host region frame =
      if frame.isValid && regionInside region frame.width frame.height then
        encoder.encodeAny host (frame.region region)
      else (encoder, []) := by
  cases frame <;> rfl

theorem encodeArea_of_inside (host : Host) (encoder : VideoSixelEncoder) {region : DamageRegion}
    {frame : Frame} (valid : frame.isValid = true)
    (inside : regionInside region frame.width frame.height = true) :
    encoder.encodeArea host region frame = encoder.encodeAny host (frame.region region) := by
  rw [encodeArea_eq, valid, inside]
  rfl

end VideoSixelEncoder

end Rasterm
