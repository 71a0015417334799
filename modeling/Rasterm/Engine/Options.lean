import Rasterm.Platform.ConsoleSession

/-!
Contract: what a caller asks of `Engine::initialize`, which requests are refused, and the
options of the renderer that come of the others.

Owns the request with its defaults, `validOptions`, the overrides of detected capabilities and
the three quality profiles. Of a callback or a sink the request says whether there is one; the
number of encoder threads changes no byte and is only checked.
-/

set_option autoImplicit false

namespace Rasterm

/-! ### The request -/

inductive QualityProfile where
  | realtime | adaptiveVideo | highQuality
  | unlisted (value : Int)
deriving DecidableEq, Repr

/-- A `CapabilitySupport` that a caller wrote. -/
inductive SupportOverride where
  | listed (support : CapabilitySupport)
  | unlisted (value : Int)
deriving DecidableEq, Repr

structure TerminalOverrides where
  sixel : SupportOverride := .listed .unknown
  synchronizedOutput : SupportOverride := .listed .unknown
  geometry : TerminalGeometry := {}
deriving DecidableEq, Repr

structure EncoderTuning where
  persistPaletteRegisters : Bool := true
  paletteRefreshFrames : Int := 120
  outputChunkBytes : Nat := 64 * 1024
  maximumThreads : Int := 0
  independentRegionQuantization : Bool := true
deriving DecidableEq, Repr

structure DiagnosticOptions where
  /-- Nothing for a null pointer. -/
  filePath : Option String := none
  /-- `callback != nullptr`. -/
  callback : Bool := false
deriving DecidableEq, Repr

structure EventOptions where
  /-- `callback != nullptr`. -/
  callback : Bool := false
deriving DecidableEq, Repr

/-- The argument of `initialize`. -/
structure RequestedOptions where
  quality : QualityProfile := .realtime
  useAlternateScreen : Bool := false
  preserveCursor : Bool := true
  enableDirtyRegions : Bool := false
  requireSixelSupport : Bool := false
  useSynchronizedOutput : Bool := true
  maximumOutputBytes : Nat := 0
  backpressureThresholdMilliseconds : FloatValue := .finite 12
  color : ColorOptions := {}
  diagnostics : DiagnosticOptions := {}
  events : EventOptions := {}
  /-- `output != nullptr`. -/
  customOutput : Bool := false
  terminalOverrides : TerminalOverrides := {}
  encoder : EncoderTuning := {}
deriving DecidableEq, Repr

/-! ### Validation -/

namespace FloatValue

/-- `value >= 0`. -/
def isNonnegative : FloatValue → Bool
  | .finite value => decide (0 ≤ value)
  | .infinite negative => !negative
  | .nan => false

/-- `value <= limit`. -/
def isAtMost (limit : Rat) : FloatValue → Bool
  | .finite value => decide (value ≤ limit)
  | .infinite negative => negative
  | .nan => false

/-- `std::clamp` between 0 and 1. -/
def clampUnit : FloatValue → Rat
  | .finite value => if value < 0 then 0 else if 1 < value then 1 else value
  | .infinite negative => if negative then 0 else 1
  -- `validOptions` has refused a NaN before anything is clamped.
  | .nan => 0

end FloatValue

/-- All or none of a cell's two sizes are given. -/
def TerminalGeometry.isValid (geometry : TerminalGeometry) : Bool :=
  0 ≤ geometry.columns && 0 ≤ geometry.rows && 0 ≤ geometry.pixelWidth &&
    0 ≤ geometry.pixelHeight && 0 ≤ geometry.cellPixelWidth && 0 ≤ geometry.cellPixelHeight &&
    (geometry.cellPixelWidth == 0) == (geometry.cellPixelHeight == 0)

def validOptions (options : RequestedOptions) : Bool :=
  let validQuality := match options.quality with
    | .unlisted _ => false
    | _ => true
  let validToneMap := match options.color.toneMap with
    | .unlisted _ => false
    | _ => true
  let validDither := match options.color.realtimeDither with
    | .unlisted _ => false
    | _ => true
  let validSupport : SupportOverride → Bool
    | .unlisted _ => false
    | .listed _ => true
  validQuality && validToneMap && validDither && options.terminalOverrides.geometry.isValid &&
    0 ≤ options.encoder.paletteRefreshFrames && 0 ≤ options.encoder.maximumThreads &&
    validSupport options.terminalOverrides.sixel &&
    validSupport options.terminalOverrides.synchronizedOutput &&
    options.backpressureThresholdMilliseconds.isFinite &&
    options.backpressureThresholdMilliseconds.isNonnegative &&
    options.color.outputPeakNits.isFinite && options.color.outputPeakNits.isPositive &&
    0 ≤ options.color.adaptivePaletteLockFrames &&
    options.color.sceneCutThreshold.isFinite && options.color.sceneCutThreshold.isNonnegative &&
    options.color.sceneCutThreshold.isAtMost 1

/-- The defaults are valid. -/
theorem validOptions_default : validOptions {} = true := by decide +kernel

/-! ### Overrides -/

/-- What a caller knows better is taken from the caller. -/
def SupportOverride.apply (request : SupportOverride) (detected : CapabilitySupport) :
    CapabilitySupport :=
  match request with
  | .listed .unknown => detected
  | .listed support => support
  -- `validOptions` has refused every other value.
  | .unlisted _ => detected

namespace RequestedOptions

def applyOverrides (options : RequestedOptions) (capabilities : TerminalCapabilities) :
    TerminalCapabilities :=
  { capabilities with
    sixel := options.terminalOverrides.sixel.apply capabilities.sixel
    synchronizedOutput :=
      options.terminalOverrides.synchronizedOutput.apply capabilities.synchronizedOutput
    geometry := Engine.applyOverrides options.terminalOverrides.geometry capabilities.geometry }

/-! ### The options of the renderer -/

/-- The options of the encoder that a quality profile stands for. -/
def profile (options : RequestedOptions) : SixelOptions :=
  match options.quality with
  | .highQuality => SixelOptions.forImage
  | .adaptiveVideo =>
      if options.color.realtimeDither ≠ .none then
        { SixelOptions.forHighQualityVideo with dither := options.color.realtimeDither }
      else SixelOptions.forHighQualityVideo
  | _ => { SixelOptions.forRealtimeVideo with dither := options.color.realtimeDither }

def sixelOptions (options : RequestedOptions) : SixelOptions :=
  { options.profile with
    adaptivePaletteLockFrames := max 0 options.color.adaptivePaletteLockFrames
    sceneCutThreshold := options.color.sceneCutThreshold.clampUnit
    persistPaletteRegisters := options.encoder.persistPaletteRegisters
    paletteRefreshFrames := options.encoder.paletteRefreshFrames
    independentRegionQuantization := options.encoder.independentRegionQuantization }

/-- `detected` are the capabilities after the overrides. -/
def rendererOptions (options : RequestedOptions) (detected : TerminalCapabilities) :
    RendererOptions where
  useAlternateScreen := options.useAlternateScreen
  preserveCursor := options.preserveCursor
  enableDirtyRegions := options.enableDirtyRegions
  useSynchronizedOutput :=
    options.useSynchronizedOutput && detected.synchronizedOutput != .unsupported
  maximumOutputBytes := options.maximumOutputBytes
  outputChunkBytes := options.encoder.outputChunkBytes
  cellPixels :=
    if detected.geometry.cellPixelWidth > 0 ∧ detected.geometry.cellPixelHeight > 0 then
      ⟨detected.geometry.cellPixelWidth, detected.geometry.cellPixelHeight⟩
    else {}
  sixel := options.sixelOptions

/-- What the calls after `initialize` read of the request. -/
def kept (options : RequestedOptions) : EngineOptions where
  color := options.color
  customOutput := options.customOutput
  geometryOverride := options.terminalOverrides.geometry

variable (options : RequestedOptions) (detected : TerminalCapabilities)

/-- Whatever was detected, a cell has a size. -/
theorem positive_rendererOptions : (options.rendererOptions detected).cellPixels.Positive := by
  unfold TerminalCellPixels.Positive rendererOptions
  dsimp only
  split_ifs with known
  · exact known
  · decide

end RequestedOptions

end Rasterm
