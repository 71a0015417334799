import Rasterm.Capi.Frames

/-!
Contract: the option structures of the C interface, and what of them is checked before a
handle is made.

Owns the v1 structures with their defaults and `validEngineOptions`. Callbacks and their
context are kept as far as they are null. Reserved fields are not read.
-/

set_option autoImplicit false

namespace Rasterm.Capi

def rastermCApiVersion : Nat := 1

def rastermEngineOptionsV1Size : Nat := 160

def rastermPresenterOptionsV1Size : Nat := 240

def rastermRenderStatsV1Size : Nat := 176

def rastermCapabilitiesV1Size : Nat := 120

def rastermPresenterStatsV1Size : Nat := 272

/-- As `rasterm_engine_options_init` leaves it. -/
structure RastermEngineOptions where
  structSize : Nat := rastermEngineOptionsV1Size
  apiVersion : Nat := rastermCApiVersion
  quality : Int := 0
  useAlternateScreen : Int := 0
  preserveCursor : Int := 1
  enableDirtyRegions : Int := 0
  requireSixelSupport : Int := 0
  useSynchronizedOutput : Int := 1
  maximumOutputBytes : Nat := 0
  backpressureThresholdMilliseconds : FloatValue := .finite 12
  convertToSrgb : Int := 1
  toneMap : Int := 3
  outputPeakNits : FloatValue := .finite 203
  realtimeDither : Int := 0
  adaptivePaletteLockFrames : Int := 12
  sceneCutThreshold : FloatValue := .finite (3 / 10)
  /-- `write != nullptr`. -/
  write : Bool := false
  /-- `flush != nullptr`. -/
  flush : Bool := false
  sixelSupportOverride : Int := 0
  synchronizedOutputOverride : Int := 0
  overrideColumns : Int := 0
  overrideRows : Int := 0
  overridePixelWidth : Int := 0
  overridePixelHeight : Int := 0
  overrideCellPixelWidth : Int := 0
  overrideCellPixelHeight : Int := 0
  persistPaletteRegisters : Int := 1
  paletteRefreshFrames : Int := 120
  outputChunkBytes : Nat := 64 * 1024
  maximumEncoderThreads : Int := 0
  independentRegionQuantization : Int := 1

/-- As `rasterm_presenter_options_init` leaves it. -/
structure RastermPresenterOptions where
  structSize : Nat := rastermPresenterOptionsV1Size
  engine : RastermEngineOptions := {}
  maximumFramesPerSecond : FloatValue := .finite 0

/-- `value >= 0.0`, and for a limit also `value <= limit`. -/
def nonnegative (value : FloatValue) (limit : Option Rat) : Bool :=
  match value with
  | .finite value => decide (0 ≤ value) && limit.all fun limit => decide (value ≤ limit)
  | .infinite negative => !negative && limit.isNone
  | .nan => false

def validEngineOptions (options : RastermEngineOptions) : Bool :=
  options.structSize ≥ rastermEngineOptionsV1Size &&
    options.apiVersion == rastermCApiVersion &&
    0 ≤ options.quality && options.quality ≤ 2 &&
    0 ≤ options.toneMap && options.toneMap ≤ 3 &&
    0 ≤ options.realtimeDither && options.realtimeDither ≤ 2 &&
    (!options.write) == (!options.flush) &&
    options.backpressureThresholdMilliseconds.isFinite &&
    nonnegative options.backpressureThresholdMilliseconds none &&
    options.outputPeakNits.isFinite && options.outputPeakNits.isPositive &&
    0 ≤ options.adaptivePaletteLockFrames &&
    options.sceneCutThreshold.isFinite && nonnegative options.sceneCutThreshold (some 1) &&
    0 ≤ options.sixelSupportOverride && options.sixelSupportOverride ≤ 2 &&
    0 ≤ options.synchronizedOutputOverride && options.synchronizedOutputOverride ≤ 2 &&
    0 ≤ options.overrideColumns && 0 ≤ options.overrideRows &&
    0 ≤ options.overridePixelWidth && 0 ≤ options.overridePixelHeight &&
    0 ≤ options.overrideCellPixelWidth && 0 ≤ options.overrideCellPixelHeight &&
    (options.overrideCellPixelWidth == 0) == (options.overrideCellPixelHeight == 0) &&
    0 ≤ options.paletteRefreshFrames && 0 ≤ options.maximumEncoderThreads

/-- The options that `init` writes are valid. -/
theorem validEngineOptions_default : validEngineOptions {} = true := by decide +kernel

/-- The checks of `rasterm_engine_create` before it allocates anything. -/
def checkEngineOptions (requested : Option RastermEngineOptions) :
    Except Answer RastermEngineOptions :=
  let options := requested.getD {}
  if options.structSize < rastermEngineOptionsV1Size then
    .error (failure .bufferTooSmall "rasterm_engine_options is smaller than the v1 prefix.")
  else if options.apiVersion ≠ rastermCApiVersion then
    .error (failure .apiVersionMismatch "The requested rasterm C API version is unsupported.")
  else if !validEngineOptions options then
    .error (failure .invalidArgument "rasterm_engine_options contains an invalid value.")
  else .ok options

/-- The checks of `rasterm_presenter_create` before it allocates anything. -/
def checkPresenterOptions (requested : Option RastermPresenterOptions) :
    Except Answer RastermPresenterOptions :=
  let options := requested.getD {}
  if options.structSize < rastermPresenterOptionsV1Size ||
      options.engine.structSize < rastermEngineOptionsV1Size then
    .error
      (failure .bufferTooSmall "A Presenter option structure is smaller than its v1 prefix.")
  else if options.engine.apiVersion ≠ rastermCApiVersion then
    .error (failure .apiVersionMismatch "The requested rasterm C API version is unsupported.")
  else if !validEngineOptions options.engine || !options.maximumFramesPerSecond.isFinite ||
      !nonnegative options.maximumFramesPerSecond none then
    .error (failure .invalidArgument "rasterm_presenter_options contains an invalid value.")
  else .ok options

/-- The defaults pass their own checks. -/
theorem checkOptions_default :
    checkEngineOptions none = .ok {} ∧ checkPresenterOptions none = .ok {} := by
  constructor
  · simp only [checkEngineOptions, Option.getD_none]
    rw [if_neg (by decide), if_neg (by decide), if_neg (by rw [validEngineOptions_default]; decide)]
  · simp only [checkPresenterOptions, Option.getD_none]
    rw [if_neg (by decide), if_neg (by decide),
      if_neg (by rw [validEngineOptions_default]; decide +kernel)]

end Rasterm.Capi
