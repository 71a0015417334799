import Rasterm.Capi.Options
import Rasterm.Engine.Options
import Rasterm.Presenter.Presenter

/-!
Contract: from the option structures of the C interface to the requests of the C++ one.

Owns the conversion of every option, which C options are let through, and that they can express
every request the Engine accepts, diagnostics and event callbacks aside.

Does not own the handles.
-/

set_option autoImplicit false

namespace Rasterm.Capi

/-! ### The conversion -/

def quality (value : Int) : QualityProfile :=
  if value = 1 then .adaptiveVideo
  else if value = 2 then .highQuality
  else .realtime

def toneMap (value : Int) : ToneMapOperator :=
  if value = 1 then .reinhard
  else if value = 2 then .hable
  else if value = 3 then .aces
  else .none

def dither (value : Int) : DitherMode :=
  if value = 1 then .orderedBayer4x4
  else if value = 2 then .floydSteinberg
  else .none

def capabilitySupport (value : Int) : CapabilitySupport :=
  if value = 1 then .unsupported
  else if value = 2 then .supported
  else .unknown

/-- `sink` says that a sink is passed. -/
def engineOptions (options : RastermEngineOptions) (sink : Bool) : RequestedOptions where
  quality := quality options.quality
  useAlternateScreen := options.useAlternateScreen != 0
  preserveCursor := options.preserveCursor != 0
  enableDirtyRegions := options.enableDirtyRegions != 0
  requireSixelSupport := options.requireSixelSupport != 0
  useSynchronizedOutput := options.useSynchronizedOutput != 0
  maximumOutputBytes := options.maximumOutputBytes
  backpressureThresholdMilliseconds := options.backpressureThresholdMilliseconds
  color :=
    { convertToSrgb := options.convertToSrgb != 0
      toneMap := toneMap options.toneMap
      outputPeakNits := options.outputPeakNits
      realtimeDither := dither options.realtimeDither
      adaptivePaletteLockFrames := options.adaptivePaletteLockFrames
      sceneCutThreshold := options.sceneCutThreshold }
  customOutput := sink
  terminalOverrides :=
    { sixel := .listed (capabilitySupport options.sixelSupportOverride)
      synchronizedOutput := .listed (capabilitySupport options.synchronizedOutputOverride)
      geometry :=
        { columns := options.overrideColumns
          rows := options.overrideRows
          pixelWidth := options.overridePixelWidth
          pixelHeight := options.overridePixelHeight
          cellPixelWidth := options.overrideCellPixelWidth
          cellPixelHeight := options.overrideCellPixelHeight } }
  encoder :=
    { persistPaletteRegisters := options.persistPaletteRegisters != 0
      paletteRefreshFrames := options.paletteRefreshFrames
      outputChunkBytes := options.outputChunkBytes
      maximumThreads := options.maximumEncoderThreads
      independentRegionQuantization := options.independentRegionQuantization != 0 }

/-- What `rasterm_engine_create` asks of the Engine; a sink is made for callbacks. -/
def RastermEngineOptions.request (options : RastermEngineOptions) : RequestedOptions :=
  engineOptions options options.write

/-- The defaults of the two interfaces are the same. -/
theorem request_default : RastermEngineOptions.request {} = {} := by decide +kernel

/-! ### What is let through -/

/-- The checks that the C++ interface has no need of. -/
structure Complete (options : RastermEngineOptions) : Prop where
  structSize : rastermEngineOptionsV1Size ≤ options.structSize
  apiVersion : options.apiVersion = rastermCApiVersion
  quality : 0 ≤ options.quality ∧ options.quality ≤ 2
  toneMap : 0 ≤ options.toneMap ∧ options.toneMap ≤ 3
  realtimeDither : 0 ≤ options.realtimeDither ∧ options.realtimeDither ≤ 2
  callbacks : options.write = options.flush
  sixelSupportOverride : 0 ≤ options.sixelSupportOverride ∧ options.sixelSupportOverride ≤ 2
  synchronizedOutputOverride :
    0 ≤ options.synchronizedOutputOverride ∧ options.synchronizedOutputOverride ≤ 2

theorem nonnegative_none (value : FloatValue) :
    nonnegative value none = value.isNonnegative := by
  cases value <;> simp [nonnegative, FloatValue.isNonnegative]

theorem nonnegative_one (value : FloatValue) (finite : value.isFinite = true) :
    nonnegative value (some 1) = (value.isNonnegative && value.isAtMost 1) := by
  cases value with
  | finite value => rfl
  | infinite negative => cases finite
  | nan => cases finite

/-- The geometry that a caller states. -/
def RastermEngineOptions.geometry (options : RastermEngineOptions) : TerminalGeometry where
  columns := options.overrideColumns
  rows := options.overrideRows
  pixelWidth := options.overridePixelWidth
  pixelHeight := options.overridePixelHeight
  cellPixelWidth := options.overrideCellPixelWidth
  cellPixelHeight := options.overrideCellPixelHeight

theorem quality_ne_unlisted (value unlisted : Int) : quality value ≠ .unlisted unlisted := by
  unfold quality
  split_ifs <;> simp

theorem toneMap_ne_unlisted (value unlisted : Int) : toneMap value ≠ .unlisted unlisted := by
  unfold toneMap
  split_ifs <;> simp

theorem dither_ne_unlisted (value unlisted : Int) : dither value ≠ .unlisted unlisted := by
  unfold dither
  split_ifs <;> simp

/-- No conversion makes an unlisted enumerator. -/
theorem validOptions_engineOptions (options : RastermEngineOptions) (sink : Bool) :
    validOptions (engineOptions options sink) =
      (options.geometry.isValid &&
        0 ≤ options.paletteRefreshFrames && 0 ≤ options.maximumEncoderThreads &&
        options.backpressureThresholdMilliseconds.isFinite &&
        options.backpressureThresholdMilliseconds.isNonnegative &&
        options.outputPeakNits.isFinite && options.outputPeakNits.isPositive &&
        0 ≤ options.adaptivePaletteLockFrames &&
        options.sceneCutThreshold.isFinite && options.sceneCutThreshold.isNonnegative &&
        options.sceneCutThreshold.isAtMost 1) := by
  unfold validOptions engineOptions
  dsimp only
  split
  · exact absurd (by assumption) (quality_ne_unlisted _ _)
  split
  · exact absurd (by assumption) (toneMap_ne_unlisted _ _)
  split
  · exact absurd (by assumption) (dither_ne_unlisted _ _)
  simp only [Bool.true_and, Bool.and_true]
  rfl

theorem validEngineOptions_iff (options : RastermEngineOptions) :
    validEngineOptions options = true ↔
      Complete options ∧ validOptions options.request = true := by
  have threshold : options.sceneCutThreshold.isFinite = true →
      (nonnegative options.sceneCutThreshold (some 1) = true ↔
        options.sceneCutThreshold.isNonnegative = true ∧
          options.sceneCutThreshold.isAtMost 1 = true) := fun finite => by
    rw [nonnegative_one _ finite, Bool.and_eq_true]
  unfold RastermEngineOptions.request
  rw [validOptions_engineOptions]
  unfold validEngineOptions TerminalGeometry.isValid RastermEngineOptions.geometry
  simp only [Bool.and_eq_true, decide_eq_true_eq, nonnegative_none, beq_iff_eq, Bool.not_inj_iff,
    and_assoc]
  constructor
  · rintro ⟨size, version, qualityLow, qualityHigh, toneLow, toneHigh, ditherLow, ditherHigh,
      callbacks, finite, positive, peakFinite, peak, lock, cutFinite, cut, sixelLow, sixelHigh,
      synchronizedLow, synchronizedHigh, columns, rows, width, height, cellWidth, cellHeight,
      paired, refresh, threads⟩
    exact ⟨⟨size, version, ⟨qualityLow, qualityHigh⟩, ⟨toneLow, toneHigh⟩,
      ⟨ditherLow, ditherHigh⟩, callbacks, ⟨sixelLow, sixelHigh⟩,
      ⟨synchronizedLow, synchronizedHigh⟩⟩, columns, rows, width, height, cellWidth, cellHeight,
      paired, refresh, threads, finite, positive, peakFinite, peak, lock, cutFinite,
      (threshold cutFinite).mp cut⟩
  · rintro ⟨complete, columns, rows, width, height, cellWidth, cellHeight, paired, refresh,
      threads, finite, positive, peakFinite, peak, lock, cutFinite, cut⟩
    exact ⟨complete.structSize, complete.apiVersion, complete.quality.1, complete.quality.2,
      complete.toneMap.1, complete.toneMap.2, complete.realtimeDither.1,
      complete.realtimeDither.2, complete.callbacks, finite, positive, peakFinite, peak, lock,
      cutFinite, (threshold cutFinite).mpr cut, complete.sixelSupportOverride.1,
      complete.sixelSupportOverride.2, complete.synchronizedOutputOverride.1,
      complete.synchronizedOutputOverride.2, columns, rows, width, height, cellWidth, cellHeight,
      paired, refresh, threads⟩

/-- The checks before a handle is made let an option structure through as a whole. -/
theorem checkEngineOptions_eq_ok (options : RastermEngineOptions) :
    checkEngineOptions (some options) = .ok options ↔
      Complete options ∧ validOptions options.request = true := by
  rw [← validEngineOptions_iff]
  unfold checkEngineOptions
  dsimp only [Option.getD_some]
  constructor
  · intro passed
    split_ifs at passed with small version invalid
    simpa using invalid
  · intro valid
    have complete := ((validEngineOptions_iff options).mp valid).1
    rw [if_neg (not_lt.mpr complete.structSize), if_neg (not_not.mpr complete.apiVersion),
      if_neg (by simp [valid])]

theorem isValid_iff (rate : FloatValue) :
    (rate.isFinite && nonnegative rate none) =
      PresenterOptions.isValid { maximumFramesPerSecond := rate } := by
  cases rate with
  | finite value => simp [FloatValue.isFinite, nonnegative, PresenterOptions.isValid]
  | infinite negative => rfl
  | nan => rfl

theorem checkPresenterOptions_eq_ok (options : RastermPresenterOptions) :
    checkPresenterOptions (some options) = .ok options ↔
      rastermPresenterOptionsV1Size ≤ options.structSize ∧ Complete options.engine ∧
        validOptions options.engine.request = true ∧
        PresenterOptions.isValid { maximumFramesPerSecond := options.maximumFramesPerSecond } =
          true := by
  rw [← @and_assoc (Complete options.engine), ← validEngineOptions_iff, ← isValid_iff]
  unfold checkPresenterOptions
  dsimp only [Option.getD_some]
  constructor
  · intro passed
    split_ifs at passed with small version invalid
    simp only [Bool.or_eq_true, Bool.not_eq_true', not_or, Bool.not_eq_false] at small invalid
    exact ⟨by simpa using small.1, invalid.1.1, by simp [invalid.1.2, invalid.2]⟩
  · rintro ⟨size, valid, rate⟩
    have complete := ((validEngineOptions_iff options.engine).mp valid).1
    obtain ⟨finite, limit⟩ := Bool.and_eq_true_iff.mp rate
    rw [if_neg (by simp [size, complete.structSize]), if_neg (not_not.mpr complete.apiVersion),
      if_neg (by simp [valid, finite, limit])]

/-! ### Every request -/

def qualityCode : QualityProfile → Int
  | .realtime => 0
  | .adaptiveVideo => 1
  | .highQuality => 2
  | .unlisted value => value

def toneMapCode : ToneMapOperator → Int
  | .none => 0
  | .reinhard => 1
  | .hable => 2
  | .aces => 3
  | .unlisted value => value

def ditherCode : DitherMode → Int
  | .none => 0
  | .orderedBayer4x4 => 1
  | .floydSteinberg => 2
  | .unlisted value => value

def supportCode : SupportOverride → Int
  | .listed .unknown => 0
  | .listed .unsupported => 1
  | .listed .supported => 2
  | .unlisted value => value

/-- The options a C caller sets to ask the same. -/
def asking (request : RequestedOptions) : RastermEngineOptions where
  quality := qualityCode request.quality
  useAlternateScreen := request.useAlternateScreen.toNat
  preserveCursor := request.preserveCursor.toNat
  enableDirtyRegions := request.enableDirtyRegions.toNat
  requireSixelSupport := request.requireSixelSupport.toNat
  useSynchronizedOutput := request.useSynchronizedOutput.toNat
  maximumOutputBytes := request.maximumOutputBytes
  backpressureThresholdMilliseconds := request.backpressureThresholdMilliseconds
  convertToSrgb := request.color.convertToSrgb.toNat
  toneMap := toneMapCode request.color.toneMap
  outputPeakNits := request.color.outputPeakNits
  realtimeDither := ditherCode request.color.realtimeDither
  adaptivePaletteLockFrames := request.color.adaptivePaletteLockFrames
  sceneCutThreshold := request.color.sceneCutThreshold
  write := request.customOutput
  flush := request.customOutput
  sixelSupportOverride := supportCode request.terminalOverrides.sixel
  synchronizedOutputOverride := supportCode request.terminalOverrides.synchronizedOutput
  overrideColumns := request.terminalOverrides.geometry.columns
  overrideRows := request.terminalOverrides.geometry.rows
  overridePixelWidth := request.terminalOverrides.geometry.pixelWidth
  overridePixelHeight := request.terminalOverrides.geometry.pixelHeight
  overrideCellPixelWidth := request.terminalOverrides.geometry.cellPixelWidth
  overrideCellPixelHeight := request.terminalOverrides.geometry.cellPixelHeight
  persistPaletteRegisters := request.encoder.persistPaletteRegisters.toNat
  paletteRefreshFrames := request.encoder.paletteRefreshFrames
  outputChunkBytes := request.encoder.outputChunkBytes
  maximumEncoderThreads := request.encoder.maximumThreads
  independentRegionQuantization := request.encoder.independentRegionQuantization.toNat

/-- No enumerator is unlisted. -/
structure Listed (request : RequestedOptions) : Prop where
  quality : ∀ value, request.quality ≠ .unlisted value
  toneMap : ∀ value, request.color.toneMap ≠ .unlisted value
  dither : ∀ value, request.color.realtimeDither ≠ .unlisted value
  sixel : ∀ value, request.terminalOverrides.sixel ≠ .unlisted value
  synchronizedOutput : ∀ value, request.terminalOverrides.synchronizedOutput ≠ .unlisted value

theorem listed_of_validOptions {request : RequestedOptions} (valid : validOptions request = true) :
    Listed request := by
  unfold validOptions at valid
  simp only [Bool.and_eq_true, and_assoc] at valid
  obtain ⟨quality, toneMap, dither, -, -, -, sixel, synchronizedOutput, -⟩ := valid
  constructor
  · intro value unlisted
    rw [unlisted] at quality
    cases quality
  · intro value unlisted
    rw [unlisted] at toneMap
    cases toneMap
  · intro value unlisted
    rw [unlisted] at dither
    cases dither
  · intro value unlisted
    rw [unlisted] at sixel
    cases sixel
  · intro value unlisted
    rw [unlisted] at synchronizedOutput
    cases synchronizedOutput

theorem quality_qualityCode {profile : QualityProfile} (listed : ∀ value, profile ≠ .unlisted value) :
    quality (qualityCode profile) = profile ∧
      0 ≤ qualityCode profile ∧ qualityCode profile ≤ 2 := by
  cases profile with
  | unlisted value => exact absurd rfl (listed value)
  | _ => decide

theorem toneMap_toneMapCode {operator : ToneMapOperator}
    (listed : ∀ value, operator ≠ .unlisted value) :
    toneMap (toneMapCode operator) = operator ∧
      0 ≤ toneMapCode operator ∧ toneMapCode operator ≤ 3 := by
  cases operator with
  | unlisted value => exact absurd rfl (listed value)
  | _ => decide

theorem dither_ditherCode {mode : DitherMode} (listed : ∀ value, mode ≠ .unlisted value) :
    dither (ditherCode mode) = mode ∧ 0 ≤ ditherCode mode ∧ ditherCode mode ≤ 2 := by
  cases mode with
  | unlisted value => exact absurd rfl (listed value)
  | _ => decide

theorem capabilitySupport_supportCode {support : SupportOverride}
    (listed : ∀ value, support ≠ .unlisted value) :
    SupportOverride.listed (capabilitySupport (supportCode support)) = support ∧
      0 ≤ supportCode support ∧ supportCode support ≤ 2 := by
  cases support with
  | unlisted value => exact absurd rfl (listed value)
  | listed support => cases support <;> decide

theorem flag_toNat (flag : Bool) : ((flag.toNat : Int) != 0) = flag := by
  cases flag <;> rfl

theorem request_asking {request : RequestedOptions} (listed : Listed request)
    (silent : request.diagnostics = {}) (unheard : request.events = {}) :
    (asking request).request = request := by
  have quality := (quality_qualityCode listed.quality).1
  have toneMap := (toneMap_toneMapCode listed.toneMap).1
  have dither := (dither_ditherCode listed.dither).1
  have sixel := (capabilitySupport_supportCode listed.sixel).1
  have synchronizedOutput := (capabilitySupport_supportCode listed.synchronizedOutput).1
  unfold RastermEngineOptions.request engineOptions asking
  simp only [flag_toNat, quality, toneMap, dither, sixel, synchronizedOutput]
  rw [← silent, ← unheard]

theorem complete_asking {request : RequestedOptions} (listed : Listed request) :
    Complete (asking request) where
  structSize := Nat.le_refl _
  apiVersion := rfl
  quality := (quality_qualityCode listed.quality).2
  toneMap := (toneMap_toneMapCode listed.toneMap).2
  realtimeDither := (dither_ditherCode listed.dither).2
  callbacks := rfl
  sixelSupportOverride := (capabilitySupport_supportCode listed.sixel).2
  synchronizedOutputOverride := (capabilitySupport_supportCode listed.synchronizedOutput).2

/-- The two validations agree: the C interface lets a structure through exactly if it is complete
and the Engine takes the request made of it (which the Engine then never refuses as invalid), for
a Presenter with a limit the Presenter takes; and every request the Engine takes that asks for no
diagnostics and no events is made of a structure that is let through. -/
theorem requests_exact :
    (∀ options, checkEngineOptions (some options) = .ok options ↔
      Complete options ∧ validOptions options.request = true) ∧
    (∀ options, checkPresenterOptions (some options) = .ok options ↔
      rastermPresenterOptionsV1Size ≤ options.structSize ∧ Complete options.engine ∧
        validOptions options.engine.request = true ∧
        PresenterOptions.isValid { maximumFramesPerSecond := options.maximumFramesPerSecond } =
          true) ∧
    ∀ request, validOptions request = true → request.diagnostics = {} → request.events = {} →
      ∃ options, checkEngineOptions (some options) = .ok options ∧ options.request = request := by
  refine ⟨checkEngineOptions_eq_ok, checkPresenterOptions_eq_ok, ?_⟩
  intro request valid silent unheard
  have listed := listed_of_validOptions valid
  have same := request_asking listed silent unheard
  refine ⟨asking request, ?_, same⟩
  rw [checkEngineOptions_eq_ok, same]
  exact ⟨complete_asking listed, valid⟩

end Rasterm.Capi
