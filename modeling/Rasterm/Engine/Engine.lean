import Rasterm.Color.ColorConverter
import Rasterm.Render.Renderer

/-!
Contract: `Engine` between a successful `initialize` and `shutdown`: validation of
frame metadata, colour management in front of the renderer, and the bookkeeping of
every render.

Owns the unpacking of 16-bit formats, the order geometry, conversion, rendering,
and the calls a caller can make. Times, diagnostics and exceptions are left out;
what the console reports as its geometry is an argument of the call.
-/

set_option autoImplicit false

namespace Rasterm

def validColorMetadata (color : ColorMetadata) : Bool :=
  let validPrimaries := match color.primaries with
    | .unlisted _ => false
    | _ => true
  let validTransfer := match color.transfer with
    | .unlisted _ => false
    | _ => true
  let validMatrix := match color.matrix with
    | .unlisted _ => false
    | _ => true
  let validRange := match color.range with
    | .unlisted _ => false
    | _ => true
  validPrimaries && validTransfer && validMatrix && validRange &&
    color.referenceWhiteNits.isFinite && color.referenceWhiteNits.isPositive &&
    color.masteringPeakNits.isFinite && color.masteringPeakNits.isPositive

def validMetadata (metadata : FrameMetadata) : Bool :=
  validColorMetadata metadata.color && validColorMetadata metadata.sourceColor &&
    (metadata.damage.count == 0 || metadata.damage.rectangles.isSome) &&
    (metadata.damage.supplied ||
      (metadata.damage.count == 0 && metadata.damage.rectangles.isNone))

structure TerminalGeometry where
  columns : Int := 0
  rows : Int := 0
  pixelWidth : Int := 0
  pixelHeight : Int := 0
  cellPixelWidth : Int := 0
  cellPixelHeight : Int := 0
deriving DecidableEq, Repr

inductive Event where
  | terminalResized (geometry : TerminalGeometry)
  | frameDropped (frameId : Nat) (timestampNanoseconds : Int)
  | outputFailure (error : ErrorCode) (frameId : Nat) (timestampNanoseconds : Int)
deriving DecidableEq, Repr

structure Status where
  code : ErrorCode := .none
  message : String := ""
deriving DecidableEq, Repr

structure RenderStats where
  error : ErrorCode := .none
  rendered : Bool := false
  fullFrame : Bool := false
  payloadBytes : Nat := 0
  dirtyRegions : Nat := 0
  width : Int := 0
  height : Int := 0
  colorsUsed : Nat := 0
  outputFailures : Nat := 0
  payloadLimitDrops : Nat := 0
  wireBytes : Nat := 0
deriving DecidableEq, Repr

structure EngineOptions where
  color : ColorOptions := {}
  /-- `output != nullptr`. -/
  customOutput : Bool := false
  /-- `terminalOverrides.geometry`. -/
  geometryOverride : TerminalGeometry := {}

structure Engine where
  options : EngineOptions
  renderer : Renderer
  /-- `detectedCapabilities.geometry`. -/
  geometry : TerminalGeometry := {}
  convertedFrame : Memory := fun _ => 0
  colorConverter : ColorConverter := {}
  latestStats : RenderStats := {}
  latestStatus : Status := {}
  outputFailures : Nat := 0
  payloadLimitDrops : Nat := 0
  /-- Everything `emit` has passed to the callback. -/
  events : List Event := []

namespace Engine

/-! ### Colour management -/

/-- One 16-bit pixel as RGB24. -/
def unpackedPixel (frame : FrameView) (x y : Nat) : List UInt8 :=
  let pixel := packed16 (frame.pixel x y)
  if frame.format = .rgb565 then
    [expand5 ((pixel >>> 11) &&& 0x1f), expand6 ((pixel >>> 5) &&& 0x3f), expand5 (pixel &&& 0x1f)]
  else if frame.format = .xrgb1555 then
    [expand5 ((pixel >>> 10) &&& 0x1f), expand5 ((pixel >>> 5) &&& 0x1f), expand5 (pixel &&& 0x1f)]
  else
    [expand4 ((pixel >>> 12) &&& 0x0f), expand4 ((pixel >>> 8) &&& 0x0f),
      expand4 ((pixel >>> 4) &&& 0x0f)]

/-- 16-bit frames that have to be converted are unpacked first. -/
def unpack (engine : Engine) (frame : FrameView) : Engine × FrameView :=
  let needsColorConversion :=
    engine.options.color.convertToSrgb && !alreadySrgb frame.metadata.color
  if bytesPerPixel frame.format == 2 && needsColorConversion then
    let outputStride := frame.width.toNat * 3
    let convertedFrame := Canvas.fill (unpackedPixel frame) outputStride 3 0 0 frame.width.toNat
      frame.height.toNat engine.convertedFrame
    ({ engine with convertedFrame := convertedFrame },
      { data := some convertedFrame
        width := frame.width
        height := frame.height
        stride := outputStride
        format := .rgb24
        metadata := frame.metadata })
  else (engine, frame)

/-- The frame the renderer gets. -/
def colorManaged (host : Host) (engine : Engine) (frame : FrameView) : Engine × FrameView :=
  let unpacked := engine.unpack frame
  let converted := unpacked.1.colorConverter.toSrgb host unpacked.2 engine.options.color
  ({ unpacked.1 with colorConverter := converted.1 }, converted.2)

/-! ### Bookkeeping -/

def renderErrorMessage : ErrorCode → String
  | .outputWriteFailed => "The output sink rejected terminal bytes."
  | .outputFlushFailed => "The output sink could not flush terminal bytes."
  | .outputBufferLimitExceeded => "The encoded frame exceeded the configured output ceiling."
  | _ => "rasterm could not render the frame."

def invalidFrame (engine : Engine) (message : String) : Engine × RenderStats :=
  ({ engine with
      latestStatus := ⟨.invalidArgument, message⟩
      latestStats := { error := .invalidArgument } }, { error := .invalidArgument })

def record (engine : Engine) (result : RenderResult) (width height : Int)
    (metadata : FrameMetadata) : Engine × RenderStats :=
  let outputFailures :=
    if result.error = .outputWriteFailed ∨ result.error = .outputFlushFailed then
      engine.outputFailures + 1
    else engine.outputFailures
  let payloadLimitDrops :=
    if result.error = .outputBufferLimitExceeded then engine.payloadLimitDrops + 1
    else engine.payloadLimitDrops
  let stats : RenderStats :=
    { error := result.error
      rendered := result.rendered
      fullFrame := result.usedFullFrame
      payloadBytes := result.outputBytes
      dirtyRegions := result.dirtyRegionCount
      width := width
      height := height
      colorsUsed := result.colorsUsed
      outputFailures := outputFailures
      payloadLimitDrops := payloadLimitDrops
      wireBytes := result.wireBytes }
  let counted := { engine with
    latestStats := stats
    outputFailures := outputFailures
    payloadLimitDrops := payloadLimitDrops }
  if result.error ≠ .none then
    ({ counted with
        latestStatus := ⟨result.error, renderErrorMessage result.error⟩
        events := engine.events ++
          [.outputFailure result.error metadata.frameId metadata.timestampNanoseconds] }, stats)
  else ({ counted with latestStatus := {} }, stats)

/-! ### Rendering -/

/-- `applyOverrides`, as far as the geometry goes. -/
def applyOverrides (source destination : TerminalGeometry) : TerminalGeometry where
  columns := if source.columns > 0 then source.columns else destination.columns
  rows := if source.rows > 0 then source.rows else destination.rows
  pixelWidth := if source.pixelWidth > 0 then source.pixelWidth else destination.pixelWidth
  pixelHeight := if source.pixelHeight > 0 then source.pixelHeight else destination.pixelHeight
  cellPixelWidth :=
    if source.cellPixelWidth > 0 then source.cellPixelWidth else destination.cellPixelWidth
  cellPixelHeight :=
    if source.cellPixelWidth > 0 then source.cellPixelHeight else destination.cellPixelHeight

/-- `observed` is what the console reports now. -/
def refreshTerminalGeometry (engine : Engine) (observed : TerminalGeometry) : Engine :=
  if engine.options.customOutput then engine
  else
    let geometry := applyOverrides engine.options.geometryOverride observed
    if geometry.columns ≤ 0 ∨ geometry.rows ≤ 0 ∨
        (geometry.columns = engine.geometry.columns ∧ geometry.rows = engine.geometry.rows ∧
          geometry.cellPixelWidth = engine.geometry.cellPixelWidth ∧
          geometry.cellPixelHeight = engine.geometry.cellPixelHeight) then engine
    else
      { engine with
        geometry := geometry
        renderer := (engine.renderer.updateCellPixels
          ⟨geometry.cellPixelWidth, geometry.cellPixelHeight⟩).reset
        events := engine.events ++ [.terminalResized geometry] }

def renderPackedFrame (host : Host) (engine : Engine) (observed : TerminalGeometry)
    (frame : FrameView) : Engine × RenderStats :=
  if !frame.isValid || !validMetadata frame.metadata then
    engine.invalidFrame "Packed frame validation failed."
  else
    let managed := (engine.refreshTerminalGeometry observed).colorManaged host frame
    let rendered := managed.1.renderer.render host (.packed managed.2)
    { managed.1 with renderer := rendered.1 }.record rendered.2 managed.2.width managed.2.height
      managed.2.metadata

def renderValidatedIndexedFrame (host : Host) (engine : Engine) (observed : TerminalGeometry)
    (frame : IndexedFrameView) : Engine × RenderStats :=
  if !frame.isValid || !validMetadata frame.metadata then
    engine.invalidFrame "Indexed frame validation failed."
  else
    let refreshed := engine.refreshTerminalGeometry observed
    let rendered := refreshed.renderer.renderValidated host frame
    { refreshed with renderer := rendered.1 }.record rendered.2 frame.width frame.height
      frame.metadata

def renderIndexedFrame (host : Host) (engine : Engine) (observed : TerminalGeometry)
    (frame : IndexedFrameView) : Engine × RenderStats :=
  if !frame.hasValidIndices || !validMetadata frame.metadata then
    engine.invalidFrame "Indexed frame validation failed."
  else engine.renderValidatedIndexedFrame host observed frame

/-- The overloads of `renderFrame`. -/
def renderFrame (host : Host) (engine : Engine) (observed : TerminalGeometry) :
    Frame → Engine × RenderStats
  | .packed frame => engine.renderPackedFrame host observed frame
  | .indexed frame => engine.renderIndexedFrame host observed frame

def clear (engine : Engine) : Engine × Status :=
  let cleared := engine.renderer.clear
  let status : Status :=
    if cleared.2 ≠ .none then ⟨cleared.2, renderErrorMessage cleared.2⟩ else {}
  ({ engine with renderer := cleared.1, latestStatus := status }, status)

def reset (engine : Engine) : Engine :=
  { engine with
    renderer := engine.renderer.reset
    colorConverter := engine.colorConverter.reset
    latestStats := {} }

/-- The frames `renderFrame` does not refuse. -/
def accepts : Frame → Bool
  | .packed frame => frame.isValid && validMetadata frame.metadata
  | .indexed frame => frame.hasValidIndices && validMetadata frame.metadata

inductive Call where
  | render (observed : TerminalGeometry) (frame : Frame)
  | clear
  | reset

def perform (host : Host) (engine : Engine) : Call → Engine
  | .render observed frame => (engine.renderFrame host observed frame).1
  | .clear => engine.clear.1
  | .reset => engine.reset

/-! ### What a render leaves alone -/

section Frames

variable {host : Host} {engine : Engine} {observed : TerminalGeometry}

@[simp] theorem colorConverter_refreshTerminalGeometry :
    (engine.refreshTerminalGeometry observed).colorConverter = engine.colorConverter := by
  simp only [refreshTerminalGeometry]
  split_ifs <;> rfl

@[simp] theorem options_refreshTerminalGeometry :
    (engine.refreshTerminalGeometry observed).options = engine.options := by
  simp only [refreshTerminalGeometry]
  split_ifs <;> rfl

@[simp] theorem convertedFrame_refreshTerminalGeometry :
    (engine.refreshTerminalGeometry observed).convertedFrame = engine.convertedFrame := by
  simp only [refreshTerminalGeometry]
  split_ifs <;> rfl

@[simp] theorem colorConverter_record (result : RenderResult) (width height : Int)
    (metadata : FrameMetadata) :
    (engine.record result width height metadata).1.colorConverter = engine.colorConverter := by
  simp only [record]
  split_ifs <;> rfl

@[simp] theorem options_record (result : RenderResult) (width height : Int)
    (metadata : FrameMetadata) :
    (engine.record result width height metadata).1.options = engine.options := by
  simp only [record]
  split_ifs <;> rfl

@[simp] theorem options_unpack (frame : FrameView) : (engine.unpack frame).1.options =
    engine.options := by
  simp only [unpack]
  split_ifs <;> rfl

@[simp] theorem colorConverter_unpack (frame : FrameView) :
    (engine.unpack frame).1.colorConverter = engine.colorConverter := by
  simp only [unpack]
  split_ifs <;> rfl

/-- A refused frame changes neither the picture nor the cache. -/
theorem renderFrame_of_refused {frame : Frame} (refused : accepts frame = false) :
    (engine.renderFrame host observed frame).1.colorConverter = engine.colorConverter ∧
      (engine.renderFrame host observed frame).1.renderer = engine.renderer := by
  cases frame with
  | packed view =>
      have invalid : (!view.isValid || !validMetadata view.metadata) = true := by
        rw [← Bool.not_and, Bool.not_eq_true']
        exact refused
      rw [renderFrame, renderPackedFrame, if_pos invalid]
      exact ⟨rfl, rfl⟩
  | indexed view =>
      have invalid : (!view.hasValidIndices || !validMetadata view.metadata) = true := by
        rw [← Bool.not_and, Bool.not_eq_true']
        exact refused
      rw [renderFrame, renderIndexedFrame, if_pos invalid]
      exact ⟨rfl, rfl⟩

theorem colorConverter_renderPackedFrame {view : FrameView}
    (accepted : accepts (.packed view) = true) :
    (engine.renderPackedFrame host observed view).1.colorConverter =
      (engine.colorManaged host view).1.colorConverter := by
  have valid : ¬ (!view.isValid || !validMetadata view.metadata) = true := by
    rw [← Bool.not_and, Bool.not_eq_true', Bool.not_eq_false]
    exact accepted
  rw [renderPackedFrame, if_neg valid]
  simp only [colorConverter_record, colorManaged, colorConverter_unpack,
    colorConverter_refreshTerminalGeometry, options_refreshTerminalGeometry]
  simp only [unpack, options_refreshTerminalGeometry, convertedFrame_refreshTerminalGeometry]
  split_ifs <;> rfl

theorem colorConverter_renderIndexedFrame (view : IndexedFrameView) :
    (engine.renderIndexedFrame host observed view).1.colorConverter = engine.colorConverter := by
  simp only [renderIndexedFrame, renderValidatedIndexedFrame]
  split_ifs <;> simp [invalidFrame]

@[simp] theorem options_renderFrame (frame : Frame) :
    (engine.renderFrame host observed frame).1.options = engine.options := by
  cases frame with
  | packed view =>
      simp only [renderFrame, renderPackedFrame]
      split_ifs <;> simp [invalidFrame, colorManaged]
  | indexed view =>
      simp only [renderFrame, renderIndexedFrame, renderValidatedIndexedFrame]
      split_ifs <;> simp [invalidFrame]

@[simp] theorem options_perform (call : Call) : (engine.perform host call).options =
    engine.options := by
  cases call with
  | render observed frame => exact options_renderFrame frame
  | clear => rfl
  | reset => rfl

end Frames

end Engine

end Rasterm
