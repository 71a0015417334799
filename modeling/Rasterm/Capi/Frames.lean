import Rasterm.Engine.Engine

/-!
Contract: the frames a C caller passes, and what of them the C interface checks itself.

Owns the v1 structures of a submission, the result codes, the conversion of colour
metadata and formats, and that metadata let through here is metadata the Engine accepts.

Does not own the calls. Reserved fields and bytes behind the v1 prefix are not read.
-/

set_option autoImplicit false

namespace Rasterm.Capi

inductive RastermResult where
  | success
  | invalidArgument
  | invalidOutputHandle
  | outputIsNotConsole
  | consoleModeQueryFailed
  | consoleModeEnableFailed
  | terminalDimensionsUnavailable
  | unsupportedTerminal
  | stdoutModeFailed
  | controlHandlerRegistrationFailed
  | diagnosticOpenFailed
  | outputWriteFailed
  | outputFlushFailed
  | outputBufferLimitExceeded
  | presenterThreadStartFailed
  | initializationException
  | renderingException
  | bufferTooSmall
  | apiVersionMismatch
  | outOfMemory
  | presenterStopped
  | timedOut
deriving DecidableEq, Repr

def result : ErrorCode → RastermResult
  | .none => .success
  | .invalidArgument => .invalidArgument
  | .invalidOutputHandle => .invalidOutputHandle
  | .outputIsNotConsole => .outputIsNotConsole
  | .consoleModeQueryFailed => .consoleModeQueryFailed
  | .consoleModeEnableFailed => .consoleModeEnableFailed
  | .terminalDimensionsUnavailable => .terminalDimensionsUnavailable
  | .unsupportedTerminal => .unsupportedTerminal
  | .stdoutModeFailed => .stdoutModeFailed
  | .controlHandlerRegistrationFailed => .controlHandlerRegistrationFailed
  | .diagnosticOpenFailed => .diagnosticOpenFailed
  | .outputWriteFailed => .outputWriteFailed
  | .outputFlushFailed => .outputFlushFailed
  | .outputBufferLimitExceeded => .outputBufferLimitExceeded
  | .presenterThreadStartFailed => .presenterThreadStartFailed
  | .initializationException => .initializationException
  | .renderingException => .renderingException
  | .bufferTooSmall => .bufferTooSmall
  | .apiVersionMismatch => .apiVersionMismatch
  | .outOfMemory => .outOfMemory
  | .presenterStopped => .presenterStopped
  | .timedOut => .timedOut

/-- What a call returns, and what it leaves as its thread's last error. -/
structure Answer where
  code : RastermResult
  globalLastError : String
deriving DecidableEq, Repr

def failure (code : RastermResult) (message : String) : Answer := ⟨code, message⟩

def succeeded : Answer := ⟨.success, ""⟩

/-! ### Metadata -/

structure RastermColorMetadata where
  primaries : Int := 1
  transfer : Int := 1
  matrix : Int := 1
  range : Int := 2
  referenceWhiteNits : FloatValue := .finite 203
  masteringPeakNits : FloatValue := .finite 1000

structure RastermFrameMetadata where
  frameId : Nat := 0
  timestampNanoseconds : Int := unknownTimestamp
  color : RastermColorMetadata := {}
  sourceColor : RastermColorMetadata := { primaries := 0, transfer := 0, matrix := 0, range := 0 }
  damageRects : Option (Nat → DamageRect) := none
  damageCount : Nat := 0
  damageSupplied : Int := 0

def maximumDamageRectangles : Nat := 65536

def validColor (color : RastermColorMetadata) : Bool :=
  0 ≤ color.primaries && color.primaries ≤ 3 && 0 ≤ color.transfer && color.transfer ≤ 6 &&
    0 ≤ color.matrix && color.matrix ≤ 4 && 0 ≤ color.range && color.range ≤ 2 &&
    color.referenceWhiteNits.isFinite && color.referenceWhiteNits.isPositive &&
    color.masteringPeakNits.isFinite && color.masteringPeakNits.isPositive

def color (value : RastermColorMetadata) : ColorMetadata where
  primaries :=
    match value.primaries with
    | 1 => .bt709
    | 2 => .bt2020
    | 3 => .displayP3
    | _ => .unspecified
  transfer :=
    match value.transfer with
    | 1 => .srgb
    | 2 => .linear
    | 3 => .bt709
    | 4 => .gamma22
    | 5 => .pq
    | 6 => .hlg
    | _ => .unspecified
  matrix :=
    match value.matrix with
    | 1 => .identity
    | 2 => .bt601
    | 3 => .bt709
    | 4 => .bt2020NonConstant
    | _ => .unspecified
  range :=
    if value.range = 1 then .limited
    else if value.range = 2 then .full
    else .unspecified
  referenceWhiteNits := value.referenceWhiteNits
  masteringPeakNits := value.masteringPeakNits

def validMetadata (metadata : RastermFrameMetadata) : Bool :=
  !(!validColor metadata.color || !validColor metadata.sourceColor ||
    metadata.damageCount > maximumDamageRectangles ||
    (metadata.damageCount > 0 && metadata.damageRects.isNone) ||
    (metadata.damageSupplied == 0 &&
      (metadata.damageCount != 0 || metadata.damageRects.isSome)))

/-- The list a caller's pointer and count denote. -/
def RastermFrameMetadata.rects (metadata : RastermFrameMetadata) : List DamageRect :=
  match metadata.damageRects with
  | some rectangles => (List.range metadata.damageCount).map rectangles
  | none => []

structure RastermFrame where
  structSize : Nat := 224
  data : Option Memory := none
  width : Int := 0
  height : Int := 0
  stride : Int := 0
  format : Int := 0
  metadata : RastermFrameMetadata := {}

structure RastermIndexedFrame where
  structSize : Nat := 232
  indices : Option Memory := none
  width : Int := 0
  height : Int := 0
  stride : Int := 0
  palette : Option (Nat → RgbColor) := none
  paletteSize : Nat := 0
  metadata : RastermFrameMetadata := {}

def rastermFrameV1Size : Nat := 224

def rastermIndexedFrameV1Size : Nat := 232

def pixelFormat (value : Int) : PixelFormat :=
  if value = 1 then .bgr24
  else if value = 2 then .rgba32
  else if value = 3 then .bgra32
  else if value = 4 then .rgb565
  else if value = 5 then .xrgb1555
  else if value = 6 then .rgba4444
  else .rgb24

def invalidStride (stride : Int) : Bool :=
  stride ≤ 0 || stride > ptrdiffMax || stride < -ptrdiffMax - 1

/-- The checks of `rasterm_presenter_submit` before it copies anything. -/
def checkFrame (frame : Option RastermFrame) : Except Answer RastermFrame :=
  match frame with
  | none => .error (failure .invalidArgument "presenter and frame must not be null.")
  | some frame =>
      if frame.structSize < rastermFrameV1Size then
        .error (failure .bufferTooSmall "rasterm_frame is smaller than the v1 prefix.")
      else if frame.format < 0 || frame.format > 6 || invalidStride frame.stride then
        .error (failure .invalidArgument "Packed frame format or stride is invalid.")
      else .ok frame

/-- The checks of `rasterm_presenter_submit_indexed` before it copies anything. -/
def checkIndexedFrame (frame : Option RastermIndexedFrame) : Except Answer RastermIndexedFrame :=
  match frame with
  | none => .error (failure .invalidArgument "presenter and indexed frame must not be null.")
  | some frame =>
      if frame.structSize < rastermIndexedFrameV1Size then
        .error (failure .bufferTooSmall "rasterm_indexed_frame is smaller than the v1 prefix.")
      else if invalidStride frame.stride || frame.paletteSize > 256 ||
          (frame.paletteSize > 0 && frame.palette.isNone) then
        .error (failure .invalidArgument "Indexed frame stride or palette is invalid.")
      else .ok frame

/-- The entries a caller's pointer and size denote. -/
def RastermIndexedFrame.colors (frame : RastermIndexedFrame) : List RgbColor :=
  match frame.palette with
  | some colors => (List.range frame.paletteSize).map colors
  | none => []

end Rasterm.Capi
