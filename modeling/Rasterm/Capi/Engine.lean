import Rasterm.Capi.Options
import Rasterm.Capi.Presenter
import Rasterm.Library.CString

/-!
Contract: the C functions on an engine handle, each with every way it can end and the text
it then leaves for the caller.

Owns the message buffer of a thread, `copyError`, and the handle with its own last error.
The engine is a parameter: it may answer anything, and it may throw.

Does not own what is written into a caller's statistics or capabilities.
-/

set_option autoImplicit false

universe u v

namespace Rasterm.Capi

/-! ### Messages -/

def errorCapacity : Nat := 512

/-- The type of `globalLastError`. -/
abbrev ErrorBuffer := CString (errorCapacity - 1)

/-- `std::string::data`. -/
def messageBytes (message : String) : List UInt8 := message.toUTF8.data.toList

def setGlobalError (buffer : ErrorBuffer) (message : String) : ErrorBuffer :=
  buffer.store (messageBytes message)

/-- What is read back of a message. -/
def errorText (message : String) : List UInt8 :=
  CString.cut (errorCapacity - 1) (messageBytes message)

theorem text_setGlobalError (buffer : ErrorBuffer) (message : String) :
    (setGlobalError buffer message).text = errorText message :=
  CString.text_store _ _

/-- The end of a call that reports what C++ answered. -/
def concluded (code : RastermResult) (message : String) : Answer :=
  if code = .success then succeeded else failure code message

structure ErrorCopy where
  code : RastermResult
  requiredSize : Nat
  /-- What is written into the caller's buffer. -/
  written : Option (List UInt8)
deriving DecidableEq

/-- `capacity` is that of a buffer that is not null. -/
def copyError (message : List UInt8) (capacity : Option Nat) : ErrorCopy :=
  let required := message.length + 1
  match capacity with
  | some capacity =>
      if capacity < required then ⟨.bufferTooSmall, required, none⟩
      else ⟨.success, required, some (message ++ [0])⟩
  | none => ⟨.bufferTooSmall, required, none⟩

/-- The size that a query without a buffer asks for is enough for the next one. -/
theorem copyError_requiredSize (message : List UInt8) :
    copyError message (some (copyError message none).requiredSize) =
      ⟨.success, message.length + 1, some (message ++ [0])⟩ := by
  simp [copyError]

/-! ### What a call does not determine -/

inductive Thrown where
  | badAlloc
  | other

/-- The answer of a `catch` of `bad_alloc`, or of the `catch` of the rest. -/
def Thrown.answer (outOfMemory : String) (unexpected : Answer) : Thrown → Answer
  | badAlloc => failure .outOfMemory outOfMemory
  | other => unexpected

/-- The surroundings of one call. -/
structure Circumstances (Input : Type v) where
  /-- What the engine learns from outside. -/
  input : Input
  /-- The staging vectors cannot grow. -/
  damageFull : Bool := false
  paletteFull : Bool := false
  /-- What is read behind the end of a vector. -/
  stray : Nat → DamageRect := fun _ => {}
  /-- The C++ call throws. -/
  thrown : Option Thrown := none
  /-- A message cannot be copied. -/
  messageFull : Bool := false
  /-- What starting a worker leads to. -/
  threadStatus : Status := {}
  heap : Heap := {}
  /-- What a Presenter does while C++ waits, and before it is asked for its status. -/
  during : List (Rasterm.Label Input) := []
  after : List (Rasterm.Label Input) := []

/-- Copying this message throws. -/
def Circumstances.failsToCopy {Input : Type v} (around : Circumstances Input) (message : String) :
    Bool :=
  around.messageFull && !message.isEmpty

/-- An engine as the C interface uses it. -/
structure EngineObject (Device : Type u) (Input : Type v) extends EngineCalls Device Input where
  /-- `Engine::initialize`. -/
  start : Input → RastermEngineOptions → Device × Status
  clear : Device → Device × Status
  /-- What an exception leaves of an engine. -/
  unwound : Device → Device

/-! ### The functions -/

structure RastermEngine (Device : Type u) where
  engine : Device
  damage : Staging DamageRect := .empty
  palette : Staging RgbColor := .empty
  lastError : String := ""

/-- A structure is passed, and it is smaller than its v1 prefix. -/
def isSmaller (structSize : Option Nat) (v1Size : Nat) : Bool := structSize.any (· < v1Size)

section Functions

variable {Device : Type u} {Input : Type v}

/-- `given` says that `output_engine` is not null. -/
def rastermEngineCreate (object : EngineObject Device Input) (around : Circumstances Input)
    (requested : Option RastermEngineOptions) (given : Bool) :
    Option (RastermEngine Device) × Answer :=
  if !given then (none, failure .invalidArgument "output_engine must not be null.")
  else
    match checkEngineOptions requested with
    | .error answer => (none, answer)
    | .ok options =>
        let caught := Thrown.answer "rasterm could not allocate an engine handle."
          (failure .initializationException "Unexpected exception while creating an engine.")
        match around.thrown with
        | some thrown => (none, caught thrown)
        | none =>
            let (engine, initialized) := object.start around.input options
            if around.failsToCopy initialized.message then (none, caught .badAlloc)
            else
              (some { engine := engine, lastError := initialized.message },
                concluded (result initialized.code) initialized.message)

/-- From the call of `Engine::renderFrame` on; `caught` are the two `catch` clauses. -/
def renderStaged (object : EngineObject Device Input) (around : Circumstances Input)
    (engine : RastermEngine Device) (frame : Frame) (caught : Thrown → Answer) :
    RastermEngine Device × Answer :=
  match around.thrown with
  | some thrown => ({ engine with engine := object.unwound engine.engine }, caught thrown)
  | none =>
      let (device, rendered) := object.renderFrame around.input frame engine.engine
      if rendered.error = .none then
        ({ engine with engine := device, lastError := "" }, succeeded)
      else
        let status := object.status device
        if around.failsToCopy status.message then
          ({ engine with engine := device }, caught .badAlloc)
        else
          ({ engine with engine := device, lastError := status.message },
            concluded (result rendered.error) status.message)

/-- `stats` is the size of a statistics structure that is not null. -/
def rastermEngineRender (object : EngineObject Device Input) (around : Circumstances Input)
    (engine : RastermEngine Device) (frame : Option RastermFrame) (stats : Option Nat) :
    RastermEngine Device × Answer :=
  match frame with
  | none => (engine, failure .invalidArgument "engine and frame must not be null.")
  | some frame =>
      if frame.structSize < rastermFrameV1Size || isSmaller stats rastermRenderStatsV1Size then
        (engine, failure .bufferTooSmall "A C API structure is smaller than its v1 prefix.")
      else if frame.format < 0 || frame.format > 6 || invalidStride frame.stride then
        (engine, failure .invalidArgument "Packed frame format or stride is invalid.")
      else
        let caught := Thrown.answer "rasterm could not allocate packed-frame resources."
          (failure .renderingException "Unexpected exception while rendering a packed frame.")
        let (damage, copied) := copyMetadata engine.damage around.damageFull frame.metadata
        let staged := { engine with damage := damage }
        match copied with
        | .refused => (staged, failure .invalidArgument "Packed frame metadata is invalid.")
        | .threw => (staged, caught .badAlloc)
        | .copied metadata =>
            renderStaged object around staged
              (.packed
                { data := frame.data
                  width := frame.width
                  height := frame.height
                  stride := frame.stride
                  format := pixelFormat frame.format
                  metadata := metadata.view damage around.stray })
              caught

def rastermEngineRenderIndexed (object : EngineObject Device Input) (around : Circumstances Input)
    (engine : RastermEngine Device) (frame : Option RastermIndexedFrame) (stats : Option Nat) :
    RastermEngine Device × Answer :=
  match frame with
  | none => (engine, failure .invalidArgument "engine and indexed frame must not be null.")
  | some frame =>
      if frame.structSize < rastermIndexedFrameV1Size ||
          isSmaller stats rastermRenderStatsV1Size then
        (engine, failure .bufferTooSmall "A C API structure is smaller than its v1 prefix.")
      else if invalidStride frame.stride || frame.paletteSize > 256 ||
          (frame.paletteSize > 0 && frame.palette.isNone) then
        (engine, failure .invalidArgument "Indexed frame stride or palette is invalid.")
      else
        let caught := Thrown.answer "rasterm could not allocate indexed frame resources."
          (failure .renderingException "Unexpected exception while rendering an indexed frame.")
        let (damage, copied) := copyMetadata engine.damage around.damageFull frame.metadata
        let staged := { engine with damage := damage }
        match copied with
        | .refused => (staged, failure .invalidArgument "Indexed frame metadata is invalid.")
        | .threw => (staged, caught .badAlloc)
        | .copied metadata =>
            let (palette, fits) := copyPalette engine.palette around.paletteFull frame
            let colored := { staged with palette := palette }
            if !fits then (colored, caught .badAlloc)
            else
              renderStaged object around colored
                (.indexed
                  { indices := frame.indices
                    width := frame.width
                    height := frame.height
                    stride := frame.stride
                    palette := PaletteView.ofList palette.elements
                    metadata := metadata.view damage around.stray })
                caught

def rastermEngineClear (object : EngineObject Device Input) (around : Circumstances Input)
    (engine : RastermEngine Device) : RastermEngine Device × Answer :=
  let caught := Thrown.answer "rasterm could not allocate clear frame resources."
    (failure .renderingException "Unexpected exception while clearing the output.")
  match around.thrown with
  | some thrown => ({ engine with engine := object.unwound engine.engine }, caught thrown)
  | none =>
      let (device, cleared) := object.clear engine.engine
      if around.failsToCopy cleared.message then
        ({ engine with engine := device }, caught .badAlloc)
      else
        ({ engine with engine := device, lastError := cleared.message },
          concluded (result cleared.code) cleared.message)

/-- The handle keeps its last error. -/
def rastermEngineReset (object : EngineObject Device Input) (around : Circumstances Input)
    (engine : RastermEngine Device) : RastermEngine Device × Answer :=
  match around.thrown with
  | some thrown =>
      ({ engine with engine := object.unwound engine.engine },
        thrown.answer "rasterm could not allocate reset resources."
          (failure .renderingException "Unexpected exception while resetting the engine."))
  | none => ({ engine with engine := object.reset engine.engine }, succeeded)

def rastermEngineGetStats (stats : Option Nat) : Answer :=
  match stats with
  | none => failure .invalidArgument "engine and stats must not be null."
  | some structSize =>
      if structSize < rastermRenderStatsV1Size then
        failure .bufferTooSmall "rasterm_render_stats is smaller than the v1 prefix."
      else succeeded

def rastermEngineGetCapabilities (capabilities : Option Nat) : Answer :=
  match capabilities with
  | none => failure .invalidArgument "engine and capabilities must not be null."
  | some structSize =>
      if structSize < rastermCapabilitiesV1Size then
        failure .bufferTooSmall "rasterm_terminal_capabilities is smaller than the v1 prefix."
      else succeeded

/-- What `rasterm_engine_last_error` copies: the message of the thread comes first. -/
def RastermEngine.lastMessage (engine : RastermEngine Device) (globalLastError : ErrorBuffer) :
    List UInt8 :=
  if !globalLastError.isEmpty then globalLastError.text else messageBytes engine.lastError

end Functions

def rastermLastError (globalLastError : ErrorBuffer) (capacity : Option Nat) : ErrorCopy :=
  copyError globalLastError.text capacity

/-! ### Any call -/

inductive EngineCall where
  | render (frame : Option RastermFrame) (stats : Option Nat)
  | renderIndexed (frame : Option RastermIndexedFrame) (stats : Option Nat)
  | clear
  | reset
  | getStats (stats : Option Nat)
  | getCapabilities (capabilities : Option Nat)

/-- What a call on a null handle answers. -/
def EngineCall.onNull : EngineCall → Answer
  | render _ _ => failure .invalidArgument "engine and frame must not be null."
  | renderIndexed _ _ => failure .invalidArgument "engine and indexed frame must not be null."
  | clear => failure .invalidArgument "engine must not be null."
  | reset => failure .invalidArgument "engine must not be null."
  | getStats _ => failure .invalidArgument "engine and stats must not be null."
  | getCapabilities _ => failure .invalidArgument "engine and capabilities must not be null."

def EngineCall.perform {Device : Type u} {Input : Type v} (object : EngineObject Device Input)
    (around : Circumstances Input) (engine : RastermEngine Device) :
    EngineCall → RastermEngine Device × Answer
  | render frame stats => rastermEngineRender object around engine frame stats
  | renderIndexed frame stats => rastermEngineRenderIndexed object around engine frame stats
  | clear => rastermEngineClear object around engine
  | reset => rastermEngineReset object around engine
  | getStats stats => (engine, rastermEngineGetStats stats)
  | getCapabilities capabilities => (engine, rastermEngineGetCapabilities capabilities)

end Rasterm.Capi
