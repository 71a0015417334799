import Rasterm.Bindings.Surface
import Rasterm.Capi.PresenterCalls
import Rasterm.Frame.Safety

/-!
Contract: the frames that the Rust and the Python binding pass to the C interface, and that the
library reads them inside the caller's buffer only.

Owns the frames of both bindings with the surface check as their invariant, the C structures
made of them, every view that the C interface hands on of such a structure, and what its
validation and its readers read.

Does not own buffers that are written to or given back during a call.
-/

set_option autoImplicit false

universe u v

namespace Rasterm.Bindings

open Capi Checked

/-! ### Buffers -/

/-- `&[T]`, and the array a Python buffer is seen through. -/
structure Slice (α : Type u) where
  elements : List α
  /-- At most `isize::MAX` bytes. -/
  length_le : elements.length ≤ 2 ^ 63 - 1

namespace Slice

variable {α : Type u}

def len (slice : Slice α) : UInt64 := UInt64.ofNat slice.elements.length

/-- `as_ptr`. Behind the slice anything may be read. -/
def asPtr (slice : Slice α) (beyond : Nat → α) (index : Nat) : α :=
  slice.elements[index]?.getD (beyond index)

@[simp] theorem toNat_len (slice : Slice α) : slice.len.toNat = slice.elements.length := by
  have fits := slice.length_le
  exact UInt64.toNat_ofNat_of_lt' (show slice.elements.length < 2 ^ 64 by omega)

end Slice

/-! ### Frames of the Rust binding -/

inductive PixelFormat where
  | rgb24 | bgr24 | rgba32 | bgra32 | rgb565 | xrgb1555 | rgba4444
deriving DecidableEq, Repr

namespace PixelFormat

def bytesPerPixel : PixelFormat → UInt64
  | rgb24 | bgr24 => 3
  | rgba32 | bgra32 => 4
  | rgb565 | xrgb1555 | rgba4444 => 2

/-- `self as i32`. -/
def value : PixelFormat → Int
  | rgb24 => 0
  | bgr24 => 1
  | rgba32 => 2
  | bgra32 => 3
  | rgb565 => 4
  | xrgb1555 => 5
  | rgba4444 => 6

theorem bytesPerPixel_pos (format : PixelFormat) : 0 < format.bytesPerPixel.toNat := by
  cases format <;> decide

theorem bytesPerPixel_le (format : PixelFormat) : format.bytesPerPixel.toNat ≤ 4 := by
  cases format <;> decide

/-- Both sides of the interface agree about a format. -/
theorem bytesPerPixel_value (format : PixelFormat) :
    Rasterm.bytesPerPixel (pixelFormat format.value) = format.bytesPerPixel.toNat := by
  cases format <;> rfl

end PixelFormat

structure FrameMetadata where
  frameId : UInt64 := 0
  timestampNanoseconds : Int64 := Int64.minValue
  color : RastermColorMetadata := {}
  sourceColor : RastermColorMetadata := { primaries := 0, transfer := 0, matrix := 0, range := 0 }
  damage : Option (Slice DamageRect) := none

/-- `apply_metadata`; `beyond` is read behind the damage list. -/
def applyMetadata (metadata : FrameMetadata) (beyond : Nat → DamageRect) : RastermFrameMetadata :=
  let applied : RastermFrameMetadata :=
    { frameId := metadata.frameId.toNat
      timestampNanoseconds := metadata.timestampNanoseconds.toInt
      color := metadata.color
      sourceColor := metadata.sourceColor }
  match metadata.damage with
  | some damage =>
      { applied with
        damageRects := some (damage.asPtr beyond)
        damageCount := damage.len.toNat
        damageSupplied := 1 }
  | none => applied

/-- `value as i32` of a value that fits. -/
theorem toInt_toInt32 {value : UInt32} (fits : (value.toNat : Int) ≤ intMax) :
    value.toInt32.toInt = value.toNat := by
  unfold intMax at fits
  exact BitVec.toInt_eq_toNat_of_lt (show 2 * value.toNat < 2 ^ 32 by omega)

/-- `value as i64` of a value that fits. -/
theorem toInt_toInt64 {value : UInt64} (fits : (value.toNat : Int) ≤ ptrdiffMax) :
    value.toInt64.toInt = value.toNat := by
  unfold ptrdiffMax at fits
  exact BitVec.toInt_eq_toNat_of_lt (show 2 * value.toNat < 2 ^ 64 by omega)

/-- The casts after the check change no value. -/
theorem contained_of_validateSurface {length stride bytesPerPixel : UInt64} {width height : UInt32}
    (pixelPos : 0 < bytesPerPixel.toNat) (pixelLe : bytesPerPixel.toNat ≤ 4)
    (accepted : validateSurface length width height stride bytesPerPixel = .ok ()) :
    Contained length.toNat ⟨width.toInt32.toInt, height.toInt32.toInt, stride.toInt64.toInt,
      bytesPerPixel.toNat⟩ := by
  have contained := (validateSurface_eq_ok pixelPos pixelLe).mp accepted
  rwa [toInt_toInt32 contained.width_le, toInt_toInt32 contained.height_le,
    toInt_toInt64 contained.stride_le]

structure Frame where
  pixels : Slice UInt8
  width : Int
  height : Int
  stride : Int
  format : PixelFormat
  metadata : FrameMetadata := {}
  contained : Contained pixels.elements.length
    ⟨width, height, stride, format.bytesPerPixel.toNat⟩

namespace Frame

def new (pixels : Slice UInt8) (width height : UInt32) (stride : UInt64) (format : PixelFormat) :
    Except String Frame :=
  match accepted : validateSurface pixels.len width height stride format.bytesPerPixel with
  | .error message => .error message
  | .ok () =>
      .ok
        { pixels := pixels
          width := width.toInt32.toInt
          height := height.toInt32.toInt
          stride := stride.toInt64.toInt
          format := format
          contained := by
            rw [← pixels.toNat_len]
            exact contained_of_validateSurface format.bytesPerPixel_pos format.bytesPerPixel_le
              accepted }

/-- `beyond` and `others` are what lies behind the slices. -/
def raw (frame : Frame) (beyond : Memory) (others : Nat → DamageRect) : RastermFrame where
  data := some (frame.pixels.asPtr beyond)
  width := frame.width
  height := frame.height
  stride := frame.stride
  format := frame.format.value
  metadata := applyMetadata frame.metadata others

end Frame

structure IndexedFrame where
  indices : Slice UInt8
  width : Int
  height : Int
  stride : Int
  palette : Slice RgbColor
  metadata : FrameMetadata := {}
  contained : Contained indices.elements.length ⟨width, height, stride, 1⟩
  palette_le : palette.elements.length ≤ 256

namespace IndexedFrame

def new (indices : Slice UInt8) (width height : UInt32) (stride : UInt64)
    (palette : Slice RgbColor) : Except String IndexedFrame :=
  match accepted : validateSurface indices.len width height stride 1 with
  | .error message => .error message
  | .ok () =>
      if listed : palette.elements.length ≤ 256 then
        .ok
          { indices := indices
            width := width.toInt32.toInt
            height := height.toInt32.toInt
            stride := stride.toInt64.toInt
            palette := palette
            contained := by
              rw [← indices.toNat_len]
              exact @contained_of_validateSurface _ _ 1 _ _ (by decide) (by decide) accepted
            palette_le := listed }
      else .error "an indexed palette cannot contain more than 256 colors"

/-- `beyond`, `others` and `colors` are what lies behind the slices. -/
def raw (frame : IndexedFrame) (beyond : Memory) (others : Nat → DamageRect)
    (colors : Nat → RgbColor) : RastermIndexedFrame where
  indices := some (frame.indices.asPtr beyond)
  width := frame.width
  height := frame.height
  stride := frame.stride
  palette := some (frame.palette.asPtr colors)
  paletteSize := frame.palette.len.toNat
  metadata := applyMetadata frame.metadata others

end IndexedFrame

/-! ### Frames of the Python binding -/

/-- A Python integer stored into a signed field of so many bits. -/
def storeSigned (bits : Nat) (value : Int) : Int := value.bmod (2 ^ bits)

/-- A Python integer stored into an unsigned field of so many bits. -/
def storeUnsigned (bits : Nat) (value : Int) : Nat := (value % 2 ^ bits).toNat

theorem storeSigned_of_fits {bits : Nat} {value : Int} (nonneg : 0 ≤ value)
    (lt : 2 * value < 2 ^ bits) : storeSigned bits value = value := by
  unfold storeSigned
  rw [Int.bmod_eq_of_le_mul_two]
  · push_cast
    omega
  · push_cast
    omega

/-- The fields hold the sides of a surface that was let through. -/
theorem Contained.stored {length : Int} {width height stride pixelBytes : Int}
    (contained : Contained length ⟨width, height, stride, pixelBytes⟩) :
    storeSigned 32 width = width ∧ storeSigned 32 height = height ∧
      storeSigned 64 stride = stride := by
  obtain ⟨ordered, widthLe, heightLe, strideLe, -⟩ := contained
  have widthPos : 0 < width := ordered.width_pos
  have heightPos : 0 < height := ordered.height_pos
  have stridePos : 0 < stride := ordered.stride_pos
  unfold intMax at widthLe heightLe
  unfold ptrdiffMax at strideLe
  dsimp only at widthLe heightLe strideLe
  exact ⟨storeSigned_of_fits widthPos.le (by omega), storeSigned_of_fits heightPos.le (by omega),
    storeSigned_of_fits stridePos.le (by omega)⟩

structure PythonColor where
  red : Int
  green : Int
  blue : Int

structure PythonMetadata where
  frameId : Int := 0
  timestampNanoseconds : Int := -(2 ^ 63)
  color : RastermColorMetadata := {}
  sourceColor : RastermColorMetadata := { primaries := 0, transfer := 0, matrix := 0, range := 0 }
  /-- Any integers. -/
  damage : Option (List DamageRect) := none

/-- `_apply_color_metadata`. -/
def applyColorMetadata (color : RastermColorMetadata) : RastermColorMetadata :=
  { color with
    primaries := storeSigned 32 color.primaries
    transfer := storeSigned 32 color.transfer
    matrix := storeSigned 32 color.matrix
    range := storeSigned 32 color.range }

def nativeRectangle (rectangle : DamageRect) : DamageRect where
  x := storeSigned 32 rectangle.x
  y := storeSigned 32 rectangle.y
  width := storeSigned 32 rectangle.width
  height := storeSigned 32 rectangle.height

/-- `_apply_metadata`. -/
def pythonApplyMetadata (metadata : PythonMetadata) (others : Nat → DamageRect) :
    RastermFrameMetadata :=
  let applied : RastermFrameMetadata :=
    { frameId := storeUnsigned 64 metadata.frameId
      timestampNanoseconds := storeSigned 64 metadata.timestampNanoseconds
      color := applyColorMetadata metadata.color
      sourceColor := applyColorMetadata metadata.sourceColor }
  match metadata.damage with
  | none => applied
  | some damage =>
      { applied with
        damageRects := some fun index => ((damage.map nativeRectangle)[index]?).getD (others index)
        damageCount := damage.length
        damageSupplied := 1 }

structure PythonFrame where
  /-- The bytes of the `memoryview`, which is contiguous. -/
  pixels : Slice UInt8
  width : Int
  height : Int
  stride : Int
  format : PixelFormat := .rgba32
  metadata : PythonMetadata := {}

/-- `_native`. -/
def PythonFrame.native (frame : PythonFrame) (beyond : Memory) (others : Nat → DamageRect) :
    Except String RastermFrame :=
  (pythonValidateSurface frame.pixels.elements.length frame.width frame.height frame.stride
      frame.format.bytesPerPixel.toNat).map fun _ =>
    { data := some (frame.pixels.asPtr beyond)
      width := storeSigned 32 frame.width
      height := storeSigned 32 frame.height
      stride := storeSigned 64 frame.stride
      format := storeSigned 32 frame.format.value
      metadata := pythonApplyMetadata frame.metadata others }

theorem PythonFrame.contained_of_native {frame : PythonFrame} {beyond : Memory}
    {others : Nat → DamageRect} {raw : RastermFrame} (made : frame.native beyond others = .ok raw) :
    raw.data = some (frame.pixels.asPtr beyond) ∧
      Contained frame.pixels.elements.length
        ⟨raw.width, raw.height, raw.stride, Rasterm.bytesPerPixel (pixelFormat raw.format)⟩ := by
  unfold native at made
  cases verdict : pythonValidateSurface frame.pixels.elements.length frame.width frame.height
      frame.stride frame.format.bytesPerPixel.toNat with
  | error message =>
      rw [verdict] at made
      cases made
  | ok accepted =>
      have contained := (pythonValidateSurface_eq_ok
        (Nat.cast_pos.mpr frame.format.bytesPerPixel_pos)).mp verdict
      obtain ⟨width, height, stride⟩ := contained.stored
      have format : storeSigned 32 frame.format.value = frame.format.value := by
        cases frame.format <;> decide
      rw [verdict] at made
      cases made
      dsimp only
      rw [width, height, stride, format, frame.format.bytesPerPixel_value]
      exact ⟨rfl, contained⟩

structure PythonIndexedFrame where
  indices : Slice UInt8
  width : Int
  height : Int
  stride : Int
  palette : List PythonColor
  metadata : PythonMetadata := {}
  palette_le : palette.length ≤ 256

def PythonIndexedFrame.new (indices : Slice UInt8) (width height stride : Int)
    (palette : List PythonColor) (metadata : PythonMetadata) : Except String PythonIndexedFrame :=
  if listed : palette.length ≤ 256 then
    .ok { indices, width, height, stride, palette, metadata, palette_le := listed }
  else .error "an indexed palette cannot contain more than 256 colors"

def nativeColor (color : PythonColor) : RgbColor where
  red := UInt8.ofNat (storeUnsigned 8 color.red)
  green := UInt8.ofNat (storeUnsigned 8 color.green)
  blue := UInt8.ofNat (storeUnsigned 8 color.blue)

/-- `_native`. -/
def PythonIndexedFrame.native (frame : PythonIndexedFrame) (beyond : Memory)
    (others : Nat → DamageRect) (colors : Nat → RgbColor) : Except String RastermIndexedFrame :=
  (pythonValidateSurface frame.indices.elements.length frame.width frame.height frame.stride
      1).map fun _ =>
    { indices := some (frame.indices.asPtr beyond)
      width := storeSigned 32 frame.width
      height := storeSigned 32 frame.height
      stride := storeSigned 64 frame.stride
      palette := some fun index => ((frame.palette.map nativeColor)[index]?).getD (colors index)
      paletteSize := frame.palette.length
      metadata := pythonApplyMetadata frame.metadata others }

theorem PythonIndexedFrame.contained_of_native {frame : PythonIndexedFrame} {beyond : Memory}
    {others : Nat → DamageRect} {colors : Nat → RgbColor} {raw : RastermIndexedFrame}
    (made : frame.native beyond others colors = .ok raw) :
    raw.indices = some (frame.indices.asPtr beyond) ∧
      Contained frame.indices.elements.length ⟨raw.width, raw.height, raw.stride, 1⟩ := by
  unfold native at made
  cases verdict : pythonValidateSurface frame.indices.elements.length frame.width frame.height
      frame.stride 1 with
  | error message =>
      rw [verdict] at made
      cases made
  | ok accepted =>
      have contained := (pythonValidateSurface_eq_ok Int.one_pos).mp verdict
      obtain ⟨width, height, stride⟩ := contained.stored
      rw [verdict] at made
      cases made
      dsimp only
      rw [width, height, stride]
      exact ⟨rfl, contained⟩

/-! ### What the C interface hands on -/

/-- The binding calls with this frame, made over this buffer. -/
inductive Passes : CallFrame → List UInt8 → Prop where
  | packed (frame : Frame) (beyond : Memory) (others : Nat → DamageRect) :
      Passes (.packed (frame.raw beyond others)) frame.pixels.elements
  | indexed (frame : IndexedFrame) (beyond : Memory) (others : Nat → DamageRect)
      (colors : Nat → RgbColor) :
      Passes (.indexed (frame.raw beyond others colors)) frame.indices.elements
  | pythonPacked {frame : PythonFrame} {beyond : Memory} {others : Nat → DamageRect}
      {raw : RastermFrame} (made : frame.native beyond others = .ok raw) :
      Passes (.packed raw) frame.pixels.elements
  | pythonIndexed {frame : PythonIndexedFrame} {beyond : Memory} {others : Nat → DamageRect}
      {colors : Nat → RgbColor} {raw : RastermIndexedFrame}
      (made : frame.native beyond others colors = .ok raw) :
      Passes (.indexed raw) frame.indices.elements

/-- The C interface hands on the surface as it is, with metadata and colours of its own making. -/
inductive HandedOn : CallFrame → Rasterm.Frame → Prop where
  | packed (frame : RastermFrame) (metadata : Rasterm.FrameMetadata) :
      HandedOn (.packed frame)
        (.packed
          { data := frame.data
            width := frame.width
            height := frame.height
            stride := frame.stride
            format := pixelFormat frame.format
            metadata := metadata })
  | indexed (frame : RastermIndexedFrame) (colors : List RgbColor)
      (metadata : Rasterm.FrameMetadata) :
      HandedOn (.indexed frame)
        (.indexed
          { indices := frame.indices
            width := frame.width
            height := frame.height
            stride := frame.stride
            palette := PaletteView.ofList colors
            metadata := metadata })

/-- The call of the C interface on an engine. -/
def renderCall (stats : Option Nat) : CallFrame → EngineCall
  | .packed frame => .render (some frame) stats
  | .indexed frame => .renderIndexed (some frame) stats

open Classical in
/-- An engine that does nothing with a frame that is not allowed. -/
noncomputable def guarded {Device : Type u} {Input : Type v} (object : EngineObject Device Input)
    (allowed : Rasterm.Frame → Prop) : EngineObject Device Input :=
  { object with
    renderFrame := fun input frame device =>
      if allowed frame then object.renderFrame input frame device else (device, {}) }

section Handing

variable {Device : Type u} {Input : Type v}

theorem renderStaged_guarded (object : EngineObject Device Input) (around : Circumstances Input)
    (engine : RastermEngine Device) {frame : Rasterm.Frame} (caught : Thrown → Answer)
    {allowed : Rasterm.Frame → Prop} (isAllowed : allowed frame) :
    renderStaged (guarded object allowed) around engine frame caught =
      renderStaged object around engine frame caught := by
  have same : (guarded object allowed).renderFrame around.input frame engine.engine =
      object.renderFrame around.input frame engine.engine :=
    if_pos isAllowed
  unfold renderStaged
  rw [same]
  rfl

/-- What a render call makes of a frame it makes of the views handed on only. -/
theorem perform_guarded (object : EngineObject Device Input) (around : Circumstances Input)
    (engine : RastermEngine Device) (stats : Option Nat) (call : CallFrame)
    {allowed : Rasterm.Frame → Prop} (handedOn : ∀ view, HandedOn call view → allowed view) :
    (renderCall stats call).perform (guarded object allowed) around engine =
      (renderCall stats call).perform object around engine := by
  cases call with
  | packed frame =>
      change rastermEngineRender _ _ _ (some frame) stats =
        rastermEngineRender _ _ _ (some frame) stats
      unfold rastermEngineRender
      dsimp only
      split_ifs
      · rfl
      · rfl
      · split
        · rfl
        · rfl
        · exact renderStaged_guarded object around _ _ (handedOn _ (.packed frame _))
  | indexed frame =>
      change rastermEngineRenderIndexed _ _ _ (some frame) stats =
        rastermEngineRenderIndexed _ _ _ (some frame) stats
      unfold rastermEngineRenderIndexed
      dsimp only
      split_ifs
      · rfl
      · rfl
      · rfl
      · split
        · rfl
        · rfl
        · exact renderStaged_guarded object around _ _ (handedOn _ (.indexed frame _ _))

end Handing

/-- What `Presenter::submit` is called with. -/
def submitted : Rasterm.Frame → Submission
  | .packed view => .packed view
  | .indexed view => .indexed view

/-- What a submission makes of a frame it makes of a view handed on. -/
theorem handedOn_of_submission {Device : Type u} {Input : Type v}
    {around : Circumstances Input} {handle : RastermPresenter Device} {call frame : CallFrame}
    {passed : Submission}
    (made : submission (copies around handle call).1 around.stray (copies around handle call).2 =
      some (frame, passed)) :
    ∃ view, HandedOn call view ∧ passed = submitted view := by
  unfold copies begin at made
  dsimp only at made
  cases call with
  | packed raw =>
      cases copied : (copyMetadata handle.damage around.damageFull
          (CallFrame.packed raw).metadata).2 with
      | refused =>
          rw [copied] at made
          cases made
      | threw =>
          rw [copied] at made
          cases made
      | copied staged =>
          rw [copied] at made
          cases made
          exact ⟨_, .packed raw _, rfl⟩
  | indexed raw =>
      cases copied : (copyMetadata handle.damage around.damageFull
          (CallFrame.indexed raw).metadata).2 with
      | refused =>
          rw [copied] at made
          cases made
      | threw =>
          rw [copied] at made
          cases made
      | copied staged =>
          rw [copied] at made
          dsimp only at made
          split_ifs at made
          · cases made
            exact ⟨_, .indexed raw _ _, rfl⟩
          · cases made

/-! ### What is read -/

/-- An indexed view with the buffer in the place of its pointer. -/
def scanned (buffer : List UInt8) (view : IndexedFrameView) : OwnedIndexedFrame where
  storage := buffer
  colors := view.palette.entries
  width := view.width
  height := view.height
  stride := view.stride
  metadata := view.metadata

/-- The view is validated and read inside the buffer. -/
def ReadsInside (buffer : List UInt8) : Rasterm.Frame → Prop
  | .packed view =>
      view.checkedIsValid = .ok view.isValid ∧
        (view.isValid = true →
          view.layout.SafeToRead buffer.length view.metadata.damage.rects ∧
            ∀ x y byte : Nat, x < view.width.toNat → y < view.height.toNat →
              byte < Rasterm.bytesPerPixel view.format →
                buffer[y * view.stride.toNat + x * Rasterm.bytesPerPixel view.format + byte]? =
                  some (view.pixel x y byte))
  | .indexed view =>
      (scanned buffer view).checkedHasValidIndices = .ok view.hasValidIndices ∧
        (view.hasValidIndices = true →
          view.layout.SafeToRead buffer.length view.metadata.damage.rects ∧
            ∀ x y : Nat, x < view.width.toNat → y < view.height.toNat →
              buffer[y * view.stride.toNat + x]? = some (view.index x y) ∧
                (view.index x y).toNat < view.palette.size)

/-- The pointer of a view leads into the buffer, which holds the surface. -/
structure Over (buffer : List UInt8) (data : Option Memory) (layout : Layout) : Prop where
  data : ∃ beyond : Memory, data = some fun index => buffer[index]?.getD (beyond index)
  contained : Contained buffer.length layout

theorem getElem?_of_over {buffer : List UInt8} {data : Option Memory} {layout : Layout}
    (lies : Over buffer data layout) {offset : Nat} (inside : offset < buffer.length) :
    buffer[offset]? = some ((data.getD fun _ => 0) offset) := by
  obtain ⟨beyond, rfl⟩ := lies.data
  rw [Option.getD_some, List.getElem?_eq_getElem inside]
  rfl

theorem readsInside_packed {buffer : List UInt8} {view : FrameView}
    (lies : Over buffer view.data view.layout) : ReadsInside buffer (.packed view) := by
  refine ⟨view.checkedIsValid_eq, fun valid => ?_⟩
  have ordered := lies.contained.ordered
  have geometry := FrameView.geometry_of_isValid valid
  have accesses := ordered.safeToRead lies.contained.extent_le
    (DamageView.inside_of_isValidFor geometry.damage_valid)
  refine ⟨accesses, ?_⟩
  intro x y byte columnInside rowInside byteInside
  have bounds : 0 ≤ (y : Int) * view.stride + x * (Rasterm.bytesPerPixel view.format : Int) + byte ∧
      (y : Int) * view.stride + x * (Rasterm.bytesPerPixel view.format : Int) + byte <
        buffer.length :=
    accesses.pixels y x byte (by omega) (show (y : Int) < view.height by omega) (by omega)
      (show (x : Int) < view.width by omega) (by omega) (Int.ofNat_lt.mpr byteInside)
  have stride : view.stride = (view.stride.toNat : Int) :=
    (Int.toNat_of_nonneg ordered.stride_pos.le).symm
  rw [stride] at bounds
  exact getElem?_of_over lies (by exact_mod_cast bounds.2)

section Indexed

variable {buffer : List UInt8} {view : IndexedFrameView} {colors : List RgbColor}

theorem longEnough_of_over (lies : Over buffer view.indices view.layout) :
    (scanned buffer view).LongEnough := by
  have single : view.layout.rowBytes = view.width := mul_one _
  have extentLe := lies.contained.extent_le
  unfold Layout.extent at extentLe
  rw [single] at extentLe
  exact extentLe

theorem ne_nil_of_over {data : Option Memory} {layout : Layout} (lies : Over buffer data layout) :
    buffer ≠ [] := by
  rintro rfl
  have ordered := lies.contained.ordered
  have inside := ordered.offset_bounds le_rfl ordered.height_pos le_rfl ordered.width_pos le_rfl
    ordered.pixelBytes_pos
  have extentLe := lies.contained.extent_le
  rw [List.length_nil, Nat.cast_zero] at extentLe
  omega

/-- The check before the scan is the same over the buffer. -/
theorem isValid_scanned (listed : view.palette = PaletteView.ofList colors)
    (lies : Over buffer view.indices view.layout) :
    (scanned buffer view).view.isValid = view.isValid := by
  obtain ⟨beyond, isData⟩ := lies.data
  have nonempty := ne_nil_of_over lies
  unfold IndexedFrameView.isValid scanned OwnedIndexedFrame.view dataOf
  simp [isData, nonempty, listed]

/-- So is the scan. -/
theorem hasValidIndices_scanned (listed : view.palette = PaletteView.ofList colors)
    (lies : Over buffer view.indices view.layout) :
    (scanned buffer view).view.hasValidIndices = view.hasValidIndices := by
  have accepts := isValid_scanned listed lies
  unfold IndexedFrameView.hasValidIndices
  rw [accepts]
  cases accepted : view.isValid with
  | false => rfl
  | true =>
      have reads : ∀ row < view.height.toNat, ∀ column < view.width.toNat,
          (scanned buffer view).view.index column row = view.index column row := by
        intro row rowInside column columnInside
        have found := getElem?_of_over lies
          (OwnedIndexedFrame.offset_lt_of_longEnough (accepts.trans accepted)
            (longEnough_of_over lies) rowInside columnInside)
        rw [OwnedIndexedFrame.index_view, List.getD_eq_getElem?_getD]
        exact congrArg (Option.getD · 0) found
      have size : (scanned buffer view).view.palette.size = view.palette.size := by
        simp [scanned, OwnedIndexedFrame.view, listed]
      rw [Bool.true_and, Bool.true_and, Bool.eq_iff_iff, size]
      simp only [List.all_eq_true, List.mem_range, decide_eq_true_eq]
      constructor
      · intro all row rowInside column columnInside
        rw [← reads row rowInside column columnInside]
        exact all row rowInside column columnInside
      · intro all row rowInside column columnInside
        rw [reads row rowInside column columnInside]
        exact all row rowInside column columnInside

theorem readsInside_indexed (listed : view.palette = PaletteView.ofList colors)
    (lies : Over buffer view.indices view.layout) : ReadsInside buffer (.indexed view) := by
  have enough := longEnough_of_over lies
  refine ⟨?_, fun valid => ?_⟩
  · rw [← hasValidIndices_scanned listed lies]
    exact (OwnedIndexedFrame.checkedHasValidIndices_eq_iff _).mpr (.inr (.inl enough))
  · have accepted := IndexedFrameView.isValid_of_hasValidIndices valid
    have geometry := IndexedFrameView.geometry_of_isValid accepted
    refine ⟨lies.contained.ordered.safeToRead lies.contained.extent_le
      (DamageView.inside_of_isValidFor geometry.damage_valid), ?_⟩
    intro x y columnInside rowInside
    have inside := OwnedIndexedFrame.offset_lt_of_longEnough
      ((isValid_scanned listed lies).trans accepted) enough rowInside columnInside
    exact ⟨getElem?_of_over lies inside, IndexedFrameView.index_lt valid columnInside rowInside⟩

end Indexed

/-- A surface of a call lies in the buffer it was made over. -/
theorem readsInside_of_passes {call : CallFrame} {buffer : List UInt8} {view : Rasterm.Frame}
    (passes : Passes call buffer) (handedOn : HandedOn call view) : ReadsInside buffer view := by
  cases passes with
  | packed frame beyond others =>
      cases handedOn with
      | packed _ metadata =>
          apply readsInside_packed
          refine ⟨⟨beyond, rfl⟩, ?_⟩
          have contained := frame.contained
          rw [← frame.format.bytesPerPixel_value] at contained
          exact contained
  | indexed frame beyond others colors =>
      cases handedOn with
      | indexed _ colors metadata =>
          exact readsInside_indexed rfl ⟨⟨beyond, rfl⟩, frame.contained⟩
  | pythonPacked made =>
      obtain ⟨data, contained⟩ := PythonFrame.contained_of_native made
      cases handedOn with
      | packed raw metadata => exact readsInside_packed ⟨⟨_, data⟩, contained⟩
  | pythonIndexed made =>
      obtain ⟨data, contained⟩ := PythonIndexedFrame.contained_of_native made
      cases handedOn with
      | indexed raw colors metadata => exact readsInside_indexed rfl ⟨⟨_, data⟩, contained⟩

/-- Whatever frame of either binding a call is made with, and whatever has been staged or fails on
the way: each view of it that the library is handed is validated without a fault and inside the
caller's buffer, and read inside it where it is accepted. -/
theorem frames_stay_inside {call : CallFrame} {buffer : List UInt8} (passes : Passes call buffer) :
    (∀ view, HandedOn call view → ReadsInside buffer view) ∧
    (∀ {Device : Type u} {Input : Type v} (object : EngineObject Device Input)
      (around : Circumstances Input) (engine : RastermEngine Device) (stats : Option Nat),
      (renderCall stats call).perform (guarded object (ReadsInside buffer)) around engine =
        (renderCall stats call).perform object around engine) ∧
    ∀ {Device : Type u} {Input : Type v} (around : Circumstances Input)
      (handle : RastermPresenter Device) (frame : CallFrame) (passed : Submission),
      submission (copies around handle call).1 around.stray (copies around handle call).2 =
          some (frame, passed) →
        ∃ view, ReadsInside buffer view ∧ passed = submitted view := by
  have inside : ∀ view, HandedOn call view → ReadsInside buffer view :=
    fun view handedOn => readsInside_of_passes passes handedOn
  refine ⟨inside, ?_, ?_⟩
  · intro Device Input object around engine stats
    exact perform_guarded object around engine stats call inside
  · intro Device Input around handle frame passed made
    obtain ⟨view, handedOn, isView⟩ := handedOn_of_submission made
    exact ⟨view, inside view handedOn, isView⟩

/-- An indexed frame of two rows with padding between them. -/
def IndexedFrame.padded : IndexedFrame where
  indices := ⟨[0, 1, 1, 9, 1, 0, 1], by decide⟩
  width := 3
  height := 2
  stride := 4
  palette := ⟨[⟨0, 0, 0⟩, ⟨255, 255, 255⟩], by decide⟩
  contained := ⟨⟨by decide, by decide, by decide, by decide⟩, by decide, by decide, by decide,
    by decide⟩
  palette_le := by decide

/-- Behind the buffer lie indices that the palette does not have. -/
theorem frames_stay_inside_padded :
    ∃ view : IndexedFrameView, view.hasValidIndices = true ∧
      ReadsInside IndexedFrame.padded.indices.elements (.indexed view) := by
  let raw := IndexedFrame.padded.raw (fun _ => 255) (fun _ => {}) (fun _ => {})
  exact ⟨_, by decide +kernel,
    (frames_stay_inside.{0, 0} (.indexed IndexedFrame.padded (fun _ => 255) (fun _ => {})
      (fun _ => {}))).1 _ (.indexed raw IndexedFrame.padded.palette.elements {})⟩

end Rasterm.Bindings
