import Rasterm.Frame.View
import Rasterm.Library.Rows

/-!
Contract: frames that own their storage, and views tied to whoever keeps their
storage alive.

Owns `OwnedFrame`, `OwnedIndexedFrame`, their validation of the storage size, the
shared views, and that an owned frame lends a valid view.
-/

set_option autoImplicit false

namespace Rasterm

/-- `data()` of a byte vector. An empty one may have kept a buffer it `reserved` before; its
`data()` is null only where it has none. -/
def dataOf (reserved : Bool) (storage : List UInt8) : Option Memory :=
  if storage.isEmpty && !reserved then none else some fun index => storage.getD index 0

@[simp] theorem getD_dataOf (reserved : Bool) (storage : List UInt8) :
    ((dataOf reserved storage).getD fun _ => 0) = fun index => storage.getD index 0 := by
  unfold dataOf
  split_ifs with null
  · rw [Bool.and_eq_true, List.isEmpty_iff] at null
    rw [null.1]
    rfl
  · rfl

/-- The metadata an owned frame keeps, over its own copy of the damage list. -/
def ownDamage (metadata : FrameMetadata) : FrameMetadata :=
  let source := metadata.damage
  if !source.supplied then
    if source.rectangles.isNone && source.count == 0 then { metadata with damage := {} }
    else metadata
  else if source.count > 0 && source.rectangles.isNone then metadata
  else { metadata with damage := DamageView.ofList source.rects true }

structure OwnedFrame where
  storage : List UInt8 := []
  /-- The storage has a buffer, even where it is empty. -/
  reserved : Bool := false
  width : Int := 0
  height : Int := 0
  stride : Int := 0
  format : PixelFormat := .rgb24
  metadata : FrameMetadata := {}

namespace OwnedFrame

/-- The constructor. -/
def make (pixels : List UInt8) (reserved : Bool) (width height stride : Int)
    (format : PixelFormat) (metadata : FrameMetadata) : OwnedFrame where
  storage := pixels
  reserved := reserved
  width := width
  height := height
  stride := stride
  format := format
  metadata := ownDamage metadata

def view (frame : OwnedFrame) : FrameView where
  data := dataOf frame.reserved frame.storage
  width := frame.width
  height := frame.height
  stride := frame.stride
  format := frame.format
  metadata := frame.metadata

def isValid (frame : OwnedFrame) : Bool :=
  if !frame.view.isValid then false
  else
    let rowBytes := frame.width * bytesPerPixel frame.format
    decide (frame.height - 1 ≤ (sizeMax - rowBytes) / frame.stride) &&
      decide ((frame.height - 1) * frame.stride + rowBytes ≤ frame.storage.length)

theorem isValid_view {frame : OwnedFrame} (valid : frame.isValid = true) :
    frame.view.isValid = true := by
  unfold isValid at valid
  split_ifs at valid with invalid
  simpa using invalid

end OwnedFrame

structure OwnedIndexedFrame where
  storage : List UInt8 := []
  /-- The storage has a buffer, even where it is empty. -/
  reserved : Bool := false
  colors : List RgbColor := []
  width : Int := 0
  height : Int := 0
  stride : Int := 0
  metadata : FrameMetadata := {}

namespace OwnedIndexedFrame

/-- The constructor. -/
def make (indices : List UInt8) (reserved : Bool) (palette : List RgbColor)
    (width height stride : Int) (metadata : FrameMetadata) : OwnedIndexedFrame where
  storage := indices
  reserved := reserved
  colors := palette
  width := width
  height := height
  stride := stride
  metadata := ownDamage metadata

def view (frame : OwnedIndexedFrame) : IndexedFrameView where
  indices := dataOf frame.reserved frame.storage
  width := frame.width
  height := frame.height
  stride := frame.stride
  palette := PaletteView.ofList frame.colors
  metadata := frame.metadata

def isValid (frame : OwnedIndexedFrame) : Bool :=
  if !frame.view.hasValidIndices then false
  else
    decide (frame.height - 1 ≤ (sizeMax - frame.width) / frame.stride) &&
      decide ((frame.height - 1) * frame.stride + frame.width ≤ frame.storage.length)

theorem hasValidIndices_view {frame : OwnedIndexedFrame} (valid : frame.isValid = true) :
    frame.view.hasValidIndices = true := by
  unfold isValid at valid
  split_ifs at valid with invalid
  simpa using invalid

end OwnedIndexedFrame

/-- What a `shared_ptr<const void>` keeps alive: something of the caller's, told apart
by a token, or a frame that was moved into the library. -/
inductive Lifetime where
  | caller (token : Nat)
  | owned (frame : OwnedFrame)
  | ownedIndexed (frame : OwnedIndexedFrame)

structure SharedFrameView where
  frame : FrameView := {}
  lifetime : Option Lifetime := none

def SharedFrameView.isValid (shared : SharedFrameView) : Bool :=
  shared.lifetime.isSome && shared.frame.isValid

structure SharedIndexedFrameView where
  frame : IndexedFrameView := {}
  lifetime : Option Lifetime := none

def SharedIndexedFrameView.isValid (shared : SharedIndexedFrameView) : Bool :=
  shared.lifetime.isSome && shared.frame.hasValidIndices

end Rasterm
