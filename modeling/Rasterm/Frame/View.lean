import Rasterm.Frame.Metadata
import Rasterm.Frame.Pixel
import Rasterm.Library.Rows

/-!
Contract: borrowed frame views and what their validation accepts.

Owns `FrameView`, `IndexedFrameView`, their `isValid`/`hasValidIndices` checks
and the consequences the rest of the library relies on, the region sub-views of
the encoder, and `Frame`, the argument of the calls that take either kind.
-/

set_option autoImplicit false

namespace Rasterm

open Rows

structure FrameView where
  data : Option Memory := none
  width : Int := 0
  height : Int := 0
  stride : Int := 0
  format : PixelFormat := .rgb24
  metadata : FrameMetadata := {}

namespace FrameView

def isValid (frame : FrameView) : Bool :=
  let pixelBytes : Int := bytesPerPixel frame.format
  if frame.data.isNone || frame.width ≤ 0 || frame.height ≤ 0 || pixelBytes == 0 ||
      frame.stride ≤ 0 then false
  else if frame.width > intMax / frame.height then false
  else if frame.width > ptrdiffMax / pixelBytes then false
  else
    let rowBytes := frame.width * pixelBytes
    if frame.stride < rowBytes ||
        (frame.height > 1 && frame.stride > (ptrdiffMax - rowBytes) / (frame.height - 1)) then
      false
    else
      rowBytes ≤ sizeMax / frame.height &&
        frame.metadata.damage.isValidFor frame.width frame.height

/-- What the pointer reads; nothing valid is read through a null pointer. -/
def bytes (frame : FrameView) : Memory := frame.data.getD fun _ => 0

/-- The bytes of one pixel. -/
def pixel (frame : FrameView) (x y : Nat) : Memory :=
  frame.bytes.advance (y * frame.stride.toNat + x * bytesPerPixel frame.format)

/-- The colour one pixel is read as. -/
def channels (frame : FrameView) (x y : Nat) : PixelChannels :=
  readPixel (frame.pixel x y) (pixelLayout frame.format)

/-- The sub-view that `encodeRegion` and `prepareRegion` build. -/
def region (frame : FrameView) (region : DamageRegion) : FrameView :=
  { data := frame.data.map fun memory => memory.advance
      (region.y.toNat * frame.stride.toNat + region.x.toNat * bytesPerPixel frame.format)
    width := region.width
    height := region.height
    stride := frame.stride
    format := frame.format }

end FrameView

structure PaletteView where
  colors : Option (Nat → RgbColor) := none
  size : Nat := 0

namespace PaletteView

def isValid (palette : PaletteView) : Bool :=
  palette.colors.isSome && 0 < palette.size && palette.size ≤ 256

/-- The entries a pointer and a size denote. -/
def entries (palette : PaletteView) : List RgbColor :=
  match palette.colors with
  | some colors => (List.range palette.size).map colors
  | none => []

/-- A view of a palette held by the library itself. -/
def ofList (colors : List RgbColor) : PaletteView :=
  { colors := some fun index => colors.getD index {}
    size := colors.length }

@[simp] theorem entries_ofList (colors : List RgbColor) : (ofList colors).entries = colors := by
  apply List.ext_getElem
  · simp [entries, ofList]
  · intro index inside _
    simp only [entries, ofList, List.length_map, List.length_range] at inside
    simp [entries, ofList, List.getElem?_eq_getElem inside]

theorem length_entries {palette : PaletteView} (valid : palette.isValid = true) :
    palette.entries.length = palette.size := by
  simp only [isValid, Bool.and_eq_true, Option.isSome_iff_exists] at valid
  obtain ⟨⟨⟨colors, present⟩, -⟩, -⟩ := valid
  simp [entries, present]

end PaletteView

structure IndexedFrameView where
  indices : Option Memory := none
  width : Int := 0
  height : Int := 0
  stride : Int := 0
  palette : PaletteView := {}
  metadata : FrameMetadata := {}

namespace IndexedFrameView

def isValid (frame : IndexedFrameView) : Bool :=
  if frame.indices.isNone || frame.width ≤ 0 || frame.height ≤ 0 || frame.stride ≤ 0 ||
      frame.stride < frame.width || !frame.palette.isValid then false
  else if frame.width > intMax / frame.height then false
  else if frame.height > 1 &&
      frame.stride > (ptrdiffMax - frame.width) / (frame.height - 1) then false
  else
    frame.width ≤ sizeMax / frame.height &&
      frame.metadata.damage.isValidFor frame.width frame.height

def bytes (frame : IndexedFrameView) : Memory := frame.indices.getD fun _ => 0

/-- The palette index of one pixel. -/
def index (frame : IndexedFrameView) (x y : Nat) : UInt8 :=
  frame.bytes (y * frame.stride.toNat + x)

/-- The palette colour of one pixel. -/
def color (frame : IndexedFrameView) (x y : Nat) : RgbColor :=
  frame.palette.entries.getD (frame.index x y).toNat {}

def hasValidIndices (frame : IndexedFrameView) : Bool :=
  frame.isValid &&
    (List.range frame.height.toNat).all fun row =>
      (List.range frame.width.toNat).all fun column =>
        (frame.index column row).toNat < frame.palette.size

/-- The sub-view that `encodeRegion` builds. -/
def region (frame : IndexedFrameView) (region : DamageRegion) : IndexedFrameView :=
  { indices := frame.indices.map fun memory => memory.advance
      (region.y.toNat * frame.stride.toNat + region.x.toNat)
    width := region.width
    height := region.height
    stride := frame.stride
    palette := frame.palette }

end IndexedFrameView

/-! ### What validation promises -/

/-- The geometry of an accepted packed frame. -/
structure FrameView.Geometry (frame : FrameView) : Prop where
  present : frame.data.isSome = true
  width_pos : 0 < frame.width
  height_pos : 0 < frame.height
  format_listed : bytesPerPixel frame.format ≠ 0
  area_le : frame.width * frame.height ≤ intMax
  row_le : frame.width * bytesPerPixel frame.format ≤ frame.stride
  damage_valid : frame.metadata.damage.isValidFor frame.width frame.height = true

theorem FrameView.geometry_of_isValid {frame : FrameView} (valid : frame.isValid = true) :
    frame.Geometry := by
  unfold isValid at valid
  simp only at valid
  split_ifs at valid with basic area bytes stride
  simp only [Bool.or_eq_true, decide_eq_true_eq, beq_iff_eq, not_or, not_le] at basic
  obtain ⟨⟨⟨⟨present, widthPos⟩, heightPos⟩, listed⟩, -⟩ := basic
  simp only [Bool.or_eq_true, decide_eq_true_eq, not_or, not_lt] at stride
  simp only [Bool.and_eq_true] at valid
  refine ⟨?_, widthPos, heightPos, ?_, ?_, stride.1, valid.2⟩
  · cases found : frame.data with
    | none => simp [found] at present
    | some memory => rfl
  · intro zero
    exact listed (by simp [zero])
  · exact (Int.le_ediv_iff_mul_le heightPos).mp (not_lt.mp area)

/-- The geometry of an accepted indexed frame. -/
structure IndexedFrameView.Geometry (frame : IndexedFrameView) : Prop where
  present : frame.indices.isSome = true
  width_pos : 0 < frame.width
  height_pos : 0 < frame.height
  row_le : frame.width ≤ frame.stride
  palette_valid : frame.palette.isValid = true
  area_le : frame.width * frame.height ≤ intMax
  damage_valid : frame.metadata.damage.isValidFor frame.width frame.height = true

theorem IndexedFrameView.geometry_of_isValid {frame : IndexedFrameView}
    (valid : frame.isValid = true) : frame.Geometry := by
  unfold isValid at valid
  split_ifs at valid with basic area stride
  simp only [Bool.or_eq_true, decide_eq_true_eq, Bool.not_eq_true', not_or, not_le,
    not_lt, Bool.not_eq_false] at basic
  obtain ⟨⟨⟨⟨⟨present, widthPos⟩, heightPos⟩, -⟩, rowLe⟩, palette⟩ := basic
  simp only [Bool.and_eq_true] at valid
  refine ⟨?_, widthPos, heightPos, rowLe, palette, ?_, valid.2⟩
  · cases found : frame.indices with
    | none => simp [found] at present
    | some memory => rfl
  · exact (Int.le_ediv_iff_mul_le heightPos).mp (not_lt.mp area)

theorem IndexedFrameView.isValid_of_hasValidIndices {frame : IndexedFrameView}
    (valid : frame.hasValidIndices = true) : frame.isValid = true := by
  simp only [hasValidIndices, Bool.and_eq_true] at valid
  exact valid.1

theorem IndexedFrameView.index_lt {frame : IndexedFrameView}
    (valid : frame.hasValidIndices = true) {x y : Nat} (xInside : x < frame.width.toNat)
    (yInside : y < frame.height.toNat) : (frame.index x y).toNat < frame.palette.size := by
  simp only [hasValidIndices, Bool.and_eq_true, List.all_eq_true, List.mem_range,
    decide_eq_true_eq] at valid
  exact valid.2 y yInside x xInside

/-! ### Regions -/

theorem FrameView.pixel_region (frame : FrameView) (area : DamageRegion) (x y : Nat) :
    (frame.region area).pixel x y = frame.pixel (area.x.toNat + x) (area.y.toNat + y) := by
  funext index
  cases found : frame.data with
  | none => simp [pixel, region, bytes, found, Memory.advance]
  | some memory =>
      simp only [pixel, region, bytes, found, Memory.advance, Option.map_some, Option.getD_some]
      congr 1
      ring

@[simp] theorem FrameView.channels_region (frame : FrameView) (area : DamageRegion) (x y : Nat) :
    (frame.region area).channels x y = frame.channels (area.x.toNat + x) (area.y.toNat + y) := by
  rw [channels, pixel_region]
  rfl

@[simp] theorem IndexedFrameView.index_region (frame : IndexedFrameView) (area : DamageRegion)
    (x y : Nat) :
    (frame.region area).index x y = frame.index (area.x.toNat + x) (area.y.toNat + y) := by
  cases found : frame.indices with
  | none => simp [index, region, bytes, found]
  | some memory =>
      simp only [index, region, bytes, found, Memory.advance, Option.map_some, Option.getD_some]
      congr 1
      ring

/-- A frame two bands high, with a row stride and a palette of three colours. -/
def IndexedFrameView.stripes : IndexedFrameView where
  indices := some fun offset => UInt8.ofNat (offset % 3)
  width := 4
  height := 7
  stride := 5
  palette := PaletteView.ofList [⟨0, 0, 0⟩, ⟨255, 0, 0⟩, ⟨1, 128, 254⟩]

/-! ### Either kind of frame -/

/-- The template argument of the calls that take a packed or an indexed frame. -/
inductive Frame where
  | packed (view : FrameView)
  | indexed (view : IndexedFrameView)

namespace Frame

def width : Frame → Int
  | packed view => view.width
  | indexed view => view.width

def height : Frame → Int
  | packed view => view.height
  | indexed view => view.height

def metadata : Frame → FrameMetadata
  | packed view => view.metadata
  | indexed view => view.metadata

def isValid : Frame → Bool
  | packed view => view.isValid
  | indexed view => view.isValid

/-- Pixel formats are tagged by their code, indexed frames by 100. -/
def formatTag : Frame → Int
  | packed view => view.format.code
  | indexed _ => 100

def bytesPerPixel : Frame → Nat
  | packed view => Rasterm.bytesPerPixel view.format
  | indexed _ => 1

def bytes : Frame → Memory
  | packed view => view.bytes
  | indexed view => view.bytes

def stride : Frame → Int
  | packed view => view.stride
  | indexed view => view.stride

/-- The palette an indexed frame brings; packed frames bring none. -/
def paletteEntries : Frame → List RgbColor
  | packed _ => []
  | indexed view => view.palette.entries

def isIndexed : Frame → Bool
  | packed _ => false
  | indexed _ => true

/-- The sub-view of a region. -/
def region (frame : Frame) (area : DamageRegion) : Frame :=
  match frame with
  | packed view => packed (view.region area)
  | indexed view => indexed (view.region area)

@[simp] theorem width_region (frame : Frame) (area : DamageRegion) :
    (frame.region area).width = area.width := by
  cases frame <;> rfl

@[simp] theorem height_region (frame : Frame) (area : DamageRegion) :
    (frame.region area).height = area.height := by
  cases frame <;> rfl

/-- The geometry every accepted frame has. -/
structure Geometry (frame : Frame) : Prop where
  width_pos : 0 < frame.width
  height_pos : 0 < frame.height
  area_le : frame.width * frame.height ≤ intMax
  bytesPerPixel_pos : 0 < frame.bytesPerPixel
  row_le : frame.width * frame.bytesPerPixel ≤ frame.stride
  damage_valid : frame.metadata.damage.isValidFor frame.width frame.height = true

theorem geometry_of_isValid {frame : Frame} (valid : frame.isValid = true) : frame.Geometry := by
  cases frame with
  | packed view =>
      have geometry := FrameView.geometry_of_isValid valid
      exact ⟨geometry.width_pos, geometry.height_pos, geometry.area_le,
        Nat.pos_of_ne_zero geometry.format_listed, geometry.row_le, geometry.damage_valid⟩
  | indexed view =>
      have geometry := IndexedFrameView.geometry_of_isValid valid
      exact ⟨geometry.width_pos, geometry.height_pos, geometry.area_le, Nat.one_pos,
        by simpa [width, bytesPerPixel, stride] using geometry.row_le, geometry.damage_valid⟩

end Frame

end Rasterm
