import Mathlib.Algebra.Order.Ring.Int
import Rasterm.Frame.Owned

/-!
Contract: where the bytes of a frame lie in its storage.

Owns the layout of rows a frame describes, the offsets of every access to it (pixels,
rows, damaged rectangles and the sub-views of regions), that they lie within the extent of
the layout, and what an accepted view says about its layout.

Does not own the size of any storage.
-/

set_option autoImplicit false

namespace Rasterm

/-- Rows of bytes in a storage, `stride` apart. -/
structure Layout where
  width : Int
  height : Int
  stride : Int
  /-- Bytes for each pixel. -/
  pixelBytes : Int

namespace Layout

/-- The bytes of one row. -/
def rowBytes (layout : Layout) : Int := layout.width * layout.pixelBytes

/-- The bytes from the first to the last. -/
def extent (layout : Layout) : Int := (layout.height - 1) * layout.stride + layout.rowBytes

/-- The offset of a byte of a pixel. -/
def offset (layout : Layout) (row column byte : Int) : Int :=
  row * layout.stride + column * layout.pixelBytes + byte

/-- Rows lie one after the other. -/
structure Ordered (layout : Layout) : Prop where
  width_pos : 0 < layout.width
  height_pos : 0 < layout.height
  pixelBytes_pos : 0 < layout.pixelBytes
  row_le : layout.rowBytes ≤ layout.stride

/-- The storage has a byte for each access to the rectangles of the frame. -/
structure SafeToRead (layout : Layout) (size : Int) (rectangles : List DamageRect) : Prop where
  pixels : ∀ row column byte, 0 ≤ row → row < layout.height → 0 ≤ column → column < layout.width →
    0 ≤ byte → byte < layout.pixelBytes →
      0 ≤ layout.offset row column byte ∧ layout.offset row column byte < size
  /-- Copies and comparisons of a row or of a part of it. -/
  rows : ∀ row first last, 0 ≤ row → row < layout.height → 0 ≤ first → first ≤ last →
    last ≤ layout.rowBytes → 0 ≤ row * layout.stride + first ∧ row * layout.stride + last ≤ size
  damage : ∀ rectangle ∈ rectangles, ∀ row column byte, rectangle.Contains column row →
    0 ≤ byte → byte < layout.pixelBytes →
      0 ≤ layout.offset row column byte ∧ layout.offset row column byte < size
  /-- Pixels of the sub-view of a region. -/
  regions : ∀ rectangle ∈ rectangles, ∀ row column byte, 0 ≤ row → row < rectangle.height →
    0 ≤ column → column < rectangle.width → 0 ≤ byte → byte < layout.pixelBytes →
      0 ≤ layout.offset rectangle.y rectangle.x 0 + layout.offset row column byte ∧
        layout.offset rectangle.y rectangle.x 0 + layout.offset row column byte < size

namespace Ordered

variable {layout : Layout} (ordered : layout.Ordered)

include ordered

theorem stride_pos : 0 < layout.stride :=
  lt_of_lt_of_le (mul_pos ordered.width_pos ordered.pixelBytes_pos) ordered.row_le

/-- A part of a row ends within the extent. -/
theorem row_bounds {row first last : Int} (rowNonneg : 0 ≤ row) (rowLt : row < layout.height)
    (firstNonneg : 0 ≤ first) (lastLe : last ≤ layout.rowBytes) :
    0 ≤ row * layout.stride + first ∧ row * layout.stride + last ≤ layout.extent := by
  have stride := ordered.stride_pos
  have start : 0 ≤ row * layout.stride := mul_nonneg rowNonneg stride.le
  have before : row * layout.stride ≤ (layout.height - 1) * layout.stride :=
    mul_le_mul_of_nonneg_right (by omega) stride.le
  unfold extent
  omega

/-- The bytes of a pixel lie in its row. -/
theorem column_bounds {column byte : Int} (columnNonneg : 0 ≤ column)
    (columnLt : column < layout.width) (byteNonneg : 0 ≤ byte) (byteLt : byte < layout.pixelBytes) :
    0 ≤ column * layout.pixelBytes + byte ∧
      column * layout.pixelBytes + byte < layout.rowBytes := by
  have positive := ordered.pixelBytes_pos
  have start : 0 ≤ column * layout.pixelBytes := mul_nonneg columnNonneg positive.le
  have next : (column + 1) * layout.pixelBytes ≤ layout.width * layout.pixelBytes :=
    mul_le_mul_of_nonneg_right (by omega) positive.le
  rw [add_mul, one_mul] at next
  unfold rowBytes
  omega

theorem offset_bounds {row column byte : Int} (rowNonneg : 0 ≤ row) (rowLt : row < layout.height)
    (columnNonneg : 0 ≤ column) (columnLt : column < layout.width) (byteNonneg : 0 ≤ byte)
    (byteLt : byte < layout.pixelBytes) :
    0 ≤ layout.offset row column byte ∧ layout.offset row column byte < layout.extent := by
  obtain ⟨nonneg, lt⟩ := ordered.column_bounds columnNonneg columnLt byteNonneg byteLt
  have bounds := ordered.row_bounds rowNonneg rowLt nonneg
    (show column * layout.pixelBytes + byte + 1 ≤ layout.rowBytes by omega)
  unfold offset
  omega

/-- A storage of the extent has a byte for each access. -/
theorem safeToRead {size : Int} (enough : layout.extent ≤ size) {rectangles : List DamageRect}
    (inside : ∀ rectangle ∈ rectangles, rectangle.Inside layout.width layout.height) :
    layout.SafeToRead size rectangles where
  pixels := by
    intro row column byte rowNonneg rowLt columnNonneg columnLt byteNonneg byteLt
    have bounds := ordered.offset_bounds rowNonneg rowLt columnNonneg columnLt byteNonneg byteLt
    omega
  rows := by
    intro row first last rowNonneg rowLt firstNonneg order lastLe
    have bounds := ordered.row_bounds rowNonneg rowLt firstNonneg lastLe
    omega
  damage := by
    intro rectangle member row column byte contains byteNonneg byteLt
    obtain ⟨left, top, -, -, right, bottom⟩ := inside rectangle member
    unfold DamageRect.Contains at contains
    have bounds := ordered.offset_bounds (show 0 ≤ row by omega) (by omega)
      (show 0 ≤ column by omega) (by omega) byteNonneg byteLt
    omega
  regions := by
    intro rectangle member row column byte rowNonneg rowLt columnNonneg columnLt byteNonneg byteLt
    obtain ⟨left, top, -, -, right, bottom⟩ := inside rectangle member
    have bounds := ordered.offset_bounds (show 0 ≤ rectangle.y + row by omega) (by omega)
      (show 0 ≤ rectangle.x + column by omega) (by omega) byteNonneg byteLt
    have moved : layout.offset rectangle.y rectangle.x 0 + layout.offset row column byte =
        layout.offset (rectangle.y + row) (rectangle.x + column) byte := by
      unfold offset
      ring
    rw [moved]
    omega

end Ordered

end Layout

/-! ### Accepted views -/

/-- The sides of an area within `int` are within `int`. -/
theorem sides_le_of_area_le {width height : Int} (widthPos : 0 < width) (heightPos : 0 < height)
    (area : width * height ≤ intMax) : width ≤ intMax ∧ height ≤ intMax := by
  have columns : width * 1 ≤ width * height := mul_le_mul_of_nonneg_left heightPos widthPos.le
  have rows : 1 * height ≤ width * height := mul_le_mul_of_nonneg_right widthPos heightPos.le
  omega

def FrameView.layout (frame : FrameView) : Layout where
  width := frame.width
  height := frame.height
  stride := frame.stride
  pixelBytes := bytesPerPixel frame.format

def IndexedFrameView.layout (frame : IndexedFrameView) : Layout where
  width := frame.width
  height := frame.height
  stride := frame.stride
  pixelBytes := 1

/-- What the guarded division of the stride says. -/
theorem Layout.extent_le_of_stride_le {layout : Layout} {maximum : Int}
    (heightPos : 0 < layout.height) (row : layout.rowBytes ≤ maximum)
    (stride : 1 < layout.height →
      layout.stride ≤ (maximum - layout.rowBytes) / (layout.height - 1)) :
    layout.extent ≤ maximum := by
  unfold extent
  rcases Int.lt_or_le 1 layout.height with several | single
  · have last := (Int.le_ediv_iff_mul_le (show 0 < layout.height - 1 by omega)).mp (stride several)
    have swapped : (layout.height - 1) * layout.stride = layout.stride * (layout.height - 1) :=
      mul_comm _ _
    omega
  · have one : layout.height - 1 = 0 := by omega
    rw [one, zero_mul, zero_add]
    exact row

/-- The rows of an accepted frame are in order and end within `std::ptrdiff_t`. -/
theorem FrameView.layout_of_isValid {frame : FrameView} (valid : frame.isValid = true) :
    frame.layout.Ordered ∧ frame.layout.rowBytes ≤ ptrdiffMax ∧
      frame.layout.extent ≤ ptrdiffMax := by
  have geometry := geometry_of_isValid valid
  have positive : 0 < (bytesPerPixel frame.format : Int) := by
    have listed := geometry.format_listed
    omega
  have ordered : frame.layout.Ordered :=
    ⟨geometry.width_pos, geometry.height_pos, positive, geometry.row_le⟩
  unfold isValid at valid
  simp only at valid
  split_ifs at valid with basic area bytes stride
  have rowBytes : frame.layout.rowBytes ≤ ptrdiffMax :=
    (Int.le_ediv_iff_mul_le positive).mp (not_lt.mp bytes)
  simp only [Bool.or_eq_true, Bool.and_eq_true, decide_eq_true_eq, not_or, not_and, not_lt] at stride
  exact ⟨ordered, rowBytes, Layout.extent_le_of_stride_le geometry.height_pos rowBytes stride.2⟩

theorem IndexedFrameView.layout_of_isValid {frame : IndexedFrameView}
    (valid : frame.isValid = true) :
    frame.layout.Ordered ∧ frame.layout.rowBytes ≤ ptrdiffMax ∧
      frame.layout.extent ≤ ptrdiffMax := by
  have geometry := geometry_of_isValid valid
  have single : frame.layout.rowBytes = frame.width := mul_one _
  have ordered : frame.layout.Ordered :=
    ⟨geometry.width_pos, geometry.height_pos, Int.one_pos, single.trans_le geometry.row_le⟩
  have rowBytes : frame.layout.rowBytes ≤ ptrdiffMax := by
    have width := (sides_le_of_area_le geometry.width_pos geometry.height_pos geometry.area_le).1
    rw [single]
    exact width.trans (by decide)
  unfold isValid at valid
  split_ifs at valid with basic area stride
  simp only [Bool.and_eq_true, decide_eq_true_eq, not_and, not_lt] at stride
  refine ⟨ordered, rowBytes, Layout.extent_le_of_stride_le geometry.height_pos rowBytes ?_⟩
  rwa [single]

end Rasterm
