import Mathlib.Algebra.Order.Ring.Int
import Rasterm.Frame.Layout
import Rasterm.Library.Checked

/-!
Contract: the validation of frames, with every value checked against its type.

Owns the checked forms of `isValid`, where each expression of the source is evaluated in
its own type and each index is read from the storage, and that they never leave a type:
a checked form is the plain one, or stops at a read.

The counters of the loops stay at or below a bound of their own type and are left out.
Does not own when the reads stay inside the storage.
-/

set_option autoImplicit false

namespace Rasterm

open Checked

/-- `int`. -/
def intRange : Checked.Range := ⟨-intMax - 1, intMax⟩

/-- `std::ptrdiff_t` of a 64-bit target. -/
def ptrdiffRange : Checked.Range := ⟨-ptrdiffMax - 1, ptrdiffMax⟩

/-- `std::size_t` of a 64-bit target. -/
def sizeRange : Checked.Range := ⟨0, sizeMax⟩

theorem intRange_holds {value : Int} (nonneg : 0 ≤ value) (le : value ≤ intMax) :
    intRange.Holds value :=
  Range.holds_of_le (by decide) (show intRange.Holds intMax by decide) nonneg le

theorem ptrdiffRange_holds {value : Int} (nonneg : 0 ≤ value) (le : value ≤ ptrdiffMax) :
    ptrdiffRange.Holds value :=
  Range.holds_of_le (by decide) (show ptrdiffRange.Holds ptrdiffMax by decide) nonneg le

theorem sizeRange_holds {value : Int} (nonneg : 0 ≤ value) (le : value ≤ sizeMax) :
    sizeRange.Holds value :=
  ⟨nonneg, le⟩

theorem ptrdiffMax_le_sizeMax : ptrdiffMax ≤ sizeMax := by decide

theorem intMax_le_ptrdiffMax : intMax ≤ ptrdiffMax := by decide

/-! ### Damage -/

def DamageView.checkedRectangleIsValidFor (rectangle : DamageRect)
    (frameWidth frameHeight : Int) : Except Fault Bool :=
  if !rectangle.isValid || rectangle.x < 0 || rectangle.y < 0 ||
      rectangle.x > frameWidth || rectangle.y > frameHeight then .ok false
  else do
    let columns ← intRange.eval (frameWidth - rectangle.x)
    if rectangle.width > columns then .ok false
    else do
      let rows ← intRange.eval (frameHeight - rectangle.y)
      if rectangle.height > rows then .ok false else .ok true

def DamageView.checkedIsValidFor (damage : DamageView) (frameWidth frameHeight : Int) :
    Except Fault Bool :=
  if frameWidth ≤ 0 || frameHeight ≤ 0 then .ok false
  else if !damage.supplied then .ok (damage.rectangles.isNone && damage.count == 0)
  else if damage.count > 0 && damage.rectangles.isNone then .ok false
  else all (fun rectangle => checkedRectangleIsValidFor rectangle frameWidth frameHeight)
    damage.rects

theorem DamageView.checkedRectangleIsValidFor_eq {frameWidth frameHeight : Int}
    (widthLe : frameWidth ≤ intMax) (heightLe : frameHeight ≤ intMax) (rectangle : DamageRect) :
    checkedRectangleIsValidFor rectangle frameWidth frameHeight =
      .ok (rectangleIsValidFor rectangle frameWidth frameHeight) := by
  unfold checkedRectangleIsValidFor rectangleIsValidFor
  split_ifs with refused
  · simp only [refused, Bool.true_or, Bool.not_true]
  · have accepted := refused
    simp only [Bool.or_eq_true, decide_eq_true_eq, not_or, not_lt] at accepted
    obtain ⟨⟨⟨⟨-, left⟩, top⟩, right⟩, bottom⟩ := accepted
    rw [Range.eval_bind (intRange_holds (by omega) (by omega))]
    split_ifs with wide
    · simp [wide]
    · rw [Range.eval_bind (intRange_holds (by omega) (by omega))]
      split_ifs with high <;> simp [refused, wide, high]

/-- The check of a damage list never leaves `int`. -/
theorem DamageView.checkedIsValidFor_eq {damage : DamageView} {frameWidth frameHeight : Int}
    (widthLe : frameWidth ≤ intMax) (heightLe : frameHeight ≤ intMax) :
    damage.checkedIsValidFor frameWidth frameHeight =
      .ok (damage.isValidFor frameWidth frameHeight) := by
  unfold checkedIsValidFor isValidFor
  split_ifs
  · rfl
  · rfl
  · rfl
  · exact all_eq fun rectangle _ => checkedRectangleIsValidFor_eq widthLe heightLe rectangle

/-! ### Views -/

/-- `stride < rowBytes || (height > 1 && stride > (maximum - rowBytes) / (height - 1))`, as
both kinds of views ask it. -/
def checkedStrideRefused (height stride rowBytes : Int) : Except Fault Bool :=
  if stride < rowBytes then .ok true
  else if height > 1 then do
    let spare ← ptrdiffRange.eval (ptrdiffMax - rowBytes)
    let rows ← intRange.eval (height - 1)
    let most ← ptrdiffRange.eval (spare / rows)
    if stride > most then .ok true else .ok false
  else .ok false

/-- The last check of a view: the packed size, and the damage list. -/
def checkedTail (width height rowBytes : Int) (damage : DamageView) : Except Fault Bool := do
  let row ← sizeRange.eval rowBytes
  let rows ← sizeRange.eval height
  let most ← sizeRange.eval (sizeMax / rows)
  if row > most then .ok false else damage.checkedIsValidFor width height

def FrameView.checkedIsValid (frame : FrameView) : Except Fault Bool :=
  let pixelBytes : Int := bytesPerPixel frame.format
  if frame.data.isNone || frame.width ≤ 0 || frame.height ≤ 0 || pixelBytes == 0 ||
      frame.stride ≤ 0 then .ok false
  else do
    let mostColumns ← intRange.eval (intMax / frame.height)
    if frame.width > mostColumns then .ok false
    else do
      let mostPixels ← ptrdiffRange.eval (ptrdiffMax / pixelBytes)
      if frame.width > mostPixels then .ok false
      else do
        let rowBytes ← ptrdiffRange.eval (frame.width * pixelBytes)
        let refused ← checkedStrideRefused frame.height frame.stride rowBytes
        if refused then .ok false
        else checkedTail frame.width frame.height rowBytes frame.metadata.damage

def IndexedFrameView.checkedIsValid (frame : IndexedFrameView) : Except Fault Bool :=
  if frame.indices.isNone || frame.width ≤ 0 || frame.height ≤ 0 || frame.stride ≤ 0 ||
      frame.stride < frame.width || !frame.palette.isValid then .ok false
  else do
    let mostColumns ← intRange.eval (intMax / frame.height)
    if frame.width > mostColumns then .ok false
    else do
      let refused ← checkedStrideRefused frame.height frame.stride frame.width
      if refused then .ok false
      else checkedTail frame.width frame.height frame.width frame.metadata.damage

theorem checkedStrideRefused_eq {height stride rowBytes : Int} (heightLe : height ≤ intMax)
    (rowBytesNonneg : 0 ≤ rowBytes) (rowBytesLe : rowBytes ≤ ptrdiffMax) :
    checkedStrideRefused height stride rowBytes =
      .ok (stride < rowBytes || (height > 1 && stride > (ptrdiffMax - rowBytes) / (height - 1))) := by
  unfold checkedStrideRefused
  split_ifs with short several
  · simp [short]
  · rw [Range.eval_bind (ptrdiffRange_holds (by omega) (by omega)),
      Range.eval_bind (intRange_holds (by omega) (by omega))]
    obtain ⟨nonneg, le⟩ := ediv_le_of_pos (show 0 ≤ ptrdiffMax - rowBytes by omega)
      (show 0 < height - 1 by omega)
    rw [Range.eval_bind (ptrdiffRange_holds nonneg (by omega))]
    split_ifs with far <;> simp [short, several, far]
  · simp [short, several]

theorem checkedTail_eq {width height rowBytes : Int} {damage : DamageView}
    (widthLe : width ≤ intMax) (heightPos : 0 < height) (heightLe : height ≤ intMax)
    (rowBytesNonneg : 0 ≤ rowBytes) (rowBytesLe : rowBytes ≤ ptrdiffMax) :
    checkedTail width height rowBytes damage =
      .ok (rowBytes ≤ sizeMax / height && damage.isValidFor width height) := by
  have sizes := ptrdiffMax_le_sizeMax
  have ints := intMax_le_ptrdiffMax
  unfold checkedTail
  rw [Range.eval_bind (sizeRange_holds rowBytesNonneg (by omega)),
    Range.eval_bind (sizeRange_holds heightPos.le (by omega))]
  obtain ⟨nonneg, le⟩ := ediv_le_of_pos (show 0 ≤ sizeMax by decide) heightPos
  rw [Range.eval_bind (sizeRange_holds nonneg le), DamageView.checkedIsValidFor_eq widthLe heightLe]
  split_ifs with large
  · simp [not_le.mpr large]
  · simp [not_lt.mp large]

/-- The check of a packed view never leaves a type. -/
theorem FrameView.checkedIsValid_eq (frame : FrameView) :
    frame.checkedIsValid = .ok frame.isValid := by
  unfold checkedIsValid isValid
  refine ite_ok_eq fun basic => ?_
  simp only [Bool.or_eq_true, decide_eq_true_eq, beq_iff_eq, not_or, not_le] at basic
  obtain ⟨⟨⟨⟨-, widthPos⟩, heightPos⟩, listed⟩, -⟩ := basic
  have pixelBytesPos : 0 < (bytesPerPixel frame.format : Int) := by omega
  obtain ⟨columnsNonneg, columnsLe⟩ := ediv_le_of_pos (show 0 ≤ intMax by decide) heightPos
  rw [Range.eval_bind (intRange_holds columnsNonneg columnsLe)]
  refine ite_ok_eq fun large => ?_
  have area := (Int.le_ediv_iff_mul_le heightPos).mp (not_lt.mp large)
  have sides := sides_le_of_area_le widthPos heightPos area
  obtain ⟨pixelsNonneg, pixelsLe⟩ := ediv_le_of_pos (show 0 ≤ ptrdiffMax by decide) pixelBytesPos
  rw [Range.eval_bind (ptrdiffRange_holds pixelsNonneg pixelsLe)]
  refine ite_ok_eq fun wide => ?_
  have rowBytesLe := (Int.le_ediv_iff_mul_le pixelBytesPos).mp (not_lt.mp wide)
  have rowBytesNonneg := mul_nonneg widthPos.le pixelBytesPos.le
  rw [Range.eval_bind (ptrdiffRange_holds rowBytesNonneg rowBytesLe),
    checkedStrideRefused_eq sides.2 rowBytesNonneg rowBytesLe, ok_bind,
    checkedTail_eq sides.1 heightPos sides.2 rowBytesNonneg rowBytesLe]
  exact ite_ok_eq fun _ => rfl

/-- The check of an indexed view never leaves a type. -/
theorem IndexedFrameView.checkedIsValid_eq (frame : IndexedFrameView) :
    frame.checkedIsValid = .ok frame.isValid := by
  unfold checkedIsValid isValid
  refine ite_ok_eq fun basic => ?_
  simp only [Bool.or_eq_true, decide_eq_true_eq, not_or, not_le, not_lt] at basic
  obtain ⟨⟨⟨⟨⟨-, widthPos⟩, heightPos⟩, -⟩, rowLe⟩, -⟩ := basic
  obtain ⟨columnsNonneg, columnsLe⟩ := ediv_le_of_pos (show 0 ≤ intMax by decide) heightPos
  rw [Range.eval_bind (intRange_holds columnsNonneg columnsLe)]
  refine ite_ok_eq fun large => ?_
  have area := (Int.le_ediv_iff_mul_le heightPos).mp (not_lt.mp large)
  have sides := sides_le_of_area_le widthPos heightPos area
  have ints := intMax_le_ptrdiffMax
  rw [checkedStrideRefused_eq sides.2 widthPos.le (by omega), ok_bind,
    checkedTail_eq sides.1 heightPos sides.2 widthPos.le (by omega),
    decide_eq_false (not_lt.mpr rowLe), Bool.false_or]
  exact ite_ok_eq fun _ => rfl

/-! ### Owned frames -/

/-- The last check of an owned frame, of the size of its storage. -/
def checkedStorageFits (size : Nat) (height stride rowBytes : Int) : Except Fault Bool := do
  let above ← intRange.eval (height - 1)
  let rows ← sizeRange.eval above
  let distance ← sizeRange.eval stride
  let spare ← sizeRange.eval (sizeMax - rowBytes)
  let most ← sizeRange.eval (spare / distance)
  if rows > most then .ok false
  else do
    let before ← sizeRange.eval (rows * distance)
    let extent ← sizeRange.eval (before + rowBytes)
    if extent > size then .ok false else .ok true

def OwnedFrame.checkedIsValid (frame : OwnedFrame) : Except Fault Bool := do
  let valid ← frame.view.checkedIsValid
  if valid = false then .ok false
  else do
    let width ← sizeRange.eval frame.width
    let rowBytes ← sizeRange.eval (width * bytesPerPixel frame.format)
    checkedStorageFits frame.storage.length frame.height frame.stride rowBytes

/-- One index of the scan, `row * stride` bytes or more into the storage. -/
def OwnedIndexedFrame.checkedIndex (frame : OwnedIndexedFrame) (start : Int) (column : Nat) :
    Except Fault Bool := do
  let index ← readAt frame.storage (start.toNat + column)
  .ok (index.toNat < frame.colors.length)

/-- One row of the scan. -/
def OwnedIndexedFrame.checkedRow (frame : OwnedIndexedFrame) (row : Nat) : Except Fault Bool := do
  let start ← ptrdiffRange.eval (row * frame.stride)
  all (frame.checkedIndex start) (List.range frame.width.toNat)

/-- `hasValidIndices` of the view, reading the storage. -/
def OwnedIndexedFrame.checkedHasValidIndices (frame : OwnedIndexedFrame) : Except Fault Bool := do
  let valid ← frame.view.checkedIsValid
  if valid = false then .ok false
  else all frame.checkedRow (List.range frame.height.toNat)

def OwnedIndexedFrame.checkedIsValid (frame : OwnedIndexedFrame) : Except Fault Bool := do
  let valid ← frame.checkedHasValidIndices
  if valid = false then .ok false
  else do
    let rowBytes ← sizeRange.eval frame.width
    checkedStorageFits frame.storage.length frame.height frame.stride rowBytes

/-- The size check never leaves a type, for the layout of an accepted view. -/
theorem checkedStorageFits_eq {layout : Layout} (ordered : layout.Ordered)
    (heightLe : layout.height ≤ intMax) (strideLe : layout.stride ≤ ptrdiffMax)
    (extentLe : layout.extent ≤ ptrdiffMax) (size : Nat) :
    checkedStorageFits size layout.height layout.stride layout.rowBytes =
      .ok (layout.height - 1 ≤ (sizeMax - layout.rowBytes) / layout.stride &&
        layout.extent ≤ size) := by
  have stridePos := ordered.stride_pos
  have heightPos := ordered.height_pos
  have rowPos := mul_pos ordered.width_pos ordered.pixelBytes_pos
  have before : 0 ≤ (layout.height - 1) * layout.stride := mul_nonneg (by omega) stridePos.le
  have extent : layout.extent = (layout.height - 1) * layout.stride + layout.rowBytes := rfl
  have row : layout.rowBytes = layout.width * layout.pixelBytes := rfl
  have sizes := ptrdiffMax_le_sizeMax
  have ints := intMax_le_ptrdiffMax
  obtain ⟨nonneg, le⟩ := ediv_le_of_pos (show 0 ≤ sizeMax - layout.rowBytes by omega) stridePos
  unfold checkedStorageFits
  rw [Range.eval_bind (intRange_holds (by omega) (by omega)),
    Range.eval_bind (sizeRange_holds (by omega) (by omega)),
    Range.eval_bind (sizeRange_holds stridePos.le (by omega)),
    Range.eval_bind (sizeRange_holds (by omega) (by omega)),
    Range.eval_bind (sizeRange_holds nonneg (by omega)),
    Range.eval_bind (sizeRange_holds before (by omega)),
    Range.eval_bind (sizeRange_holds (by omega) (by omega)), ← extent]
  split_ifs with many large
  · simp [not_le.mpr many]
  · simp [not_le.mpr large]
  · simp [not_lt.mp many, not_lt.mp large]

end Rasterm
