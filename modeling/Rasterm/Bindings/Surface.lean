import Rasterm.Frame.Layout

/-!
Contract: the check that the Rust and the Python binding make of a surface before they hand
its address to the library.

Owns both checks with their messages, the one in `usize` arithmetic that is checked and the
other in integers without bounds, which surfaces they let through, and where they differ.

Does not own the frames. `usize` is that of a 64-bit target.
-/

set_option autoImplicit false

namespace Rasterm.Bindings

/-! ### Checked arithmetic -/

/-- `usize::checked_mul`. -/
def checkedMul (left right : UInt64) : Option UInt64 :=
  if left.toNat * right.toNat < 2 ^ 64 then some (left * right) else none

/-- `usize::checked_add`. -/
def checkedAdd (left right : UInt64) : Option UInt64 :=
  if left.toNat + right.toNat < 2 ^ 64 then some (left + right) else none

theorem checkedMul_eq_some {left right product : UInt64} :
    checkedMul left right = some product ↔ product.toNat = left.toNat * right.toNat := by
  unfold checkedMul
  split_ifs with fits
  · rw [Option.some.injEq, ← UInt64.toNat_inj, UInt64.toNat_mul, Nat.mod_eq_of_lt fits]
    exact eq_comm
  · refine ⟨fun absent => absent.elim, fun same => ?_⟩
    exact absurd (same ▸ product.toNat_lt) fits

theorem checkedMul_eq_none {left right : UInt64} :
    checkedMul left right = none ↔ 2 ^ 64 ≤ left.toNat * right.toNat := by
  unfold checkedMul
  split_ifs with fits
  · exact ⟨fun absent => absent.elim, fun large => absurd fits (not_lt.mpr large)⟩
  · exact ⟨fun _ => not_lt.mp fits, fun _ => rfl⟩

theorem checkedAdd_eq_some {left right sum : UInt64} :
    checkedAdd left right = some sum ↔ sum.toNat = left.toNat + right.toNat := by
  unfold checkedAdd
  split_ifs with fits
  · rw [Option.some.injEq, ← UInt64.toNat_inj, UInt64.toNat_add, Nat.mod_eq_of_lt fits]
    exact eq_comm
  · refine ⟨fun absent => absent.elim, fun same => ?_⟩
    exact absurd (same ▸ sum.toNat_lt) fits

theorem checkedAdd_eq_none {left right : UInt64} :
    checkedAdd left right = none ↔ 2 ^ 64 ≤ left.toNat + right.toNat := by
  unfold checkedAdd
  split_ifs with fits
  · exact ⟨fun absent => absent.elim, fun large => absurd fits (not_lt.mpr large)⟩
  · exact ⟨fun _ => not_lt.mp fits, fun _ => rfl⟩

/-! ### The checks -/

def dimensionsRefused : String := "frame dimensions must be positive signed 32-bit values"

def strideRefused : String := "frame stride is smaller than one pixel row"

def bufferRefused : String := "pixel buffer is smaller than the described frame"

def sizeOverflowed : String := "frame byte size overflowed"

/-- `validate_surface` of the Rust binding. -/
def validateSurface (length : UInt64) (width height : UInt32) (stride bytesPerPixel : UInt64) :
    Except String Unit :=
  if width = 0 || height = 0 || width > 0x7fffffff || height > 0x7fffffff then
    .error dimensionsRefused
  else
    match checkedMul width.toUInt64 bytesPerPixel with
    | none => .error "frame row size overflowed"
    | some rowBytes =>
        if stride < rowBytes || stride > 0x7fffffffffffffff then .error strideRefused
        else
          match (checkedMul stride (height.toUInt64 - 1)).bind (checkedAdd · rowBytes) with
          | none => .error sizeOverflowed
          | some required => if length < required then .error bufferRefused else .ok ()

/-- `_validate_surface` of the Python binding. -/
def pythonValidateSurface (length width height stride bytesPerPixel : Int) :
    Except String Unit :=
  if !(0 < width && width ≤ 0x7fffffff) || !(0 < height && height ≤ 0x7fffffff) then
    .error dimensionsRefused
  else
    let rowBytes := width * bytesPerPixel
    if stride < rowBytes || stride > 0x7fffffffffffffff then .error strideRefused
    else if length < stride * (height - 1) + rowBytes then .error bufferRefused
    else .ok ()

/-! ### What they let through -/

/-- A surface whose rows lie one after the other in a buffer. -/
structure Contained (length : Int) (layout : Layout) : Prop where
  ordered : layout.Ordered
  width_le : layout.width ≤ intMax
  height_le : layout.height ≤ intMax
  stride_le : layout.stride ≤ ptrdiffMax
  extent_le : layout.extent ≤ length

theorem pythonValidateSurface_eq_ok {length width height stride bytesPerPixel : Int}
    (pixelPos : 0 < bytesPerPixel) :
    pythonValidateSurface length width height stride bytesPerPixel = .ok () ↔
      Contained length ⟨width, height, stride, bytesPerPixel⟩ := by
  have swapped : stride * (height - 1) = (height - 1) * stride := mul_comm _ _
  unfold pythonValidateSurface
  simp only [swapped]
  constructor
  · intro accepted
    split_ifs at accepted with dimensions distance short
    simp only [Bool.or_eq_true, Bool.not_eq_true', Bool.and_eq_false_iff, decide_eq_false_iff_not,
      decide_eq_true_eq, not_or, not_not, not_lt] at dimensions distance
    obtain ⟨⟨widthPos, widthLe⟩, heightPos, heightLe⟩ := dimensions
    exact {
      ordered := ⟨not_le.mp widthPos, not_le.mp heightPos, pixelPos, distance.1⟩
      width_le := widthLe
      height_le := heightLe
      stride_le := distance.2
      extent_le := not_lt.mp short }
  · intro contained
    obtain ⟨⟨widthPos, heightPos, -, rowLe⟩, widthLe, heightLe, strideLe, extentLe⟩ := contained
    unfold intMax at widthLe heightLe
    unfold ptrdiffMax at strideLe
    unfold Layout.rowBytes at rowLe
    unfold Layout.extent Layout.rowBytes at extentLe
    dsimp only at *
    rw [if_neg (by simp; omega), if_neg (by simp; omega), if_neg (not_lt.mpr extentLe)]

theorem exists_checkedMul {left right : UInt64} (fits : left.toNat * right.toNat < 2 ^ 64) :
    ∃ product, checkedMul left right = some product ∧
      product.toNat = left.toNat * right.toNat := by
  obtain ⟨product, found⟩ := Option.ne_none_iff_exists'.mp
    (mt checkedMul_eq_none.mp (not_le.mpr fits))
  exact ⟨product, found, checkedMul_eq_some.mp found⟩

theorem dimensions_eq (width height : UInt32) :
    (width = 0 || height = 0 || width > 0x7fffffff || height > 0x7fffffff) =
      (!((0 : Int) < width.toNat && (width.toNat : Int) ≤ 0x7fffffff) ||
        !((0 : Int) < height.toNat && (height.toNat : Int) ≤ 0x7fffffff)) := by
  have bound : (0x7fffffff : UInt32).toNat = 0x7fffffff := rfl
  simp only [gt_iff_lt, UInt32.lt_iff_toNat_lt, ← UInt32.toNat_inj, bound, UInt32.toNat_zero]
  rw [Bool.eq_iff_iff]
  simp
  omega

/-- The size of a surface, or none where it leaves `usize`. -/
theorem required_cases {height : UInt32} {stride rowBytes : UInt64} (heightPos : 0 < height.toNat) :
    (2 ^ 64 ≤ stride.toNat * (height.toNat - 1) + rowBytes.toNat ∧
        (checkedMul stride (height.toUInt64 - 1)).bind (checkedAdd · rowBytes) = none) ∨
      ∃ required : UInt64, required.toNat = stride.toNat * (height.toNat - 1) + rowBytes.toNat ∧
        (checkedMul stride (height.toUInt64 - 1)).bind (checkedAdd · rowBytes) = some required := by
  have rows : (height.toUInt64 - 1).toNat = height.toNat - 1 := by
    rw [UInt64.toNat_sub_of_le]
    · simp
    · rw [UInt64.le_iff_toNat_le]
      simpa using Nat.one_le_iff_ne_zero.mpr heightPos.ne'
  cases product : checkedMul stride (height.toUInt64 - 1) with
  | none =>
      rw [checkedMul_eq_none, rows] at product
      exact .inl ⟨Nat.le_add_right_of_le product, rfl⟩
  | some before =>
      rw [checkedMul_eq_some, rows] at product
      rw [Option.bind_some, ← product]
      cases sum : checkedAdd before rowBytes with
      | none => exact .inl ⟨checkedAdd_eq_none.mp sum, rfl⟩
      | some required => exact .inr ⟨required, checkedAdd_eq_some.mp sum, rfl⟩

/-- Where the size leaves `usize`, the Rust binding says so; else it says what the Python binding
says. -/
theorem validateSurface_eq {length : UInt64} {width height : UInt32} {stride bytesPerPixel : UInt64}
    (pixelLe : bytesPerPixel.toNat ≤ 4) :
    validateSurface length width height stride bytesPerPixel =
      let verdict := pythonValidateSurface length.toNat width.toNat height.toNat stride.toNat
        bytesPerPixel.toNat
      if verdict = .error bufferRefused ∧
          2 ^ 64 ≤ stride.toNat * (height.toNat - 1) + width.toNat * bytesPerPixel.toNat then
        .error sizeOverflowed
      else verdict := by
  unfold validateSurface pythonValidateSurface
  rw [dimensions_eq]
  by_cases dimensions : (!((0 : Int) < width.toNat && (width.toNat : Int) ≤ 0x7fffffff) ||
      !((0 : Int) < height.toNat && (height.toNat : Int) ≤ 0x7fffffff)) = true
  · rw [if_pos dimensions, if_pos dimensions]
    rfl
  rw [if_neg dimensions, if_neg dimensions]
  simp only [Bool.or_eq_true, Bool.not_eq_true', Bool.and_eq_false_iff, decide_eq_false_iff_not,
    not_or, not_not] at dimensions
  obtain ⟨⟨-, widthLe⟩, heightPos, heightLe⟩ := dimensions
  have narrow : width.toUInt64.toNat * bytesPerPixel.toNat < 2 ^ 64 := by
    have product : width.toNat * bytesPerPixel.toNat ≤ 0x7fffffff * 4 :=
      Nat.mul_le_mul (by omega) pixelLe
    rw [UInt32.toNat_toUInt64]
    omega
  obtain ⟨rowBytes, isRow, row⟩ := exists_checkedMul narrow
  rw [UInt32.toNat_toUInt64] at row
  rw [isRow]
  have rowEq : (width.toNat : Int) * bytesPerPixel.toNat = rowBytes.toNat := by
    rw [row, Nat.cast_mul]
  dsimp only
  rw [rowEq, ← row]
  have distanceEq : (stride < rowBytes || stride > 0x7fffffffffffffff) =
      ((stride.toNat : Int) < rowBytes.toNat || (stride.toNat : Int) > 0x7fffffffffffffff) := by
    have bound : (0x7fffffffffffffff : UInt64).toNat = 0x7fffffffffffffff := rfl
    simp only [gt_iff_lt, UInt64.lt_iff_toNat_lt, bound]
    rw [Bool.eq_iff_iff]
    simp
  rw [distanceEq]
  by_cases distance : ((stride.toNat : Int) < rowBytes.toNat ||
      (stride.toNat : Int) > 0x7fffffffffffffff) = true
  · rw [if_pos distance, if_pos distance]
    rfl
  rw [if_neg distance, if_neg distance]
  have size : (stride.toNat : Int) * (height.toNat - 1) + rowBytes.toNat =
      (stride.toNat * (height.toNat - 1) + rowBytes.toNat : Nat) := by
    rw [Nat.cast_add, Nat.cast_mul, Nat.cast_sub (by omega), Nat.cast_one]
  rw [size]
  have lengthLt := length.toNat_lt
  rcases @required_cases height stride rowBytes (show 0 < height.toNat by omega) with ⟨large, absent⟩ | ⟨required, isSize, present⟩
  · have short : (length.toNat : Int) <
        (stride.toNat * (height.toNat - 1) + rowBytes.toNat : Nat) :=
      Nat.cast_lt.mpr (lengthLt.trans_le large)
    rw [absent]
    dsimp only
    rw [if_pos short, if_pos ⟨rfl, large⟩]
  · have requiredLt := required.toNat_lt
    rw [present, ← isSize]
    dsimp only
    rw [if_neg fun both : _ ∧ 2 ^ 64 ≤ required.toNat => absurd both.2 (not_le.mpr requiredLt)]
    simp only [UInt64.lt_iff_toNat_lt, Nat.cast_lt]

theorem validateSurface_eq_ok {length : UInt64} {width height : UInt32}
    {stride bytesPerPixel : UInt64} (pixelPos : 0 < bytesPerPixel.toNat)
    (pixelLe : bytesPerPixel.toNat ≤ 4) :
    validateSurface length width height stride bytesPerPixel = .ok () ↔
      Contained length.toNat ⟨width.toNat, height.toNat, stride.toNat, bytesPerPixel.toNat⟩ := by
  rw [validateSurface_eq pixelLe, ← pythonValidateSurface_eq_ok (Nat.cast_pos.mpr pixelPos)]
  dsimp only
  split_ifs with overflowed
  · simp [overflowed.1]
  · rfl

/-- The library takes no other surface of a buffer. -/
theorem contained_of_layout {layout : Layout} {length : Int} (ordered : layout.Ordered)
    (area : layout.width * layout.height ≤ intMax) (strideLe : layout.stride ≤ ptrdiffMax)
    (extentLe : layout.extent ≤ length) : Contained length layout := by
  have sides := sides_le_of_area_le ordered.width_pos ordered.height_pos area
  exact ⟨ordered, sides.1, sides.2, strideLe, extentLe⟩

/-- Both checks let the same surfaces through, all of them inside the buffer and none missing that
the library would take. Where both refuse one, they say the same, but that the size of a surface
leaves `usize` only the Rust binding says. -/
theorem surface_checks_exact :
    (∀ (length : UInt64) (width height : UInt32) (stride bytesPerPixel : UInt64),
      0 < bytesPerPixel.toNat → bytesPerPixel.toNat ≤ 4 →
        (validateSurface length width height stride bytesPerPixel = .ok () ↔
          Contained length.toNat ⟨width.toNat, height.toNat, stride.toNat, bytesPerPixel.toNat⟩) ∧
        ∀ message, validateSurface length width height stride bytesPerPixel = .error message →
          pythonValidateSurface length.toNat width.toNat height.toNat stride.toNat
              bytesPerPixel.toNat =
            .error (if message = sizeOverflowed then bufferRefused else message)) ∧
    (∀ length width height stride bytesPerPixel : Int, 0 < bytesPerPixel →
      (pythonValidateSurface length width height stride bytesPerPixel = .ok () ↔
        Contained length ⟨width, height, stride, bytesPerPixel⟩)) ∧
    (∀ (view : FrameView) (length : Int), view.isValid = true → view.stride ≤ ptrdiffMax →
      view.layout.extent ≤ length → Contained length view.layout) ∧
    ∀ (view : IndexedFrameView) (length : Int), view.isValid = true → view.stride ≤ ptrdiffMax →
      view.layout.extent ≤ length → Contained length view.layout := by
  refine ⟨?_, ?_, ?_, ?_⟩
  · intro length width height stride bytesPerPixel pixelPos pixelLe
    refine ⟨validateSurface_eq_ok pixelPos pixelLe, ?_⟩
    intro message refused
    rw [validateSurface_eq pixelLe] at refused
    dsimp only at refused
    split_ifs at refused with overflowed
    · cases refused
      rw [if_pos rfl, overflowed.1]
    · have different : message ≠ sizeOverflowed := by
        rintro rfl
        unfold pythonValidateSurface at refused
        dsimp only at refused
        split_ifs at refused <;> exact absurd (Except.error.inj refused) (by decide)
      rw [if_neg different, refused]
  · intro length width height stride bytesPerPixel pixelPos
    exact pythonValidateSurface_eq_ok pixelPos
  · intro view length valid strideLe extentLe
    have geometry := FrameView.geometry_of_isValid valid
    exact contained_of_layout (FrameView.layout_of_isValid valid).1 geometry.area_le strideLe
      extentLe
  · intro view length valid strideLe extentLe
    have geometry := IndexedFrameView.geometry_of_isValid valid
    exact contained_of_layout (IndexedFrameView.layout_of_isValid valid).1 geometry.area_le strideLe
      extentLe

/-- Rows of four bytes, so far apart that the size leaves `usize`. -/
theorem surface_checks_exact_far :
    validateSurface 16 2 2 8 4 = .ok () ∧ Contained 16 ⟨2, 2, 8, 4⟩ ∧
      validateSurface 16 1 4 0x7fffffffffffffff 4 = .error sizeOverflowed ∧
      pythonValidateSurface 16 1 4 0x7fffffffffffffff 4 = .error bufferRefused :=
  ⟨by decide +kernel, (surface_checks_exact.2.1 16 2 2 8 4 (by decide)).mp (by decide +kernel),
    by decide +kernel, (surface_checks_exact.1 16 1 4 0x7fffffffffffffff 4 (by decide)
      (by decide)).2 sizeOverflowed (by decide +kernel)⟩

end Rasterm.Bindings
