import Rasterm.Frame.Checked

/-!
Contract: what the validation of an owned frame says about its storage, and what it reads
to say it.

Owns:
- that an accepted owned frame was accepted without a fault, and that each access to it
  lies in its storage;
- which owned frames are validated without a read outside their storage.

Does not own the shared views, whose storage belongs to the caller.
-/

set_option autoImplicit false

namespace Rasterm

open Checked

/-! ### Packed frames -/

namespace OwnedFrame

variable {frame : OwnedFrame}

/-- The check of an owned frame never leaves a type, and reads no byte. -/
theorem checkedIsValid_eq (typed : ptrdiffRange.Holds frame.stride) :
    frame.checkedIsValid = .ok frame.isValid := by
  unfold checkedIsValid isValid
  rw [FrameView.checkedIsValid_eq, ok_bind]
  cases accepted : frame.view.isValid with
  | false => rfl
  | true =>
      obtain ⟨ordered, row, extent⟩ := FrameView.layout_of_isValid accepted
      have geometry := FrameView.geometry_of_isValid accepted
      have sides := sides_le_of_area_le geometry.width_pos geometry.height_pos geometry.area_le
      have rowPos := mul_pos ordered.width_pos ordered.pixelBytes_pos
      have sizes := ptrdiffMax_le_sizeMax
      have ints := intMax_le_ptrdiffMax
      have fits := checkedStorageFits_eq ordered sides.2 typed.2 extent frame.storage.length
      simp only [Bool.true_eq_false, Bool.not_true, Bool.false_eq_true, if_false]
      have width : sizeRange.Holds frame.width :=
        sizeRange_holds geometry.width_pos.le (sides.1.trans (ints.trans sizes))
      have rowBytes : sizeRange.Holds (frame.width * bytesPerPixel frame.format) :=
        sizeRange_holds rowPos.le (row.trans sizes)
      rw [Range.eval_bind width, Range.eval_bind rowBytes]
      exact fits

/-- An accepted frame has a storage of the extent of its layout. -/
theorem extent_le_of_isValid (valid : frame.isValid = true) :
    frame.view.layout.extent ≤ frame.storage.length := by
  unfold isValid at valid
  split_ifs at valid
  simp only [Bool.and_eq_true, decide_eq_true_eq] at valid
  exact valid.2

/-- What an accepted frame promises to whoever reads it. -/
structure SafeToRead (frame : OwnedFrame) : Prop where
  /-- It was accepted without a fault. -/
  unfaulted : frame.checkedIsValid = .ok true
  /-- Each access lies in the storage. -/
  accesses : frame.view.layout.SafeToRead frame.storage.length frame.metadata.damage.rects
  /-- A byte of a pixel of the view is the byte of the storage. -/
  pixels : ∀ x y byte : Nat, x < frame.width.toNat → y < frame.height.toNat →
    byte < bytesPerPixel frame.format →
      frame.storage[y * frame.stride.toNat + x * bytesPerPixel frame.format + byte]? =
        some (frame.view.pixel x y byte)

theorem safeToRead (typed : ptrdiffRange.Holds frame.stride) (valid : frame.isValid = true) :
    frame.SafeToRead := by
  obtain ⟨ordered, -, -⟩ := FrameView.layout_of_isValid (isValid_view valid)
  have geometry := FrameView.geometry_of_isValid (isValid_view valid)
  have accesses := ordered.safeToRead (extent_le_of_isValid valid)
    (DamageView.inside_of_isValidFor geometry.damage_valid)
  refine ⟨by rw [checkedIsValid_eq typed, valid], accesses, ?_⟩
  intro x y byte columnInside rowInside byteInside
  have bounds : 0 ≤ (y : Int) * frame.stride + x * (bytesPerPixel frame.format : Int) + byte ∧
      (y : Int) * frame.stride + x * (bytesPerPixel frame.format : Int) + byte <
        frame.storage.length :=
    accesses.pixels y x byte (by omega) (show (y : Int) < frame.height by omega) (by omega)
      (show (x : Int) < frame.width by omega) (by omega) (Int.ofNat_lt.mpr byteInside)
  have stride : frame.stride = (frame.stride.toNat : Int) :=
    (Int.toNat_of_nonneg ordered.stride_pos.le).symm
  rw [stride] at bounds
  have inside : y * frame.stride.toNat + x * bytesPerPixel frame.format + byte <
      frame.storage.length := by
    exact_mod_cast bounds.2
  have read : frame.view.pixel x y byte =
      frame.storage.getD (y * frame.stride.toNat + x * bytesPerPixel frame.format + byte) 0 := by
    unfold FrameView.pixel FrameView.bytes view Memory.advance
    dsimp only
    rw [getD_dataOf]
  rw [read, List.getD_eq_getElem?_getD, List.getElem?_eq_getElem inside]
  rfl

end OwnedFrame

/-! ### Indexed frames -/

namespace OwnedIndexedFrame

variable {frame : OwnedIndexedFrame}

/-- Where the scan reads. -/
def offset (frame : OwnedIndexedFrame) (row column : Nat) : Nat :=
  row * frame.stride.toNat + column

theorem index_view (row column : Nat) :
    frame.view.index column row = frame.storage.getD (frame.offset row column) 0 := by
  unfold IndexedFrameView.index IndexedFrameView.bytes view
  dsimp only
  rw [getD_dataOf]
  rfl

/-- A read inside the storage says what the plain scan says. -/
theorem checkedIndex_of_lt {start : Int} {row column : Nat}
    (starts : start.toNat + column = frame.offset row column)
    (inside : frame.offset row column < frame.storage.length) :
    frame.checkedIndex start column =
      .ok ((frame.view.index column row).toNat < frame.view.palette.size) := by
  unfold checkedIndex
  rw [starts, readAt_of_lt inside 0, ok_bind, index_view]
  rfl

theorem checkedIndex_of_le {start : Int} {row column : Nat}
    (starts : start.toNat + column = frame.offset row column)
    (outside : frame.storage.length ≤ frame.offset row column) :
    frame.checkedIndex start column = .error .outOfBounds := by
  unfold checkedIndex
  rw [starts, readAt_of_le outside]
  rfl

/-- The start of a row of an accepted view is a `std::ptrdiff_t`. -/
theorem checkedRow_eq (accepted : frame.view.isValid = true) {row : Nat}
    (inside : row < frame.height.toNat) :
    frame.checkedRow row =
      all (frame.checkedIndex (row * frame.stride)) (List.range frame.width.toNat) := by
  obtain ⟨ordered, rowBytes, extent⟩ := IndexedFrameView.layout_of_isValid accepted
  have rowPos := mul_pos ordered.width_pos ordered.pixelBytes_pos
  have bounds : 0 ≤ (row : Int) * frame.stride + 0 ∧
      (row : Int) * frame.stride + 0 ≤ frame.view.layout.extent :=
    ordered.row_bounds (Int.natCast_nonneg row) (show (row : Int) < frame.height by omega) le_rfl
      rowPos.le
  unfold checkedRow
  rw [Range.eval_bind (ptrdiffRange_holds (by omega) (by omega))]

/-- Where a row of an accepted view is read. -/
theorem toNat_start_add (accepted : frame.view.isValid = true) (row column : Nat) :
    ((row : Int) * frame.stride).toNat + column = frame.offset row column := by
  obtain ⟨ordered, -, -⟩ := IndexedFrameView.layout_of_isValid accepted
  have strideNonneg : 0 ≤ frame.stride := ordered.stride_pos.le
  unfold offset
  rw [Int.toNat_mul (Int.natCast_nonneg row) strideNonneg, Int.toNat_natCast]

/-- A pixel inside the storage whose index the palette does not have. -/
def Refuses (frame : OwnedIndexedFrame) (row column : Nat) : Prop :=
  ∃ index, frame.storage[frame.offset row column]? = some index ∧
    frame.colors.length ≤ index.toNat

/-- One check of the scan reads outside, or says what the plain scan says. -/
theorem checkedIndex_cases (accepted : frame.view.isValid = true) (row column : Nat) :
    (frame.storage.length ≤ frame.offset row column ∧
        frame.checkedIndex (row * frame.stride) column = .error .outOfBounds) ∨
      (frame.offset row column < frame.storage.length ∧
        frame.checkedIndex (row * frame.stride) column =
          .ok ((frame.view.index column row).toNat < frame.view.palette.size)) := by
  have starts := toNat_start_add accepted row column
  rcases Nat.lt_or_ge (frame.offset row column) frame.storage.length with inside | outside
  · exact .inr ⟨inside, checkedIndex_of_lt starts inside⟩
  · exact .inl ⟨outside, checkedIndex_of_le starts outside⟩

theorem refuses_iff (accepted : frame.view.isValid = true) (row column : Nat) :
    frame.checkedIndex (row * frame.stride) column = .ok false ↔ frame.Refuses row column := by
  rcases checkedIndex_cases accepted row column with ⟨outside, fault⟩ | ⟨inside, plain⟩
  · rw [fault, Refuses, List.getElem?_eq_none outside]
    simp
  · rw [plain, Refuses, List.getElem?_eq_getElem inside, index_view,
      List.getD_eq_getElem?_getD, List.getElem?_eq_getElem inside]
    simp [view, PaletteView.ofList]

/-- The scan refuses a row, or faults in it, at one of its pixels. -/
theorem exists_refuses_of_checkedRow (accepted : frame.view.isValid = true) {row : Nat}
    (rowInside : row < frame.height.toNat) (refused : frame.checkedRow row = .ok false) :
    ∃ column < frame.width.toNat, frame.Refuses row column := by
  rw [checkedRow_eq accepted rowInside] at refused
  obtain ⟨column, member, found⟩ := exists_refused_of_all refused
  exact ⟨column, List.mem_range.mp member, (refuses_iff accepted row column).mp found⟩

theorem exists_outside_of_checkedRow (accepted : frame.view.isValid = true) {row : Nat}
    (rowInside : row < frame.height.toNat) {fault : Fault}
    (stopped : frame.checkedRow row = .error fault) :
    fault = .outOfBounds ∧
      ∃ column < frame.width.toNat, frame.storage.length ≤ frame.offset row column := by
  rw [checkedRow_eq accepted rowInside] at stopped
  obtain ⟨column, member, found⟩ := exists_error_of_all stopped
  rcases checkedIndex_cases accepted row column with ⟨outside, error⟩ | ⟨-, plain⟩
  · rw [error] at found
    exact ⟨(Except.error.inj found).symm, column, List.mem_range.mp member, outside⟩
  · rw [plain] at found
    exact absurd found (by simp)

/-- A row that the scan finishes is judged as the plain scan judges it. -/
theorem checkedRow_agrees (accepted : frame.view.isValid = true) {row : Nat}
    (rowInside : row < frame.height.toNat) {verdict : Bool}
    (done : frame.checkedRow row = .ok verdict) :
    verdict = (List.range frame.width.toNat).all fun column =>
      (frame.view.index column row).toNat < frame.view.palette.size := by
  rw [checkedRow_eq accepted rowInside] at done
  refine eq_all_of_ok ?_ done
  intro column _ judged evaluated
  rcases checkedIndex_cases accepted row column with ⟨-, error⟩ | ⟨-, plain⟩
  · rw [error] at evaluated
    exact absurd evaluated (by simp)
  · rw [plain] at evaluated
    exact (Except.ok.inj evaluated).symm

/-- The scan says what the plain scan says, or reads outside the storage. -/
theorem checkedHasValidIndices_cases (frame : OwnedIndexedFrame) :
    frame.checkedHasValidIndices = .ok frame.view.hasValidIndices ∨
      frame.checkedHasValidIndices = .error .outOfBounds := by
  unfold checkedHasValidIndices IndexedFrameView.hasValidIndices
  rw [IndexedFrameView.checkedIsValid_eq, ok_bind]
  cases accepted : frame.view.isValid with
  | false => exact .inl rfl
  | true =>
      simp only [Bool.true_eq_false, if_false, Bool.true_and]
      cases scanned : all frame.checkedRow (List.range frame.height.toNat) with
      | ok verdict =>
          left
          congr 1
          refine eq_all_of_ok ?_ scanned
          intro row member judged evaluated
          exact checkedRow_agrees accepted (List.mem_range.mp member) evaluated
      | error fault =>
          obtain ⟨row, member, stopped⟩ := exists_error_of_all scanned
          obtain ⟨rfl, -⟩ :=
            exists_outside_of_checkedRow accepted (List.mem_range.mp member) stopped
          exact .inr rfl

/-- Rows and columns of an accepted view are read in the order of their offsets. -/
theorem offset_le_of_lt (accepted : frame.view.isValid = true) {row later column : Nat}
    (before : row < later) (inside : column < frame.width.toNat) (other : Nat) :
    frame.offset row column ≤ frame.offset later other := by
  have rowLe : frame.width ≤ frame.stride :=
    (IndexedFrameView.geometry_of_isValid accepted).row_le
  have next : (row + 1) * frame.stride.toNat ≤ later * frame.stride.toNat :=
    Nat.mul_le_mul_right _ before
  rw [Nat.add_mul, Nat.one_mul] at next
  unfold offset
  omega

/-- The storage is long enough for the declared geometry. -/
def LongEnough (frame : OwnedIndexedFrame) : Prop :=
  (frame.height - 1) * frame.stride + frame.width ≤ frame.storage.length

instance (frame : OwnedIndexedFrame) : Decidable frame.LongEnough := by
  unfold LongEnough
  infer_instance

/-- The scan ends before it leaves the storage. -/
def ScanStaysInside (frame : OwnedIndexedFrame) : Prop :=
  frame.view.isValid = false ∨ frame.LongEnough ∨
    ∃ row < frame.height.toNat, ∃ column < frame.width.toNat, frame.Refuses row column

/-- The last pixel of an accepted view. -/
theorem offset_last (accepted : frame.view.isValid = true) :
    (frame.offset (frame.height.toNat - 1) (frame.width.toNat - 1) : Int) + 1 =
      (frame.height - 1) * frame.stride + frame.width := by
  have geometry := IndexedFrameView.geometry_of_isValid accepted
  have widthPos : 0 < frame.width := geometry.width_pos
  have heightPos : 0 < frame.height := geometry.height_pos
  have rowLe : frame.width ≤ frame.stride := geometry.row_le
  have rows : ((frame.height.toNat - 1 : Nat) : Int) = frame.height - 1 := by omega
  have stride : (frame.stride.toNat : Int) = frame.stride := by omega
  unfold offset
  rw [Nat.cast_add, Nat.cast_mul, rows, stride]
  omega

theorem offset_lt_of_longEnough (accepted : frame.view.isValid = true) (enough : frame.LongEnough)
    {row column : Nat} (rowInside : row < frame.height.toNat)
    (columnInside : column < frame.width.toNat) :
    frame.offset row column < frame.storage.length := by
  have last := offset_last accepted
  unfold LongEnough at enough
  have below : frame.offset row column ≤
      frame.offset (frame.height.toNat - 1) (frame.width.toNat - 1) := by
    rcases Nat.lt_or_ge row (frame.height.toNat - 1) with earlier | final
    · exact offset_le_of_lt accepted earlier columnInside _
    · have same : row = frame.height.toNat - 1 := by omega
      unfold offset
      rw [same]
      omega
  omega

/-- A row of a storage that is long enough is scanned to its end. -/
theorem checkedRow_of_longEnough (accepted : frame.view.isValid = true)
    (enough : frame.LongEnough) {row : Nat} (rowInside : row < frame.height.toNat) :
    frame.checkedRow row = .ok ((List.range frame.width.toNat).all fun column =>
      (frame.view.index column row).toNat < frame.view.palette.size) := by
  rw [checkedRow_eq accepted rowInside]
  refine all_eq ?_
  intro column member
  exact checkedIndex_of_lt (toNat_start_add accepted row column)
    (offset_lt_of_longEnough accepted enough rowInside (List.mem_range.mp member))

/-- A refused pixel inside the storage ends its row, and the scan. -/
theorem checkedRow_of_refuses (accepted : frame.view.isValid = true) {row column : Nat}
    (rowInside : row < frame.height.toNat) (columnInside : column < frame.width.toNat)
    (refuses : frame.Refuses row column) : frame.checkedRow row = .ok false := by
  rw [checkedRow_eq accepted rowInside]
  refine all_eq_false_of_refused ?_ (List.mem_range.mpr columnInside)
    ((refuses_iff accepted row column).mpr refuses)
  refine List.pairwise_lt_range.imp ?_
  intro earlier later before fault stopped
  rcases checkedIndex_cases accepted row earlier with ⟨outside, -⟩ | ⟨-, plain⟩
  · have past : frame.storage.length ≤ frame.offset row later := by
      unfold offset at outside ⊢
      omega
    rw [checkedIndex_of_le (toNat_start_add accepted row later) past]
    simp
  · rw [plain] at stopped
    exact absurd stopped (by simp)

theorem scan_of_refuses (accepted : frame.view.isValid = true) {row column : Nat}
    (rowInside : row < frame.height.toNat) (columnInside : column < frame.width.toNat)
    (refuses : frame.Refuses row column) :
    all frame.checkedRow (List.range frame.height.toNat) = .ok false := by
  refine all_eq_false_of_refused ?_ (List.mem_range.mpr rowInside)
    (checkedRow_of_refuses accepted rowInside columnInside refuses)
  refine List.pairwise_lt_range.imp_of_mem ?_
  intro earlier later earlierMember laterMember before fault stopped refused
  obtain ⟨-, first, firstInside, outside⟩ :=
    exists_outside_of_checkedRow accepted (List.mem_range.mp earlierMember) stopped
  obtain ⟨second, -, index, found, -⟩ :=
    exists_refuses_of_checkedRow accepted (List.mem_range.mp laterMember) refused
  obtain ⟨inside, -⟩ := List.getElem?_eq_some_iff.mp found
  have order := offset_le_of_lt accepted before firstInside second
  omega

/-- A scan that accepts every pixel has read the last one. -/
theorem longEnough_of_scan (accepted : frame.view.isValid = true)
    (finished : all frame.checkedRow (List.range frame.height.toNat) = .ok true) :
    frame.LongEnough := by
  have geometry := IndexedFrameView.geometry_of_isValid accepted
  have widthPos : 0 < frame.width := geometry.width_pos
  have heightPos : 0 < frame.height := geometry.height_pos
  have rowInside : frame.height.toNat - 1 < frame.height.toNat := by omega
  have row := forall_of_all finished _ (List.mem_range.mpr rowInside)
  rw [checkedRow_eq accepted rowInside] at row
  have last := forall_of_all row (frame.width.toNat - 1) (List.mem_range.mpr (by omega))
  rcases checkedIndex_cases accepted (frame.height.toNat - 1) (frame.width.toNat - 1) with
    ⟨-, fault⟩ | ⟨inside, -⟩
  · rw [fault] at last
    exact absurd last (by simp)
  · have place := offset_last accepted
    unfold LongEnough
    omega

/-- Exactly the scans that end before they leave the storage are without faults. -/
theorem checkedHasValidIndices_eq_iff (frame : OwnedIndexedFrame) :
    frame.checkedHasValidIndices = .ok frame.view.hasValidIndices ↔ frame.ScanStaysInside := by
  cases accepted : frame.view.isValid with
  | false =>
      refine ⟨fun _ => .inl accepted, fun _ => ?_⟩
      unfold checkedHasValidIndices IndexedFrameView.hasValidIndices
      rw [IndexedFrameView.checkedIsValid_eq, ok_bind, accepted]
      rfl
  | true =>
      have scan : frame.checkedHasValidIndices =
          all frame.checkedRow (List.range frame.height.toNat) := by
        unfold checkedHasValidIndices
        rw [IndexedFrameView.checkedIsValid_eq, ok_bind, accepted]
        rfl
      constructor
      · intro finished
        rw [scan] at finished
        right
        cases verdict : frame.view.hasValidIndices with
        | false =>
            right
            rw [verdict] at finished
            obtain ⟨row, member, refused⟩ := exists_refused_of_all finished
            have rowInside := List.mem_range.mp member
            exact ⟨row, rowInside, exists_refuses_of_checkedRow accepted rowInside refused⟩
        | true =>
            left
            rw [verdict] at finished
            exact longEnough_of_scan accepted finished
      · rintro (invalid | enough | ⟨row, rowInside, column, columnInside, refuses⟩)
        · rw [accepted] at invalid
          exact absurd invalid (by simp)
        · have rows : all frame.checkedRow (List.range frame.height.toNat) = .ok _ :=
            all_eq fun row member =>
              checkedRow_of_longEnough accepted enough (List.mem_range.mp member)
          rw [scan, rows]
          unfold IndexedFrameView.hasValidIndices
          rw [accepted, Bool.true_and]
          rfl
        · have ended := scan_of_refuses accepted rowInside columnInside refuses
          rw [← scan] at ended
          rcases checkedHasValidIndices_cases frame with same | fault
          · exact same
          · rw [fault] at ended
            exact absurd ended (by simp)

/-- The verdict on a scan without faults, and the size check after it. -/
theorem checkedIsValid_of_scan (typed : ptrdiffRange.Holds frame.stride)
    (scanned : frame.checkedHasValidIndices = .ok frame.view.hasValidIndices) :
    frame.checkedIsValid = .ok frame.isValid := by
  unfold checkedIsValid isValid
  rw [scanned, ok_bind]
  cases valid : frame.view.hasValidIndices with
  | false => rfl
  | true =>
      have accepted := IndexedFrameView.isValid_of_hasValidIndices valid
      obtain ⟨ordered, row, extent⟩ := IndexedFrameView.layout_of_isValid accepted
      have geometry := IndexedFrameView.geometry_of_isValid accepted
      have sides := sides_le_of_area_le geometry.width_pos geometry.height_pos geometry.area_le
      have single : frame.view.layout.rowBytes = frame.width := mul_one _
      have fits := checkedStorageFits_eq ordered sides.2 typed.2 extent frame.storage.length
      unfold Layout.extent at fits
      rw [single] at fits row
      have width : sizeRange.Holds frame.width :=
        sizeRange_holds geometry.width_pos.le (row.trans ptrdiffMax_le_sizeMax)
      simp only [Bool.true_eq_false, Bool.not_true, Bool.false_eq_true, if_false]
      rw [Range.eval_bind width]
      exact fits

/-- The check never leaves a type: it is the plain one, or reads outside the storage. -/
theorem checkedIsValid_cases (typed : ptrdiffRange.Holds frame.stride) :
    frame.checkedIsValid = .ok frame.isValid ∨ frame.checkedIsValid = .error .outOfBounds := by
  rcases checkedHasValidIndices_cases frame with scanned | fault
  · exact .inl (checkedIsValid_of_scan typed scanned)
  · right
    unfold checkedIsValid
    rw [fault]
    rfl

/-- An accepted frame has a storage of the extent of its layout. -/
theorem longEnough_of_isValid (valid : frame.isValid = true) : frame.LongEnough := by
  unfold isValid at valid
  split_ifs at valid
  simp only [Bool.and_eq_true, decide_eq_true_eq] at valid
  exact valid.2

/-- Each index of an accepted frame is in its storage and in its palette. -/
theorem index_of_isValid (valid : frame.isValid = true) {row column : Nat}
    (rowInside : row < frame.height.toNat) (columnInside : column < frame.width.toNat) :
    ∃ index, frame.storage[frame.offset row column]? = some index ∧
      index.toNat < frame.colors.length := by
  have indices := hasValidIndices_view valid
  have accepted := IndexedFrameView.isValid_of_hasValidIndices indices
  have inside := offset_lt_of_longEnough accepted (longEnough_of_isValid valid) rowInside
    columnInside
  have listed : (frame.view.index column row).toNat < frame.colors.length :=
    IndexedFrameView.index_lt indices columnInside rowInside
  rw [index_view, List.getD_eq_getElem?_getD, List.getElem?_eq_getElem inside] at listed
  exact ⟨_, List.getElem?_eq_getElem inside, listed⟩

/-- What an accepted frame promises to whoever reads it. -/
structure SafeToRead (frame : OwnedIndexedFrame) : Prop where
  /-- It was accepted without a fault. -/
  unfaulted : frame.checkedIsValid = .ok true
  /-- Each access lies in the storage. -/
  accesses : frame.view.layout.SafeToRead frame.storage.length frame.metadata.damage.rects
  /-- Each index is in the palette. -/
  indices : ∀ x y : Nat, x < frame.width.toNat → y < frame.height.toNat →
    ∃ index, frame.storage[frame.offset y x]? = some index ∧ index.toNat < frame.colors.length

theorem safeToRead (typed : ptrdiffRange.Holds frame.stride) (valid : frame.isValid = true) :
    frame.SafeToRead := by
  have accepted := IndexedFrameView.isValid_of_hasValidIndices (hasValidIndices_view valid)
  obtain ⟨ordered, -, -⟩ := IndexedFrameView.layout_of_isValid accepted
  have geometry := IndexedFrameView.geometry_of_isValid accepted
  have single : frame.view.layout.rowBytes = frame.width := mul_one _
  have enough : frame.view.layout.extent ≤ frame.storage.length := by
    unfold Layout.extent
    rw [single]
    exact longEnough_of_isValid valid
  have scanned := (checkedHasValidIndices_eq_iff frame).mpr
    (.inr (.inl (longEnough_of_isValid valid)))
  exact {
    unfaulted := by rw [checkedIsValid_of_scan typed scanned, valid]
    accesses := ordered.safeToRead enough
      (DamageView.inside_of_isValidFor geometry.damage_valid)
    indices := fun x y columnInside rowInside => index_of_isValid valid rowInside columnInside }

end OwnedIndexedFrame

/-- The check of an owned frame never leaves the type of an expression, and a frame it accepts
is safe to read. -/
theorem owned_frames_safe_to_read :
    (∀ frame : OwnedFrame, ptrdiffRange.Holds frame.stride →
      frame.checkedIsValid ≠ .error .outOfRange ∧ (frame.isValid = true → frame.SafeToRead)) ∧
    (∀ frame : OwnedIndexedFrame, ptrdiffRange.Holds frame.stride →
      frame.checkedIsValid ≠ .error .outOfRange ∧ (frame.isValid = true → frame.SafeToRead)) := by
  constructor
  · intro frame typed
    refine ⟨?_, OwnedFrame.safeToRead typed⟩
    rw [OwnedFrame.checkedIsValid_eq typed]
    simp
  · intro frame typed
    refine ⟨?_, OwnedIndexedFrame.safeToRead typed⟩
    rcases OwnedIndexedFrame.checkedIsValid_cases typed with plain | fault
    · rw [plain]
      simp
    · rw [fault]
      simp

/-- A packed frame of two rows with padding between them, and a damaged pixel. -/
def OwnedFrame.padded : OwnedFrame :=
  make (List.replicate 13 200) false 2 2 7 .rgb24 { damage := DamageView.ofList [⟨1, 1, 1, 1⟩] true }

/-- An indexed frame of two rows. -/
def OwnedIndexedFrame.padded : OwnedIndexedFrame :=
  make [0, 1, 1, 9, 1, 0, 1] false [⟨0, 0, 0⟩, ⟨255, 255, 255⟩] 3 2 4
    { damage := DamageView.ofList [⟨0, 0, 3, 1⟩] true }

theorem owned_frames_safe_to_read_padded :
    OwnedFrame.padded.SafeToRead ∧ OwnedIndexedFrame.padded.SafeToRead :=
  ⟨(owned_frames_safe_to_read.1 OwnedFrame.padded (by decide)).2 (by decide +kernel),
    (owned_frames_safe_to_read.2 OwnedIndexedFrame.padded (by decide)).2 (by decide +kernel)⟩

/-! ### What the check reads -/

/-- The storage is long enough for the declared geometry. -/
def OwnedFrame.LongEnough (frame : OwnedFrame) : Prop :=
  (frame.height - 1) * frame.stride + frame.width * bytesPerPixel frame.format ≤
    frame.storage.length

/-- The check reads the storage only, and refuses one that is too short. -/
structure OwnedFrame.ValidatesInside (frame : OwnedFrame) : Prop where
  inside : frame.checkedIsValid ≠ .error .outOfBounds
  short : ¬ frame.LongEnough → frame.checkedIsValid = .ok false

@[inherit_doc OwnedFrame.ValidatesInside]
structure OwnedIndexedFrame.ValidatesInside (frame : OwnedIndexedFrame) : Prop where
  inside : frame.checkedIsValid ≠ .error .outOfBounds
  short : ¬ frame.LongEnough → frame.checkedIsValid = .ok false

theorem OwnedFrame.validatesInside {frame : OwnedFrame}
    (typed : ptrdiffRange.Holds frame.stride) : frame.ValidatesInside where
  inside := by
    rw [checkedIsValid_eq typed]
    simp
  short := by
    intro short
    rw [checkedIsValid_eq typed]
    cases valid : frame.isValid with
    | false => rfl
    | true => exact absurd (extent_le_of_isValid valid) short

/-- A packed frame is validated inside its storage. An indexed one is exactly when the scan of
its indices ends before it leaves the storage. -/
theorem validatesInside_iff {packed : OwnedFrame} {indexed : OwnedIndexedFrame}
    (packedTyped : ptrdiffRange.Holds packed.stride)
    (indexedTyped : ptrdiffRange.Holds indexed.stride) :
    packed.ValidatesInside ∧ (indexed.ValidatesInside ↔ indexed.ScanStaysInside) := by
  refine ⟨OwnedFrame.validatesInside packedTyped, ?_⟩
  constructor
  · intro validates
    rcases OwnedIndexedFrame.checkedHasValidIndices_cases indexed with scanned | fault
    · exact (OwnedIndexedFrame.checkedHasValidIndices_eq_iff indexed).mp scanned
    · refine absurd ?_ validates.inside
      unfold OwnedIndexedFrame.checkedIsValid
      rw [fault]
      rfl
  · intro stays
    have scanned := (OwnedIndexedFrame.checkedHasValidIndices_eq_iff indexed).mpr stays
    have plain := OwnedIndexedFrame.checkedIsValid_of_scan indexedTyped scanned
    refine ⟨by rw [plain]; simp, fun short => ?_⟩
    rw [plain]
    cases valid : indexed.isValid with
    | false => rfl
    | true => exact absurd (OwnedIndexedFrame.longEnough_of_isValid valid) short

theorem validatesInside_iff_padded :
    OwnedFrame.padded.ValidatesInside ∧
      (OwnedIndexedFrame.padded.ValidatesInside ↔ OwnedIndexedFrame.padded.ScanStaysInside) :=
  validatesInside_iff (by decide) (by decide)

/-- One index for a row of two pixels. -/
def OwnedIndexedFrame.short : OwnedIndexedFrame := make [0] false [⟨0, 0, 0⟩] 2 1 2 {}

/-- The scan of a short storage reads past its end. -/
theorem not_validatesInside_short :
    ptrdiffRange.Holds OwnedIndexedFrame.short.stride ∧
      ¬ OwnedIndexedFrame.short.ValidatesInside :=
  ⟨by decide, fun validates => validates.inside (by decide +kernel)⟩

-- An empty storage that kept its buffer lends a view with data, and is scanned as well.
example : (OwnedIndexedFrame.make [] true [⟨0, 0, 0⟩] 2 1 2 {}).checkedIsValid =
    .error .outOfBounds := by
  decide +kernel

end Rasterm
