import Rasterm.Damage.Tiles
import Mathlib.Data.List.Induction

/-!
Contract: `compareAndUpdate` as a whole: against the frame the tracker holds a copy
of, it asks for the full frame or reports the differing tiles.

Owns the copy as a relation to a frame, the history of comparisons and resets, and
exactness at tile granularity after any history.
-/

set_option autoImplicit false

namespace Rasterm

open Rows

namespace DamageTracker

variable {host : Host} {tracker : DamageTracker} {frame : Frame}

/-! ### The copy -/

/-- The tracker holds a copy of a frame. -/
structure Holds (tracker : DamageTracker) (last : Frame) : Prop where
  bytes : tracker.previousFrame = packRows last.bytes last.stride.toNat
    (last.width.toNat * last.bytesPerPixel) last.height.toNat
  palette : tracker.previousPalette = last.paletteEntries
  width : tracker.previousWidth = last.width
  height : tracker.previousHeight = last.height
  bytesPerPixel : tracker.previousBytesPerPixel = last.bytesPerPixel
  formatTag : tracker.previousFormatTag = last.formatTag

theorem holds_copyFrame (tracker : DamageTracker) (frame : Frame) :
    (tracker.copyFrame frame).Holds frame := ⟨rfl, rfl, rfl, rfl, rfl, rfl⟩

/-- Two frames of one shape have the same bytes in a pixel. -/
def SameBytes (last frame : Frame) (x y : Nat) : Prop :=
  ∀ offset < frame.bytesPerPixel,
    frame.bytes (y * frame.stride.toNat + x * frame.bytesPerPixel + offset) =
      last.bytes (y * last.stride.toNat + x * last.bytesPerPixel + offset)

/-- Same size, representation and palette. -/
structure SameShape (last frame : Frame) : Prop where
  width : frame.width = last.width
  height : frame.height = last.height
  bytesPerPixel : frame.bytesPerPixel = last.bytesPerPixel
  formatTag : frame.formatTag = last.formatTag
  palette : frame.paletteEntries = last.paletteEntries

theorem Holds.hasSameShape_iff {last : Frame} (holds : tracker.Holds last) :
    tracker.hasSameShape frame = true ↔ SameShape last frame := by
  simp only [hasSameShape, Bool.and_eq_true, beq_iff_eq, holds.bytes, holds.palette, holds.width,
    holds.height, holds.bytesPerPixel, holds.formatTag, packRows, length_layRows]
  constructor
  · rintro ⟨⟨⟨⟨⟨width, height⟩, bytesPerPixel⟩, formatTag⟩, -⟩, palette⟩
    exact ⟨width, height, bytesPerPixel, formatTag, palette.symm⟩
  · intro shape
    refine ⟨⟨⟨⟨⟨shape.width, shape.height⟩, shape.bytesPerPixel⟩, shape.formatTag⟩, ?_⟩,
      shape.palette.symm⟩
    rw [shape.width, shape.height, shape.bytesPerPixel]
    ring

theorem Holds.sameBytes_iff {last : Frame} (holds : tracker.Holds last)
    (shape : SameShape last frame) {x y : Nat} (columnInside : x < frame.width.toNat)
    (rowInside : y < frame.height.toNat) :
    tracker.PixelUnchanged frame x y ↔ SameBytes last frame x y := by
  have copied : ∀ offset < frame.bytesPerPixel,
      tracker.previousFrame.getD ((y * frame.width.toNat + x) * frame.bytesPerPixel + offset) 0 =
        last.bytes (y * last.stride.toNat + x * last.bytesPerPixel + offset) := by
    intro offset inside
    rw [holds.bytes]
    have column : x * frame.bytesPerPixel + offset < frame.width.toNat * frame.bytesPerPixel := by
      calc x * frame.bytesPerPixel + offset
          < x * frame.bytesPerPixel + frame.bytesPerPixel := by omega
        _ = (x + 1) * frame.bytesPerPixel := by ring
        _ ≤ frame.width.toNat * frame.bytesPerPixel := Nat.mul_le_mul_right _ columnInside
    rw [shape.width, shape.bytesPerPixel] at column
    rw [shape.height] at rowInside
    have read := getD_layRows_append
      (fun column row => last.bytes (row * last.stride.toNat + column))
      (last.width.toNat * last.bytesPerPixel) last.height.toNat y (x * last.bytesPerPixel + offset)
      [] 0 rowInside column
    rw [List.append_nil] at read
    rw [shape.width, shape.bytesPerPixel,
      show (y * last.width.toNat + x) * last.bytesPerPixel + offset =
        y * (last.width.toNat * last.bytesPerPixel) + (x * last.bytesPerPixel + offset) by ring]
    refine read.trans ?_
    rw [Nat.add_assoc]
  constructor
  · intro unchanged offset inside
    rw [unchanged offset inside, copied offset inside]
  · intro same offset inside
    rw [same offset inside, copied offset inside]

/-! ### What a comparison reports -/

/-- Tiles are made of whole cells. -/
structure TilesCells (tracker : DamageTracker) (cells : TerminalCellPixels) : Prop where
  width_pos : 0 < tracker.options.tileWidth
  height_pos : 0 < tracker.options.tileHeight
  columns : cells.cellWidth ∣ tracker.options.tileWidth
  rows : cells.cellHeight ∣ tracker.options.tileHeight

/-- What a comparison that does not ask for the full frame says. -/
structure Reports (cells : TerminalCellPixels) (tracker : DamageTracker) (frame : Frame)
    (result : DamageResult) : Prop where
  sameShape : tracker.hasSameShape frame = true
  placed : AllPlaced cells frame.width frame.height result.regions
  unchanged : ∀ x < frame.width.toNat, ∀ y < frame.height.toNat,
    ¬ Covers result.regions x y → tracker.PixelUnchanged frame x y
  nothing : result.hasChanges = false → result.regions = []

variable {cells : TerminalCellPixels}

theorem TilesCells.tiling (tilesCells : tracker.TilesCells cells) : tracker.Tiling :=
  ⟨tilesCells.width_pos, tilesCells.height_pos⟩

theorem TilesCells.allPlaced (tilesCells : tracker.TilesCells cells) {regions : List DamageRegion}
    (onTiles : ∀ region ∈ regions, OnTiles tracker frame region) :
    AllPlaced cells frame.width frame.height regions := by
  intro region member
  have found := onTiles region member
  exact ⟨found.inside, tilesCells.columns.trans found.left, tilesCells.rows.trans found.top⟩

/-- Whatever a comparison reports is made of whole tiles. -/
theorem onTiles_compareAndUpdate (host : Host) (tiling : tracker.Tiling)
    (valid : frame.isValid = true) :
    ∀ region ∈ (tracker.compareAndUpdate host frame).2.regions, OnTiles tracker frame region := by
  have scanned := @rowsScanned_scanTiles host tracker frame tiling (Frame.geometry_of_isValid valid)
  unfold compareAndUpdate
  simp only [valid, Bool.not_true, Bool.false_eq_true, if_false]
  split_ifs
  · exact fun _ member => absurd member List.not_mem_nil
  · exact fun _ member => absurd member List.not_mem_nil
  · exact fun _ member => absurd member List.not_mem_nil
  · exact (repartitions_mergeStrips _ _).onTiles scanned.onTiles

theorem compareAndUpdate_spec (host : Host) (valid : frame.isValid = true)
    (tiling : tracker.TilesCells cells) :
    (tracker.compareAndUpdate host frame).1 = tracker.copyFrame frame ∧
      ((tracker.compareAndUpdate host frame).2.isFullFrame = true ∧
          (tracker.compareAndUpdate host frame).2.hasChanges = true ∨
        (tracker.compareAndUpdate host frame).2.isFullFrame = false ∧
          Reports cells tracker frame (tracker.compareAndUpdate host frame).2) := by
  have geometry := Frame.geometry_of_isValid valid
  have scanned := @rowsScanned_scanTiles host tracker frame tiling.tiling geometry
  have outside := @unchanged_of_scanTiles host tracker frame tiling.tiling geometry
  have merged := @repartitions_mergeStrips tracker frame
    (tracker.scanTiles host frame).regions.length (tracker.scanTiles host frame).regions
  unfold compareAndUpdate
  rw [valid, Bool.not_true, if_neg Bool.false_ne_true]
  by_cases same : tracker.hasSameShape frame = true
  · rw [same, Bool.not_true, if_neg Bool.false_ne_true]
    simp only
    by_cases empty : (tracker.scanTiles host frame).regions.isEmpty = true
    · rw [if_pos empty]
      refine ⟨rfl, Or.inr ⟨rfl, same, (fun _ member => absurd member List.not_mem_nil), ?_,
        fun _ => rfl⟩⟩
      intro x columnInside y rowInside _
      apply outside columnInside rowInside
      rw [List.isEmpty_iff.mp empty]
      exact not_covers_nil _ _
    · rw [if_neg empty]
      split
      · exact ⟨rfl, Or.inl ⟨rfl, rfl⟩⟩
      · refine ⟨rfl, Or.inr ⟨rfl, same, tiling.allPlaced (merged.onTiles scanned.onTiles), ?_,
          fun none => by cases none⟩⟩
        intro x columnInside y rowInside uncovered
        apply outside columnInside rowInside
        rwa [← merged.covers scanned.onTiles]
  · rw [Bool.not_eq_true] at same
    rw [same, Bool.not_false, if_pos rfl]
    exact ⟨rfl, Or.inl ⟨rfl, rfl⟩⟩

/-! ### Exactness over a history -/

/-- What a caller does with a tracker. -/
inductive Call where
  | compare (frame : Frame)
  | reset

def perform (host : Host) (tracker : DamageTracker) : Call → DamageTracker
  | .compare frame => (tracker.compareAndUpdate host frame).1
  | .reset => tracker.reset

/-- The frame of the last comparison since the last reset; an invalid frame is not compared. -/
def lastCompared (calls : List Call) : Option Frame :=
  calls.foldl (fun last call =>
    match call with
    | .compare frame => if frame.isValid then some frame else last
    | .reset => none) none

/-- The active bytes of all rows agree, whatever the padding holds. -/
def SameRows (last frame : Frame) : Prop :=
  ∀ row < frame.height.toNat, ∀ index < frame.width.toNat * frame.bytesPerPixel,
    frame.bytes (row * frame.stride.toNat + index) = last.bytes (row * last.stride.toNat + index)

/-- The tile contains a differing byte. -/
def DifferingTile (tracker : DamageTracker) (last frame : Frame) (tileX tileY : Nat) : Prop :=
  ∃ x < frame.width.toNat, ∃ y < frame.height.toNat,
    (tile tracker frame tileX tileY).Contains x y ∧ ¬ SameBytes last frame x y

instance (last frame : Frame) (x y : Nat) : Decidable (SameBytes last frame x y) := by
  unfold SameBytes
  infer_instance

instance (tracker : DamageTracker) (last frame : Frame) (tileX tileY : Nat) :
    Decidable (DifferingTile tracker last frame tileX tileY) := by
  unfold DifferingTile
  infer_instance

/-- The area of all tiles that contain a differing byte. -/
def differingArea (tracker : DamageTracker) (last frame : Frame) : Nat :=
  ((List.range (tracker.tilesY frame)).map fun tileY =>
    ((List.range (tracker.tilesX frame)).map fun tileX =>
      if DifferingTile tracker last frame tileX tileY then
        (tile tracker frame tileX tileY).area.toNat
      else 0).sum).sum

/-- Disjoint rectangles of whole tiles that cover exactly the tiles with a differing byte. -/
structure OfDifferingTiles (tracker : DamageTracker) (last frame : Frame)
    (regions : List DamageRegion) : Prop where
  onTiles : ∀ region ∈ regions, OnTiles tracker frame region
  apart : regions.Pairwise DamageRect.Apart
  exact : ∀ x y, Covers regions x y ↔
    ∃ tileY < tracker.tilesY frame, ∃ tileX < tracker.tilesX frame,
      DifferingTile tracker last frame tileX tileY ∧
        (tile tracker frame tileX tileY).Contains x y

/-- Exactness of one comparison against a frame of the same shape. -/
structure ReportsExactly (host : Host) (tracker : DamageTracker) (last frame : Frame)
    (result : DamageResult) : Prop where
  unchanged : result.hasChanges = false ↔ SameRows last frame
  nothing : result.hasChanges = false → result.isFullFrame = false ∧ result.regions = []
  promoted : result.hasChanges = true →
    (result.isFullFrame = true ↔
      host.changedRatioReaches (differingArea tracker last frame)
        (frame.width.toNat * frame.height.toNat) tracker.options.fullFrameThreshold = true)
  scanned : OfDifferingTiles tracker last frame (tracker.scanTiles host frame).regions
  merged : result.hasChanges = true → result.isFullFrame = false →
    OfDifferingTiles tracker last frame result.regions

/-- What the tracker knows after a history. -/
def Knows (tracker : DamageTracker) : Option Frame → Prop
  | none => tracker.previousWidth = 0
  | some last => tracker.Holds last

theorem compareAndUpdate_of_invalid (host : Host) (invalid : frame.isValid = false) :
    tracker.compareAndUpdate host frame =
      (tracker, { isFullFrame := false, hasChanges := false }) := by
  simp [compareAndUpdate, invalid]

theorem compareAndUpdate_fst (host : Host) (valid : frame.isValid = true) :
    (tracker.compareAndUpdate host frame).1 = tracker.copyFrame frame := by
  simp only [compareAndUpdate, valid, Bool.not_true, Bool.false_eq_true, if_false]
  split_ifs <;> rfl

theorem compareAndUpdate_of_other_shape (host : Host) (valid : frame.isValid = true)
    (other : tracker.hasSameShape frame = false) :
    (tracker.compareAndUpdate host frame).2 = {} := by
  simp [compareAndUpdate, valid, other]

@[simp] theorem options_perform (host : Host) (tracker : DamageTracker) (call : Call) :
    (tracker.perform host call).options = tracker.options := by
  cases call with
  | compare frame => exact options_compareAndUpdate host tracker frame
  | reset => rfl

theorem options_performAll (host : Host) (tracker : DamageTracker) (calls : List Call) :
    (calls.foldl (perform host) tracker).options = tracker.options := by
  induction calls generalizing tracker with
  | nil => rfl
  | cons call calls inductionHypothesis =>
      rw [List.foldl_cons, inductionHypothesis, options_perform]

/-- After any history the tracker holds the frame compared last. -/
theorem knows_performAll (host : Host) (options : DamageOptions) (calls : List Call) :
    (calls.foldl (perform host) (create options)).Knows (lastCompared calls) := by
  induction calls using List.reverseRecOn with
  | nil => rfl
  | append_singleton calls call inductionHypothesis =>
      rw [List.foldl_append, lastCompared, List.foldl_append, ← lastCompared]
      simp only [List.foldl_cons, List.foldl_nil]
      cases call with
      | compare frame =>
          cases valid : frame.isValid with
          | false =>
              simp only [perform, compareAndUpdate_of_invalid host valid, valid]
              exact inductionHypothesis
          | true =>
              simp only [perform, compareAndUpdate_fst host valid, valid, if_true]
              exact holds_copyFrame _ frame
      | reset => rfl

theorem tiling_create (options : DamageOptions) : (create options).Tiling :=
  ⟨lt_of_lt_of_le Int.one_pos (le_max_left _ _), lt_of_lt_of_le Int.one_pos (le_max_left _ _)⟩

section Comparing

variable {last : Frame}

theorem Holds.tileDiffers_iff (holds : tracker.Holds last) (shape : SameShape last frame)
    (tileX tileY : Nat) :
    tileDiffers host tracker frame tileX tileY = true ↔
      DifferingTile tracker last frame tileX tileY := by
  rw [tileDiffers, tileChanged_iff]
  simp only [DifferingTile, DamageRect.Contains, tile]
  constructor
  · rintro ⟨column, row, columnInside, rowInside, changed⟩
    have inWidth : column < frame.width.toNat := by omega
    have inHeight : row < frame.height.toNat := by omega
    refine ⟨column, inWidth, row, inHeight, by omega, ?_⟩
    rwa [← holds.sameBytes_iff shape inWidth inHeight]
  · rintro ⟨column, inWidth, row, inHeight, inTile, changed⟩
    refine ⟨column, row, by omega, by omega, ?_⟩
    rwa [holds.sameBytes_iff shape inWidth inHeight]

theorem Holds.changedArea_eq (holds : tracker.Holds last) (shape : SameShape last frame) :
    changedArea host tracker frame (tracker.tilesY frame) = differingArea tracker last frame := by
  simp only [changedArea, changedRowArea, changedTileArea, differingArea,
    holds.tileDiffers_iff shape]

theorem sameRows_iff (shape : SameShape last frame) :
    SameRows last frame ↔
      ∀ x < frame.width.toNat, ∀ y < frame.height.toNat, SameBytes last frame x y := by
  constructor
  · intro same x columnInside y rowInside offset inside
    have found := same y rowInside (x * frame.bytesPerPixel + offset) (by
      calc x * frame.bytesPerPixel + offset
          < x * frame.bytesPerPixel + frame.bytesPerPixel := by omega
        _ = (x + 1) * frame.bytesPerPixel := by ring
        _ ≤ frame.width.toNat * frame.bytesPerPixel := Nat.mul_le_mul_right _ columnInside)
    rwa [← shape.bytesPerPixel, Nat.add_assoc, Nat.add_assoc]
  · intro same row rowInside index inside
    have perPixel : 0 < frame.bytesPerPixel := Nat.pos_of_mul_pos_left (Nat.zero_lt_of_lt inside)
    have found := same (index / frame.bytesPerPixel) ((Nat.div_lt_iff_lt_mul perPixel).mpr inside)
      row rowInside (index % frame.bytesPerPixel) (Nat.mod_lt _ perPixel)
    rwa [← shape.bytesPerPixel, Nat.add_assoc, Nat.add_assoc, Nat.mul_comm (index / _),
      Nat.div_add_mod] at found

/-- The scan finds exactly the tiles with a differing byte. -/
theorem Holds.ofDifferingTiles_scanTiles (holds : tracker.Holds last)
    (shape : SameShape last frame) (tiling : tracker.Tiling) (geometry : frame.Geometry) :
    OfDifferingTiles tracker last frame (tracker.scanTiles host frame).regions := by
  have scanned := @rowsScanned_scanTiles host tracker frame tiling geometry
  refine ⟨scanned.onTiles, scanned.apart, ?_⟩
  intro x y
  rw [scanned.exact]
  simp only [holds.tileDiffers_iff shape]

theorem OfDifferingTiles.mergeStrips {regions : List DamageRegion}
    (found : OfDifferingTiles tracker last frame regions) (rounds : Nat) :
    OfDifferingTiles tracker last frame (mergeStrips rounds regions) := by
  have merged := @repartitions_mergeStrips tracker frame rounds regions
  refine ⟨merged.onTiles found.onTiles, merged.apart found.onTiles found.apart, ?_⟩
  intro x y
  rw [merged.covers found.onTiles, found.exact]

/-- No rectangle is found exactly when no byte differs. -/
theorem Holds.scanTiles_eq_nil_iff (holds : tracker.Holds last) (shape : SameShape last frame)
    (tiling : tracker.Tiling) (geometry : frame.Geometry) :
    (tracker.scanTiles host frame).regions = [] ↔ SameRows last frame := by
  have found := @Holds.ofDifferingTiles_scanTiles host tracker frame last holds shape tiling geometry
  rw [sameRows_iff shape]
  constructor
  · intro empty x columnInside y rowInside
    apply (holds.sameBytes_iff shape columnInside rowInside).mp
    apply @unchanged_of_scanTiles host tracker frame tiling geometry x y columnInside rowInside
    rw [empty]
    exact not_covers_nil _ _
  · intro same
    apply List.eq_nil_iff_forall_not_mem.mpr
    intro region member
    have inside := (found.onTiles region member).inside
    have width := inside.width_pos
    have height := inside.height_pos
    have corner : region.Contains region.x region.y := by
      simp only [DamageRect.Contains]
      omega
    rcases (found.exact _ _).mp ⟨region, member, corner⟩ with
      ⟨tileY, -, tileX, -, ⟨x, columnInside, y, rowInside, -, differs⟩, -⟩
    exact differs (same x columnInside y rowInside)

theorem Holds.reportsExactly (holds : tracker.Holds last) (shape : SameShape last frame)
    (tiling : tracker.Tiling) (valid : frame.isValid = true) :
    ReportsExactly host tracker last frame (tracker.compareAndUpdate host frame).2 := by
  have geometry := Frame.geometry_of_isValid valid
  have found := @Holds.ofDifferingTiles_scanTiles host tracker frame last holds shape tiling geometry
  have nothing := @Holds.scanTiles_eq_nil_iff host tracker frame last holds shape tiling geometry
  have area := (@rowsScanned_scanTiles host tracker frame tiling geometry).area
  rw [holds.changedArea_eq shape] at area
  have same := holds.hasSameShape_iff.mpr shape
  unfold compareAndUpdate
  simp only [valid, same, Bool.not_true, Bool.false_eq_true, if_false, area]
  by_cases empty : (tracker.scanTiles host frame).regions.isEmpty = true
  · simp only [if_pos empty]
    have equal := nothing.mp (List.isEmpty_iff.mp empty)
    exact ⟨⟨fun _ => equal, fun _ => rfl⟩, fun _ => ⟨rfl, rfl⟩, (fun changes => by cases changes),
      found, fun changes => by cases changes⟩
  · simp only [if_neg empty]
    have differs : ¬ SameRows last frame :=
      fun equal => empty (List.isEmpty_iff.mpr (nothing.mpr equal))
    split
    · rename_i reaches
      exact ⟨⟨(fun none => by cases none), fun equal => absurd equal differs⟩,
        (fun none => by cases none), fun _ => ⟨fun _ => reaches, fun _ => rfl⟩, found,
        fun _ full => by cases full⟩
    · rename_i reaches
      exact ⟨⟨(fun none => by cases none), fun equal => absurd equal differs⟩,
        (fun none => by cases none),
        fun _ => ⟨(fun full => by cases full), fun other => absurd other reaches⟩, found,
        fun _ _ => found.mergeStrips _⟩

end Comparing

/-- After any history of comparisons and resets, a comparison asks for the full frame when
there is nothing comparable, and otherwise reports exactly the tiles that differ. -/
theorem compareAndUpdate_exact (host : Host) (options : DamageOptions) (calls : List Call)
    (frame : Frame) (valid : frame.isValid = true) :
    let tracker := calls.foldl (perform host) (create options)
    let result := (tracker.compareAndUpdate host frame).2
    tracker.options = (create options).options ∧
      match lastCompared calls with
      | none => result.isFullFrame = true ∧ result.hasChanges = true
      | some last =>
          (¬ SameShape last frame → result.isFullFrame = true ∧ result.hasChanges = true) ∧
            (SameShape last frame → ReportsExactly host tracker last frame result) := by
  intro tracker result
  have kept : tracker.options = (create options).options := options_performAll host _ calls
  have knows : tracker.Knows (lastCompared calls) := knows_performAll host options calls
  have tiling : tracker.Tiling := by
    have created := tiling_create options
    constructor
    · rw [kept]
      exact created.width_pos
    · rw [kept]
      exact created.height_pos
  have fullWhenOther : tracker.hasSameShape frame = false →
      result.isFullFrame = true ∧ result.hasChanges = true := by
    intro other
    simp only [result, compareAndUpdate_of_other_shape host valid other, and_self]
  refine ⟨kept, ?_⟩
  cases found : lastCompared calls with
  | none =>
      rw [found] at knows
      apply fullWhenOther
      have width := (Frame.geometry_of_isValid valid).width_pos
      have nothing : tracker.previousWidth = 0 := knows
      have other : (frame.width == tracker.previousWidth) = false := by
        rw [nothing, beq_eq_false_iff_ne]
        omega
      simp only [hasSameShape, other, Bool.false_and]
  | some last =>
      rw [found] at knows
      have holds : tracker.Holds last := knows
      constructor
      · intro other
        apply fullWhenOther
        rwa [← Bool.not_eq_true, holds.hasSameShape_iff]
      · intro shape
        exact holds.reportsExactly shape tiling valid

/-- One index of the stripes changed, after a comparison with the stripes. -/
theorem compareAndUpdate_exact_stripes :
    let changed : Frame := .indexed { IndexedFrameView.stripes with
      indices := some fun offset => if offset = 12 then 1 else UInt8.ofNat (offset % 3) }
    let tracker := [Call.compare (.indexed .stripes)].foldl (perform Host.plain)
      (create { tileWidth := 3, tileHeight := 2 })
    ReportsExactly Host.plain tracker (.indexed .stripes) changed
        (tracker.compareAndUpdate Host.plain changed).2 ∧
      (tracker.compareAndUpdate Host.plain changed).2.regions = [⟨0, 2, 3, 2⟩] := by
  refine ⟨?_, by decide +kernel⟩
  have exact := (compareAndUpdate_exact Host.plain { tileWidth := 3, tileHeight := 2 }
    [.compare (.indexed .stripes)] (.indexed { IndexedFrameView.stripes with
      indices := some fun offset => if offset = 12 then 1 else UInt8.ofNat (offset % 3) })
    (by decide)).2
  exact exact.2 ⟨rfl, rfl, rfl, rfl, rfl⟩

end DamageTracker

end Rasterm
