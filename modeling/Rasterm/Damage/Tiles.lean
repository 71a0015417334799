import Rasterm.Damage.DamageTracker
import Rasterm.Damage.Regions

/-!
Contract: what the scan over the tiles finds: rectangles made of whole tiles, no two
sharing a pixel, that cover exactly the differing tiles.

Owns the invariants of the two loops, and the merge of strips, which covers the same
pixels with fewer rectangles.
-/

set_option autoImplicit false

namespace Rasterm

namespace DamageTracker

variable {host : Host} {tracker : DamageTracker} {frame : Frame}

/-! ### Changed pixels -/

/-- The bytes of a pixel are those of the copy. -/
def PixelUnchanged (tracker : DamageTracker) (frame : Frame) (x y : Nat) : Prop :=
  ∀ offset < frame.bytesPerPixel,
    frame.bytes (y * frame.stride.toNat + x * frame.bytesPerPixel + offset) =
      tracker.previousFrame.getD ((y * frame.width.toNat + x) * frame.bytesPerPixel + offset) 0

/-- A tile is reported as changed exactly when one of its pixels has changed. -/
theorem tileChanged_iff {x y tileWidth tileHeight : Nat} :
    tracker.tileChanged host frame x y tileWidth tileHeight = true ↔
      ∃ column row, (x ≤ column ∧ column < x + tileWidth) ∧ (y ≤ row ∧ row < y + tileHeight) ∧
        ¬ tracker.PixelUnchanged frame column row := by
  have shift : ∀ right down offset : Nat,
      (frame.bytes ((y + down) * frame.stride.toNat + x * frame.bytesPerPixel +
            (right * frame.bytesPerPixel + offset)) =
          tracker.previousFrame.getD (((y + down) * frame.width.toNat + x) * frame.bytesPerPixel +
            (right * frame.bytesPerPixel + offset)) 0) ↔
        frame.bytes ((y + down) * frame.stride.toNat + (x + right) * frame.bytesPerPixel +
            offset) =
          tracker.previousFrame.getD (((y + down) * frame.width.toNat + (x + right)) *
            frame.bytesPerPixel + offset) 0 := by
    intro right down offset
    rw [show (y + down) * frame.stride.toNat + x * frame.bytesPerPixel +
        (right * frame.bytesPerPixel + offset) = (y + down) * frame.stride.toNat +
          (x + right) * frame.bytesPerPixel + offset by ring,
      show ((y + down) * frame.width.toNat + x) * frame.bytesPerPixel +
        (right * frame.bytesPerPixel + offset) = ((y + down) * frame.width.toNat + (x + right)) *
          frame.bytesPerPixel + offset by ring]
  rw [← not_iff_not, Bool.not_eq_true]
  simp only [tileChanged, List.any_eq_false, List.mem_range, Bool.not_eq_true', Bool.not_eq_false,
    rowsEqual_iff, Memory.advance, not_exists, not_and, not_not]
  constructor
  · intro same column row columnInside rowInside offset inside
    rcases Nat.exists_eq_add_of_le columnInside.1 with ⟨right, rightEq⟩
    rcases Nat.exists_eq_add_of_le rowInside.1 with ⟨down, downEq⟩
    subst rightEq
    subst downEq
    apply (shift right down offset).mp
    apply same down (by omega)
    calc right * frame.bytesPerPixel + offset
        < right * frame.bytesPerPixel + frame.bytesPerPixel := by omega
      _ = (right + 1) * frame.bytesPerPixel := by ring
      _ ≤ tileWidth * frame.bytesPerPixel := Nat.mul_le_mul_right _ (by omega)
  · intro same down downInside index inside
    have perPixel : 0 < frame.bytesPerPixel := Nat.pos_of_mul_pos_left (Nat.zero_lt_of_lt inside)
    have right : index / frame.bytesPerPixel < tileWidth :=
      (Nat.div_lt_iff_lt_mul perPixel).mpr inside
    have unchanged := same (x + index / frame.bytesPerPixel) (y + down)
      ⟨Nat.le_add_right _ _, Nat.add_lt_add_left right x⟩
      ⟨Nat.le_add_right _ _, Nat.add_lt_add_left downInside y⟩
      (index % frame.bytesPerPixel) (Nat.mod_lt _ perPixel)
    have back := (shift (index / frame.bytesPerPixel) down (index % frame.bytesPerPixel)).mpr
      unchanged
    rwa [Nat.mul_comm (index / _), Nat.div_add_mod] at back

/-! ### Whole tiles -/

section Scanning

variable (host tracker frame)

/-- The pixels of one tile, cut off at the edge of the frame. -/
def tile (tileX tileY : Nat) : DamageRegion :=
  ⟨(tileX * tracker.options.tileWidth.toNat : Nat),
    (tileY * tracker.options.tileHeight.toNat : Nat),
    (min tracker.options.tileWidth.toNat
      (frame.width.toNat - tileX * tracker.options.tileWidth.toNat) : Nat),
    (min tracker.options.tileHeight.toNat
      (frame.height.toNat - tileY * tracker.options.tileHeight.toNat) : Nat)⟩

/-- The comparison of one tile in the loop. -/
def tileDiffers (tileX tileY : Nat) : Bool :=
  let y := tileY * tracker.options.tileHeight.toNat
  let x := tileX * tracker.options.tileWidth.toNat
  tracker.tileChanged host frame x y (min tracker.options.tileWidth.toNat (frame.width.toNat - x))
    (min tracker.options.tileHeight.toNat (frame.height.toNat - y))

/-- The area of a tile if it differs. -/
def changedTileArea (tileX tileY : Nat) : Nat :=
  if tileDiffers host tracker frame tileX tileY then
    (tile tracker frame tileX tileY).area.toNat
  else 0

/-- The area of the first differing tiles of a row of tiles. -/
def changedRowArea (tileY tiles : Nat) : Nat :=
  ((List.range tiles).map fun tileX => changedTileArea host tracker frame tileX tileY).sum

/-- The area of the differing tiles of the first rows of tiles. -/
def changedArea (rows : Nat) : Nat :=
  ((List.range rows).map fun tileY =>
    changedRowArea host tracker frame tileY (tracker.tilesX frame)).sum

/-- Inside the frame, beginning and ending on tile boundaries or the frame edge. -/
structure OnTiles (region : DamageRegion) : Prop where
  inside : region.Inside frame.width frame.height
  left : tracker.options.tileWidth ∣ region.x
  top : tracker.options.tileHeight ∣ region.y
  right : tracker.options.tileWidth ∣ region.x + region.width ∨
    region.x + region.width = frame.width
  bottom : tracker.options.tileHeight ∣ region.y + region.height ∨
    region.y + region.height = frame.height

end Scanning

/-- The tiles of a frame have a positive size. -/
structure Tiling (tracker : DamageTracker) : Prop where
  width_pos : 0 < tracker.options.tileWidth
  height_pos : 0 < tracker.options.tileHeight

theorem mul_lt_of_lt_tiles {extent tile index : Nat} (extentPos : 0 < extent)
    (inside : index < (extent - 1) / tile + 1) : index * tile < extent := by
  have bound : index * tile ≤ (extent - 1) / tile * tile := Nat.mul_le_mul_right _ (by omega)
  have whole := Nat.div_mul_le_self (extent - 1) tile
  omega

/-- A tile ends at a tile boundary or at the edge. -/
private theorem tile_end {extent : Int} {size index : Nat} (extentPos : 0 < extent)
    (before : index * size < extent.toNat) :
    (size : Int) ∣ (index * size : Nat) + (min size (extent.toNat - index * size) : Nat) ∨
      (index * size : Nat) + ((min size (extent.toNat - index * size) : Nat) : Int) = extent := by
  by_cases whole : size ≤ extent.toNat - index * size
  · left
    rw [Nat.min_eq_left whole]
    exact ⟨index + 1, by push_cast; ring⟩
  · right
    omega

theorem onTiles_tile (tiling : tracker.Tiling) (geometry : frame.Geometry) {tileX tileY : Nat}
    (columnInside : tileX < tracker.tilesX frame) (rowInside : tileY < tracker.tilesY frame) :
    OnTiles tracker frame (tile tracker frame tileX tileY) := by
  have widthPos := tiling.width_pos
  have heightPos := tiling.height_pos
  have frameWidth := geometry.width_pos
  have frameHeight := geometry.height_pos
  have column := mul_lt_of_lt_tiles (by omega) columnInside
  have row := mul_lt_of_lt_tiles (by omega) rowInside
  have right := tile_end frameWidth column
  have bottom := tile_end frameHeight row
  have tileWidth := Int.toNat_of_nonneg widthPos.le
  have tileHeight := Int.toNat_of_nonneg heightPos.le
  refine ⟨⟨?_, ?_, ?_, ?_, ?_, ?_⟩, ?_, ?_, ?_, ?_⟩
  · exact Int.natCast_nonneg _
  · exact Int.natCast_nonneg _
  · simp only [tile]
    omega
  · simp only [tile]
    omega
  · simp only [tile]
    omega
  · simp only [tile]
    omega
  · refine ⟨tileX, ?_⟩
    simp only [tile, Nat.cast_mul, tileWidth]
    ring
  · refine ⟨tileY, ?_⟩
    simp only [tile, Nat.cast_mul, tileHeight]
    ring
  · rwa [tileWidth] at right
  · rwa [tileHeight] at bottom


/-- A row of tiles scanned up to a column: its strips are exactly its differing tiles. -/
structure RowScanned (host : Host) (tracker : DamageTracker) (frame : Frame) (before : TileScan)
    (tileY tiles : Nat) (scan : TileScan) (strips : List DamageRegion) : Prop where
  regions : scan.regions = before.regions ++ strips
  onTiles : ∀ strip ∈ strips ++ scan.openStrip, OnTiles tracker frame strip
  rows : ∀ strip ∈ strips ++ scan.openStrip,
    strip.y = (tile tracker frame 0 tileY).y ∧ strip.height = (tile tracker frame 0 tileY).height
  apart : (strips ++ scan.openStrip).Pairwise DamageRect.Apart
  exact : ∀ x y, Covers (strips ++ scan.openStrip) x y ↔
    ∃ tileX < tiles, tileDiffers host tracker frame tileX tileY = true ∧
      (tile tracker frame tileX tileY).Contains x y
  reach : scan.active.isValid = true → scan.active.x + scan.active.width =
    (min (tiles * tracker.options.tileWidth.toNat) frame.width.toNat : Nat)
  area : scan.changedPixels = before.changedPixels + changedRowArea host tracker frame tileY tiles

variable {before scan : TileScan} {tileY tiles : Nat} {strips : List DamageRegion}

theorem changedRowArea_succ (tileY tiles : Nat) :
    changedRowArea host tracker frame tileY (tiles + 1) =
      changedRowArea host tracker frame tileY tiles +
        changedTileArea host tracker frame tiles tileY := by
  simp [changedRowArea, List.range_succ]

theorem scanTile_of_same (same : tileDiffers host tracker frame tiles tileY = false) :
    tracker.scanTile host frame tileY scan tiles = scan.close := by
  have unchanged : tracker.tileChanged host frame _ _ _ _ = false := same
  simp only [scanTile, unchanged, Bool.not_false, if_true]

theorem scanTile_of_differs (differs : tileDiffers host tracker frame tiles tileY = true) :
    tracker.scanTile host frame tileY scan tiles =
      { scan with
        changedPixels := scan.changedPixels + changedTileArea host tracker frame tiles tileY
        active :=
          if scan.active.isValid then
            { scan.active with
              width := scan.active.width + (tile tracker frame tiles tileY).width }
          else tile tracker frame tiles tileY } := by
  have changed : tracker.tileChanged host frame _ _ _ _ = true := differs
  have area : changedTileArea host tracker frame tiles tileY =
      min tracker.options.tileWidth.toNat
          (frame.width.toNat - tiles * tracker.options.tileWidth.toNat) *
        min tracker.options.tileHeight.toNat
          (frame.height.toNat - tileY * tracker.options.tileHeight.toNat) := by
    rw [changedTileArea, if_pos differs, DamageRect.area, tile, ← Nat.cast_mul, Int.toNat_natCast]
  simp only [scanTile, changed, Bool.not_true, Bool.false_eq_true, if_false, area, tile]

/-- Closing the strip keeps everything found. -/
theorem RowScanned.close
    (scanned : RowScanned host tracker frame before tileY tiles scan strips) :
    RowScanned host tracker frame before tileY tiles scan.close (strips ++ scan.openStrip) := by
  have closed := scan.close_spec
  have nothingOpen : scan.close.openStrip = [] := by
    simp [TileScan.openStrip, closed.2.1]
  constructor
  · rw [closed.1, scanned.regions, List.append_assoc]
  · rw [nothingOpen, List.append_nil]
    exact scanned.onTiles
  · rw [nothingOpen, List.append_nil]
    exact scanned.rows
  · rw [nothingOpen, List.append_nil]
    exact scanned.apart
  · rw [nothingOpen, List.append_nil]
    exact scanned.exact
  · intro valid
    rw [closed.2.1] at valid
    cases valid
  · rw [closed.2.2]
    exact scanned.area

/-- Everything found so far lies left of the next tile. -/
theorem RowScanned.left_of_next
    (scanned : RowScanned host tracker frame before tileY tiles scan strips) {x y : Int}
    (covered : Covers (strips ++ scan.openStrip) x y) :
    ¬ (tile tracker frame tiles tileY).Contains x y := by
  rcases (scanned.exact x y).mp covered with ⟨tileX, earlier, -, contained⟩
  have next : (tileX + 1) * tracker.options.tileWidth.toNat ≤
      tiles * tracker.options.tileWidth.toNat := Nat.mul_le_mul_right _ earlier
  rw [Nat.add_mul, Nat.one_mul] at next
  simp only [DamageRect.Contains, tile] at contained ⊢
  omega

/-- A tile is added: as a strip of its own, or by growing the open strip. -/
theorem RowScanned.extend {grown : TileScan}
    (scanned : RowScanned host tracker frame before tileY tiles scan strips)
    (piece : DamageRegion) (differs : tileDiffers host tracker frame tiles tileY = true)
    (regions : grown.regions = scan.regions)
    (openStrip : grown.openStrip = [piece])
    (onTiles : OnTiles tracker frame piece)
    (row : piece.y = (tile tracker frame 0 tileY).y ∧
      piece.height = (tile tracker frame 0 tileY).height)
    (contains : ∀ x y, piece.Contains x y ↔ Covers scan.openStrip x y ∨
      (tile tracker frame tiles tileY).Contains x y)
    (reach : grown.active.x + grown.active.width =
      (min ((tiles + 1) * tracker.options.tileWidth.toNat) frame.width.toNat : Nat))
    (area : grown.changedPixels =
      scan.changedPixels + changedTileArea host tracker frame tiles tileY) :
    RowScanned host tracker frame before tileY (tiles + 1) grown strips := by
  have kept : ∀ {motive : DamageRegion → Prop}, (∀ strip ∈ strips ++ scan.openStrip, motive strip) →
      motive piece → ∀ strip ∈ strips ++ [piece], motive strip := by
    intro motive all last strip member
    rcases List.mem_append.mp member with earlier | final
    · exact all strip (List.mem_append_left _ earlier)
    · rw [List.mem_singleton.mp final]
      exact last
  have separate := List.pairwise_append.mp scanned.apart
  constructor
  · rw [regions, scanned.regions]
  · rw [openStrip]
    exact kept scanned.onTiles onTiles
  · rw [openStrip]
    exact kept scanned.rows row
  · rw [openStrip]
    apply List.pairwise_append.mpr
    refine ⟨separate.1, List.pairwise_singleton _ _, ?_⟩
    intro strip member other final x y contained inOpen
    rw [List.mem_singleton.mp final] at inOpen
    rcases (contains x y).mp inOpen with ⟨earlier, inOpenStrip, inEarlier⟩ | inTile
    · exact separate.2.2 strip member earlier inOpenStrip x y contained inEarlier
    · exact scanned.left_of_next (covers_append.mpr (Or.inl ⟨strip, member, contained⟩)) inTile
  · intro x y
    rw [openStrip, covers_append, covers_singleton, contains, ← or_assoc, ← covers_append,
      scanned.exact, Nat.exists_lt_succ_right]
    simp only [differs, true_and]
  · exact fun _ => reach
  · rw [area, scanned.area, changedRowArea_succ, Nat.add_assoc]

/-- One more tile. -/
theorem RowScanned.step (tiling : tracker.Tiling) (geometry : frame.Geometry)
    (scanned : RowScanned host tracker frame before tileY tiles scan strips)
    (columnInside : tiles < tracker.tilesX frame) (rowInside : tileY < tracker.tilesY frame) :
    ∃ strips', RowScanned host tracker frame before tileY (tiles + 1)
      (tracker.scanTile host frame tileY scan tiles) strips' := by
  have onTiles := onTiles_tile tiling geometry columnInside rowInside
  have column := mul_lt_of_lt_tiles (by have := geometry.width_pos; omega) columnInside
  have next : (tiles + 1) * tracker.options.tileWidth.toNat =
      tiles * tracker.options.tileWidth.toNat + tracker.options.tileWidth.toNat := by ring
  cases differs : tileDiffers host tracker frame tiles tileY with
  | false =>
      rw [scanTile_of_same differs]
      have closed := scanned.close
      refine ⟨_, closed.regions, closed.onTiles, closed.rows, closed.apart, ?_, ?_, ?_⟩
      · intro x y
        rw [closed.exact, Nat.exists_lt_succ_right]
        simp [differs]
      · intro valid
        rw [scan.close_spec.2.1] at valid
        cases valid
      · rw [closed.area, changedRowArea_succ, changedTileArea, differs]
        simp
  | true =>
      rw [scanTile_of_differs differs]
      by_cases valid : scan.active.isValid = true
      · -- the strip grows by the tile
        have member : scan.active ∈ strips ++ scan.openStrip := by
          simp [TileScan.openStrip, valid]
        have strip := scanned.onTiles _ member
        have row := scanned.rows _ member
        have reach := scanned.reach valid
        have width := strip.inside.width_pos
        have height := strip.inside.height_pos
        have tileWidth := onTiles.inside.width_pos
        have edge : scan.active.x + scan.active.width = (tile tracker frame tiles tileY).x := by
          rw [reach]
          simp only [tile]
          omega
        have together : scan.active.x +
            (scan.active.width + (tile tracker frame tiles tileY).width) =
            (tile tracker frame tiles tileY).x + (tile tracker frame tiles tileY).width := by
          rw [← edge, Int.add_assoc]
        have sameY : (tile tracker frame tiles tileY).y = scan.active.y := row.1.symm
        have sameHeight : (tile tracker frame tiles tileY).height = scan.active.height :=
          row.2.symm
        refine ⟨strips, scanned.extend { scan.active with
          width := scan.active.width + (tile tracker frame tiles tileY).width } differs
          rfl ?_ ⟨⟨strip.inside.x_nonneg, strip.inside.y_nonneg, ?_, height, ?_,
            strip.inside.bottom_le⟩, strip.left, strip.top, ?_, strip.bottom⟩ row ?_ ?_ rfl⟩
        · have grownValid : ({ scan.active with
              width := scan.active.width + (tile tracker frame tiles tileY).width } :
              DamageRegion).isValid = true := by
            simp only [DamageRect.isValid, Bool.and_eq_true, decide_eq_true_eq]
            omega
          simp only [TileScan.openStrip, if_pos valid, if_pos grownValid]
        · simp only
          omega
        · simp only [together]
          exact onTiles.inside.right_le
        · simp only [together]
          exact onTiles.right
        · intro x y
          simp only [TileScan.openStrip, if_pos valid, covers_singleton, DamageRect.Contains]
          omega
        · simp only [if_pos valid, together]
          simp only [tile]
          omega
      · -- a new strip starts at the tile
        have started : (tile tracker frame tiles tileY).isValid = true := by
          have width := onTiles.inside.width_pos
          have height := onTiles.inside.height_pos
          simp only [DamageRect.isValid, Bool.and_eq_true, decide_eq_true_eq]
          omega
        refine ⟨strips, scanned.extend (tile tracker frame tiles tileY) differs rfl ?_
          onTiles ⟨rfl, rfl⟩ ?_ ?_ rfl⟩
        · simp only [TileScan.openStrip, if_neg valid, if_pos started]
        · intro x y
          simp [TileScan.openStrip, valid]
        · simp only [if_neg valid, tile]
          omega

/-- All rows of tiles up to one: the rectangles are exactly their differing tiles. -/
structure RowsScanned (host : Host) (tracker : DamageTracker) (frame : Frame) (rows : Nat)
    (scan : TileScan) : Prop where
  onTiles : ∀ region ∈ scan.regions, OnTiles tracker frame region
  apart : scan.regions.Pairwise DamageRect.Apart
  exact : ∀ x y, Covers scan.regions x y ↔
    ∃ tileY < rows, ∃ tileX < tracker.tilesX frame,
      tileDiffers host tracker frame tileX tileY = true ∧
        (tile tracker frame tileX tileY).Contains x y
  area : scan.changedPixels = changedArea host tracker frame rows

/-- A row of tiles ends with no strip open. -/
theorem rowScanned_scanRow (tiling : tracker.Tiling) (geometry : frame.Geometry)
    (rowInside : tileY < tracker.tilesY frame) :
    ∃ strips, RowScanned host tracker frame scan tileY (tracker.tilesX frame)
        (tracker.scanRow host frame scan tileY) strips ∧
      (tracker.scanRow host frame scan tileY).openStrip = [] := by
  have row : ∀ tiles ≤ tracker.tilesX frame, ∃ strips,
      RowScanned host tracker frame scan tileY tiles
        ((List.range tiles).foldl (tracker.scanTile host frame tileY)
          { scan with active := {} }) strips := by
    intro tiles
    induction tiles with
    | zero =>
        intro _
        refine ⟨[], by simp, ?_, ?_, ?_, ?_, ?_, ?_⟩
        · exact fun _ member => absurd member List.not_mem_nil
        · exact fun _ member => absurd member List.not_mem_nil
        · exact List.Pairwise.nil
        · intro x y
          simp only [List.range_zero, List.foldl_nil, Nat.not_lt_zero, false_and, exists_false,
            iff_false]
          exact not_covers_nil x y
        · exact fun valid => by cases valid
        · simp [changedRowArea]
    | succ tiles inductionHypothesis =>
        intro bound
        rcases inductionHypothesis (by omega) with ⟨strips, scanned⟩
        rw [List.range_succ, List.foldl_append]
        exact scanned.step tiling geometry bound rowInside
  rcases row _ (le_refl _) with ⟨strips, scanned⟩
  refine ⟨_, scanned.close, ?_⟩
  simp only [TileScan.openStrip, scanRow, TileScan.close_spec]
  rfl

theorem RowsScanned.step (tiling : tracker.Tiling) (geometry : frame.Geometry) {rows : Nat}
    (scanned : RowsScanned host tracker frame rows scan) (inside : rows < tracker.tilesY frame) :
    RowsScanned host tracker frame (rows + 1) (tracker.scanRow host frame scan rows) := by
  rcases @rowScanned_scanRow host tracker frame scan rows tiling geometry inside with
    ⟨strips, row, shut⟩
  have onTiles := row.onTiles
  have apart := row.apart
  have exact := row.exact
  rw [shut, List.append_nil] at onTiles apart exact
  constructor
  · intro region member
    rw [row.regions] at member
    rcases List.mem_append.mp member with earlier | last
    · exact scanned.onTiles region earlier
    · exact onTiles region last
  · rw [row.regions]
    apply List.pairwise_append.mpr
    refine ⟨scanned.apart, apart, ?_⟩
    -- earlier rectangles end above this row of tiles
    intro above memberAbove strip memberStrip x y inAbove inStrip
    rcases (scanned.exact x y).mp ⟨above, memberAbove, inAbove⟩ with
      ⟨tileY, earlier, tileX, -, -, inTile⟩
    rcases (exact x y).mp ⟨strip, memberStrip, inStrip⟩ with ⟨other, -, -, inOther⟩
    have next : (tileY + 1) * tracker.options.tileHeight.toNat ≤
        rows * tracker.options.tileHeight.toNat := Nat.mul_le_mul_right _ earlier
    rw [Nat.add_mul, Nat.one_mul] at next
    simp only [DamageRect.Contains, tile] at inTile inOther
    omega
  · intro x y
    rw [row.regions, covers_append, scanned.exact, exact, Nat.exists_lt_succ_right]
  · rw [row.area, scanned.area, changedArea, changedArea, List.range_succ, List.map_append,
      List.sum_append]
    simp

theorem rowsScanned_scanTiles (tiling : tracker.Tiling) (geometry : frame.Geometry) :
    RowsScanned host tracker frame (tracker.tilesY frame) (tracker.scanTiles host frame) := by
  have scanned : ∀ rows ≤ tracker.tilesY frame, RowsScanned host tracker frame rows
      ((List.range rows).foldl (tracker.scanRow host frame) {}) := by
    intro rows
    induction rows with
    | zero =>
        intro _
        refine ⟨(fun _ member => absurd member List.not_mem_nil), List.Pairwise.nil, ?_, rfl⟩
        intro x y
        simp only [List.range_zero, List.foldl_nil, Nat.not_lt_zero, false_and, exists_false,
          iff_false]
        exact not_covers_nil x y
    | succ rows inductionHypothesis =>
        intro bound
        rw [List.range_succ, List.foldl_append]
        exact (inductionHypothesis (by omega)).step tiling geometry bound
  exact scanned _ (le_refl _)

/-- A pixel outside all rectangles has the bytes of the copy. -/
theorem unchanged_of_scanTiles (tiling : tracker.Tiling) (geometry : frame.Geometry)
    {x y : Nat} (columnInside : x < frame.width.toNat) (rowInside : y < frame.height.toNat)
    (uncovered : ¬ Covers (tracker.scanTiles host frame).regions x y) :
    tracker.PixelUnchanged frame x y := by
  have tileWidthPos : 0 < tracker.options.tileWidth.toNat := by
    have := tiling.width_pos
    omega
  have tileHeightPos : 0 < tracker.options.tileHeight.toNat := by
    have := tiling.height_pos
    omega
  have left := Nat.div_mul_le_self x tracker.options.tileWidth.toNat
  have right := @Nat.lt_div_mul_add x _ tileWidthPos
  have top := Nat.div_mul_le_self y tracker.options.tileHeight.toNat
  have bottom := @Nat.lt_div_mul_add y _ tileHeightPos
  by_contra changed
  apply uncovered
  rw [(rowsScanned_scanTiles tiling geometry).exact]
  refine ⟨y / tracker.options.tileHeight.toNat, ?_, x / tracker.options.tileWidth.toNat, ?_, ?_, ?_⟩
  · exact Nat.lt_succ_of_le (Nat.div_le_div_right (by omega))
  · exact Nat.lt_succ_of_le (Nat.div_le_div_right (by omega))
  · exact tileChanged_iff.mpr ⟨x, y, ⟨left, by omega⟩, ⟨top, by omega⟩, changed⟩
  · simp only [DamageRect.Contains, tile]
    omega

/-! ### Merging strips -/

/-- The same tiles, cut into other rectangles. -/
structure Repartitions (tracker : DamageTracker) (frame : Frame)
    (before after : List DamageRegion) : Prop where
  onTiles : (∀ region ∈ before, OnTiles tracker frame region) →
    ∀ region ∈ after, OnTiles tracker frame region
  covers : (∀ region ∈ before, OnTiles tracker frame region) →
    ∀ x y, Covers after x y ↔ Covers before x y
  apart : (∀ region ∈ before, OnTiles tracker frame region) →
    before.Pairwise DamageRect.Apart → after.Pairwise DamageRect.Apart

namespace Repartitions

theorem refl (regions : List DamageRegion) : Repartitions tracker frame regions regions :=
  ⟨fun onTiles => onTiles, fun _ _ _ => Iff.rfl, fun _ apart => apart⟩

theorem trans {first second third : List DamageRegion}
    (head : Repartitions tracker frame first second)
    (tail : Repartitions tracker frame second third) : Repartitions tracker frame first third :=
  ⟨fun onTiles => tail.onTiles (head.onTiles onTiles),
    fun onTiles x y => (tail.covers (head.onTiles onTiles) x y).trans (head.covers onTiles x y),
    fun onTiles apart => tail.apart (head.onTiles onTiles) (head.apart onTiles apart)⟩

theorem of_perm {before after : List DamageRegion} (perm : after.Perm before) :
    Repartitions tracker frame before after := by
  constructor
  · intro onTiles region member
    exact onTiles region (perm.mem_iff.mp member)
  · intro _ x y
    simp only [Covers, perm.mem_iff]
  · intro _ apart
    exact (perm.pairwise_iff fun apart => DamageRect.Apart.symm apart).mpr apart

theorem cons (region : DamageRegion) {before after : List DamageRegion}
    (tail : Repartitions tracker frame before after) :
    Repartitions tracker frame (region :: before) (region :: after) := by
  constructor
  · intro onTiles
    rw [List.forall_mem_cons] at onTiles ⊢
    exact ⟨onTiles.1, tail.onTiles onTiles.2⟩
  · intro onTiles x y
    rw [List.forall_mem_cons] at onTiles
    rw [covers_cons, covers_cons, tail.covers onTiles.2]
  · intro onTiles apart
    rw [List.forall_mem_cons] at onTiles
    rw [List.pairwise_cons] at apart ⊢
    refine ⟨?_, tail.apart onTiles.2 apart.2⟩
    intro other member x y contained inOther
    rcases (tail.covers onTiles.2 x y).mp ⟨other, member, inOther⟩ with ⟨earlier, kept, inEarlier⟩
    exact apart.1 earlier kept x y contained inEarlier

/-- A strip and the one right below it. -/
theorem absorb {top next : DamageRegion} (others : List DamageRegion)
    (column : top.x = next.x) (width : top.width = next.width)
    (row : top.y + top.height = next.y) :
    Repartitions tracker frame (top :: next :: others)
      ({ top with height := top.height + next.height } :: others) := by
  have contains : OnTiles tracker frame top → OnTiles tracker frame next → ∀ x y,
      ({ top with height := top.height + next.height } : DamageRegion).Contains x y ↔
        top.Contains x y ∨ next.Contains x y := by
    intro first second x y
    have heightTop := first.inside.height_pos
    have heightNext := second.inside.height_pos
    simp only [DamageRect.Contains]
    omega
  constructor
  · intro onTiles
    rw [List.forall_mem_cons, List.forall_mem_cons] at onTiles
    rcases onTiles with ⟨first, second, rest⟩
    have bottom : top.y + (top.height + next.height) = next.y + next.height := by omega
    have height := first.inside.height_pos
    have nextHeight := second.inside.height_pos
    rw [List.forall_mem_cons]
    refine ⟨⟨⟨first.inside.x_nonneg, first.inside.y_nonneg, first.inside.width_pos, ?_,
      first.inside.right_le, ?_⟩, first.left, first.top, first.right, ?_⟩, rest⟩
    · simp only
      omega
    · simp only [bottom]
      exact second.inside.bottom_le
    · simp only [bottom]
      exact second.bottom
  · intro onTiles x y
    rw [List.forall_mem_cons, List.forall_mem_cons] at onTiles
    rw [covers_cons, covers_cons, covers_cons, contains onTiles.1 onTiles.2.1, or_assoc]
  · intro onTiles apart
    rw [List.forall_mem_cons, List.forall_mem_cons] at onTiles
    rw [List.pairwise_cons, List.pairwise_cons] at apart
    rcases apart with ⟨first, second, rest⟩
    apply List.pairwise_cons.mpr
    refine ⟨?_, rest⟩
    intro other member x y contained inOther
    rcases (contains onTiles.1 onTiles.2.1 x y).mp contained with inTop | inNext
    · exact first other (List.mem_cons_of_mem _ member) x y inTop inOther
    · exact second other member x y inNext inOther

end Repartitions

theorem repartitions_absorbStrips (top : DamageRegion) (others : List DamageRegion) :
    Repartitions tracker frame (top :: others)
      ((absorbStrips top others).1 :: (absorbStrips top others).2) := by
  induction others generalizing top with
  | nil => exact Repartitions.refl [top]
  | cons next others inductionHypothesis =>
      rw [absorbStrips]
      split_ifs with adjacent
      · exact (Repartitions.absorb others adjacent.1 adjacent.2.1 adjacent.2.2).trans
          (inductionHypothesis _)
      · have swap : (next :: top :: others).Perm (top :: next :: others) :=
          List.Perm.swap top next others
        have swapBack : ((absorbStrips top others).1 :: next :: (absorbStrips top others).2).Perm
            (next :: (absorbStrips top others).1 :: (absorbStrips top others).2) :=
          List.Perm.swap _ _ _
        exact (Repartitions.of_perm swap).trans
          (((inductionHypothesis top).cons next).trans (Repartitions.of_perm swapBack))

theorem repartitions_mergeStrips (rounds : Nat) (regions : List DamageRegion) :
    Repartitions tracker frame regions (mergeStrips rounds regions) := by
  induction rounds generalizing regions with
  | zero => exact Repartitions.refl regions
  | succ rounds inductionHypothesis =>
      cases regions with
      | nil => exact Repartitions.refl []
      | cons top others =>
          exact (repartitions_absorbStrips top others).trans ((inductionHypothesis _).cons _)

end DamageTracker

end Rasterm
