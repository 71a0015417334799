import Rasterm.Damage.Comparison
import Rasterm.Render.Renderer

/-!
Contract: what the decision between patches and a full frame rests on.

Owns what partial damage promises (patches on cell boundaries, the supplied or
the compared pixels among them), that planning keeps it, and that tiles consist of
whole cells.
-/

set_option autoImplicit false

namespace Rasterm

namespace Renderer

/-! ### Tiles -/

private theorem wholeCells {tile cell : Int} (positive : 0 < cell) :
    0 < max tile cell / cell * cell ∧ cell ∣ max 1 (max tile cell / cell * cell) := by
  have count : 1 ≤ max tile cell / cell := by
    rw [Int.le_ediv_iff_mul_le positive, Int.one_mul]
    exact le_max_right tile cell
  have size : 0 < max tile cell / cell * cell := Int.mul_pos (by omega) positive
  refine ⟨size, ?_⟩
  rw [max_eq_right (by omega : 1 ≤ max tile cell / cell * cell)]
  exact Int.dvd_mul_left _ _

/-- The tracker of a renderer works on whole cells. -/
theorem tilesCells_trackerOptions {damage : DamageOptions} {cells : TerminalCellPixels}
    (positive : cells.Positive) {tracker : DamageTracker}
    (options : tracker.options = (DamageTracker.create (trackerOptions damage cells)).options) :
    tracker.TilesCells cells := by
  obtain ⟨-, columns⟩ := @wholeCells damage.tileWidth cells.cellWidth positive.1
  obtain ⟨-, rows⟩ := @wholeCells damage.tileHeight cells.cellHeight positive.2
  constructor
  · rw [options]
    exact lt_of_lt_of_le Int.one_pos (le_max_left _ _)
  · rw [options]
    exact lt_of_lt_of_le Int.one_pos (le_max_left _ _)
  · rw [options]
    exact columns
  · rw [options]
    exact rows

/-! ### Damage -/

/-- What damage promises that does not ask for the full frame. -/
structure Partial (renderer : Renderer) (frame : Frame) (changed : Bool)
    (difference : DamageResult) : Prop where
  placed : AllPlaced renderer.options.cellPixels frame.width frame.height difference.regions
  nothing : difference.hasChanges = false → difference.regions = []
  /-- Supplied damage is presented on top of a frame of the same size and kind. -/
  supplied : frame.metadata.damage.supplied = true →
    renderer.previousWidth ≠ 0 ∧ changed = false ∧
      ∀ x y, Covers frame.metadata.damage.rects x y → Covers difference.regions x y
  /-- Compared damage contains every pixel that differs from the tracker's copy. -/
  compared : frame.metadata.damage.supplied = false →
    renderer.usingSuppliedDamage = false ∧ renderer.damage.hasSameShape frame = true ∧
      ∀ x < frame.width.toNat, ∀ y < frame.height.toNat,
        ¬ Covers difference.regions x y → renderer.damage.PixelUnchanged frame x y

/-- The supplied rectangles, on cells and merged. -/
private theorem supplied_spec (host : Host) {cells : TerminalCellPixels}
    (positive : cells.Positive) {frame : Frame} (valid : frame.isValid = true) :
    let regions := normalizeDamage host (frame.metadata.damage.rects.map fun rectangle =>
      alignToTerminalCells rectangle frame.width frame.height cells)
    AllPlaced cells frame.width frame.height regions ∧
      ∀ x y, Covers frame.metadata.damage.rects x y → Covers regions x y := by
  have inside := DamageView.inside_of_isValidFor (Frame.geometry_of_isValid valid).damage_valid
  have aligned : AllPlaced cells frame.width frame.height
      (frame.metadata.damage.rects.map fun rectangle =>
        alignToTerminalCells rectangle frame.width frame.height cells) := by
    intro region member
    obtain ⟨rectangle, listed, same⟩ := List.mem_map.mp member
    subst same
    exact (placed_alignToTerminalCells positive (inside rectangle listed)).1
  have coarser := joins_normalizeDamage host (frame.metadata.damage.rects.map fun rectangle =>
    alignToTerminalCells rectangle frame.width frame.height cells)
  refine ⟨coarser.coarsens.placed aligned, ?_⟩
  intro x y covered
  apply coarser.covers x y
  obtain ⟨rectangle, listed, contained⟩ := covered
  refine ⟨_, List.mem_map.mpr ⟨rectangle, listed, rfl⟩, ?_⟩
  exact (placed_alignToTerminalCells positive (inside rectangle listed)).2 x y contained

/-- A tracker that was reset recognizes no frame. -/
theorem hasSameShape_reset (tracker : DamageTracker) {frame : Frame} (valid : frame.isValid = true) :
    tracker.reset.hasSameShape frame = false := by
  have positive := (Frame.geometry_of_isValid valid).width_pos
  have other : (frame.width == (0 : Int)) = false := beq_eq_false_iff_ne.mpr (ne_of_gt positive)
  simp [DamageTracker.hasSameShape, DamageTracker.reset, other]

theorem partial_findDamage (host : Host) {renderer : Renderer} {frame : Frame}
    (valid : frame.isValid = true) (positive : renderer.options.cellPixels.Positive)
    (tiling : renderer.damage.TilesCells renderer.options.cellPixels) {changed : Bool}
    (notFull : (renderer.findDamage host frame changed).2.isFullFrame = false) :
    renderer.Partial frame changed (renderer.findDamage host frame changed).2 := by
  unfold findDamage at notFull ⊢
  by_cases supplied : frame.metadata.damage.supplied = true
  · rw [if_pos supplied] at notFull ⊢
    obtain ⟨placed, covers⟩ := supplied_spec host positive valid
    have uncovered := notFull
    simp only [coversFrame, Bool.or_eq_false_iff, decide_eq_false_iff_not] at uncovered
    refine ⟨placed, ?_, fun _ => ⟨uncovered.1.1, uncovered.1.2, covers⟩, ?_⟩
    · intro nothing
      simp only [Bool.or_eq_false_iff, Bool.not_eq_false', List.isEmpty_iff] at nothing
      exact nothing.2
    · intro unsupplied
      rw [unsupplied] at supplied
      cases supplied
  · rw [if_neg supplied] at notFull ⊢
    have switched : ∀ current : Renderer, current.damage.TilesCells renderer.options.cellPixels →
        (current.damage.compareAndUpdate host frame).2.isFullFrame = false →
        DamageTracker.Reports renderer.options.cellPixels current.damage frame
          (current.damage.compareAndUpdate host frame).2 := by
      intro current tiles partialDamage
      obtain ⟨-, ⟨full, -⟩ | ⟨-, reports⟩⟩ := DamageTracker.compareAndUpdate_spec host valid tiles
      · rw [full] at partialDamage
        cases partialDamage
      · exact reports
    by_cases source : renderer.usingSuppliedDamage = true
    · rw [if_pos source] at notFull ⊢
      have reports := switched { renderer with
        damage := renderer.damage.reset
        usingSuppliedDamage := false } ⟨tiling.width_pos, tiling.height_pos, tiling.columns,
          tiling.rows⟩ notFull
      have other := hasSameShape_reset renderer.damage valid
      rw [reports.sameShape] at other
      cases other
    · rw [if_neg source] at notFull ⊢
      have reports := switched renderer tiling notFull
      exact ⟨reports.placed, reports.nothing, fun given => absurd given supplied,
        fun _ => ⟨Bool.eq_false_iff.mpr source, reports.sameShape, reports.unchanged⟩⟩

/-- Partial damage is found only where size and representation stayed. -/
theorem adapt_of_partial {renderer : Renderer} {frame : Frame} {changed : Bool}
    {difference : DamageResult}
    (same : changed = (renderer.dimensionsChanged frame || renderer.frameIdentityChanged frame))
    (valid : frame.isValid = true)
    (promised : (renderer.adapt frame).Partial frame changed difference) :
    changed = false ∧ renderer.adapt frame = renderer := by
  cases changed with
  | false =>
      refine ⟨rfl, ?_⟩
      rw [adapt, ← same]
      rfl
  | true =>
      cases supplied : frame.metadata.damage.supplied with
      | true => cases (promised.supplied supplied).2.1
      | false =>
          have shape := (promised.compared supplied).2.1
          rw [adapt, ← same] at shape
          change renderer.damage.reset.hasSameShape frame = true at shape
          rw [hasSameShape_reset renderer.damage valid] at shape
          cases shape

/-- A full frame is a change. -/
theorem hasChanges_findDamage (host : Host) {renderer : Renderer} {frame : Frame}
    (valid : frame.isValid = true)
    (tiling : renderer.damage.TilesCells renderer.options.cellPixels) {changed : Bool}
    (full : (renderer.findDamage host frame changed).2.isFullFrame = true) :
    (renderer.findDamage host frame changed).2.hasChanges = true := by
  unfold findDamage at full ⊢
  by_cases supplied : frame.metadata.damage.supplied = true
  · rw [if_pos supplied] at full ⊢
    simp only at full ⊢
    rw [full, Bool.true_or]
  · rw [if_neg supplied] at full ⊢
    have compares : ∀ current : Renderer, current.damage.TilesCells renderer.options.cellPixels →
        (current.damage.compareAndUpdate host frame).2.isFullFrame = true →
        (current.damage.compareAndUpdate host frame).2.hasChanges = true := by
      intro current tiles whole
      obtain ⟨-, ⟨-, changes⟩ | ⟨part, -⟩⟩ := DamageTracker.compareAndUpdate_spec host valid tiles
      · exact changes
      · rw [part] at whole
        cases whole
    apply compares _ ?_ full
    split_ifs
    · exact ⟨tiling.width_pos, tiling.height_pos, tiling.columns, tiling.rows⟩
    · exact tiling

/-- With nothing remembered, a frame is presented in full. -/
theorem renderFrame_of_forgotten (host : Host) {renderer : Renderer} {frame : Frame}
    (valid : frame.isValid = true) (positive : renderer.options.cellPixels.Positive)
    (tiling : renderer.damage.TilesCells renderer.options.cellPixels)
    (width : renderer.previousWidth = 0) (formatTag : renderer.previousFormatTag = -1)
    (shape : renderer.damage.hasSameShape frame = false) :
    ∃ current, renderer.OtherDamage current ∧
      renderer.renderFrame host frame = current.renderFull host frame false := by
  have dimensions : renderer.dimensionsChanged frame = false := by
    simp [dimensionsChanged, width]
  have identity : renderer.frameIdentityChanged frame = false := by
    simp [frameIdentityChanged, formatTag]
  have adapted : renderer.adapt frame = renderer := by
    simp [adapt, dimensions, identity]
  have full : (renderer.findDamage host frame false).2.isFullFrame = true := by
    by_contra notFull
    rw [Bool.not_eq_true] at notFull
    have promised := partial_findDamage host valid positive tiling notFull
    cases supplied : frame.metadata.damage.supplied with
    | true => exact (promised.supplied supplied).1 width
    | false =>
        have same := (promised.compared supplied).2.1
        rw [shape] at same
        cases same
  have changes := hasChanges_findDamage host valid tiling full
  simp only [renderFrame, valid, dimensions, identity, adapted, Bool.or_self, Bool.not_true,
    Bool.false_eq_true, if_false, changes, planPresentation, full, if_true]
  split_ifs
  · exact ⟨renderer, ⟨⟨renderer.damage, renderer.usingSuppliedDamage, rfl⟩, rfl⟩, rfl⟩
  · exact ⟨_, renderer.otherDamage_findDamage host frame false, rfl⟩

/-- The planned patches are joined from the damage and cover it. -/
theorem joins_planPresentation (host : Host) (renderer : Renderer) (frame : Frame)
    (difference : DamageResult) :
    Joins difference.regions (renderer.planPresentation host frame difference).1 := by
  unfold planPresentation
  split_ifs
  · exact Joins.refl _
  · exact joins_planDamagePresentation host difference.regions _

theorem coarsens_planPresentation (host : Host) (renderer : Renderer) (frame : Frame)
    (difference : DamageResult) :
    Coarsens renderer.options.cellPixels frame.width frame.height difference.regions
      (renderer.planPresentation host frame difference).1 :=
  (renderer.joins_planPresentation host frame difference).coarsens

theorem planPresentation_full {host : Host} {renderer : Renderer} {frame : Frame}
    {difference : DamageResult}
    (notFull : (renderer.planPresentation host frame difference).2 = false) :
    difference.isFullFrame = false := by
  unfold planPresentation at notFull
  split_ifs at notFull with full
  exact Bool.eq_false_iff.mpr full

end Renderer

end Rasterm
