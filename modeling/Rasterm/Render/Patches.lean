import Rasterm.Render.Decision
import Rasterm.Render.Sound

/-!
Contract: the patches `renderFrame` draws when it does not present the full frame.

Owns the plan of patches as a function of the renderer and the frame, and that every
plan is safe to draw: it contains the damage, its divisions into cells are exact, and
it stays off the bottom row.
-/

set_option autoImplicit false

namespace Rasterm

/-! ### Right edges -/

/-- The right edge is on a cell boundary or is the edge of the frame. -/
def DamageRect.EndsOnCell (region : DamageRegion) (cells : TerminalCellPixels)
    (frameWidth : Int) : Prop :=
  cells.cellWidth ∣ region.x + region.width ∨ region.x + region.width = frameWidth

section EndsOnCell

variable {cells : TerminalCellPixels} {frameWidth frameHeight : Int}

theorem endsOnCell_alignToTerminalCells (region : DamageRegion) :
    (alignToTerminalCells region frameWidth frameHeight cells).EndsOnCell cells frameWidth := by
  simp only [DamageRect.EndsOnCell, alignToTerminalCells, add_sub_cancel]
  rcases min_choice frameWidth
    ((region.x + region.width + cells.cellWidth - 1) / cells.cellWidth * cells.cellWidth) with
    frame | cell
  · exact Or.inr frame
  · rw [cell]
    exact Or.inl (Int.dvd_mul_left _ _)

theorem DamageRect.EndsOnCell.bounding (left right : DamageRegion)
    (first : left.EndsOnCell cells frameWidth) (second : right.EndsOnCell cells frameWidth) :
    (left.bounding right).EndsOnCell cells frameWidth := by
  simp only [DamageRect.EndsOnCell, DamageRect.bounding, add_sub_cancel]
  rcases max_choice (left.x + left.width) (right.x + right.width) with ends | ends
  · rw [ends]
    exact first
  · rw [ends]
    exact second

end EndsOnCell

namespace DamageTracker

variable {tracker : DamageTracker} {frame : Frame} {cells : TerminalCellPixels}

theorem OnTiles.endsOnCell {region : DamageRegion} (onTiles : OnTiles tracker frame region)
    (tilesCells : tracker.TilesCells cells) : region.EndsOnCell cells frame.width :=
  onTiles.right.imp_left tilesCells.columns.trans

end DamageTracker

namespace Renderer

/-! ### The plan -/

/-- The patches that are drawn, when the regional path is taken. -/
def regionalPlan (host : Host) (renderer : Renderer) (frame : Frame) :
    Option (List DamageRegion) :=
  match (renderer.presentation host frame).2 with
  | .patches regions => some regions
  | _ => none

variable {host : Host} {renderer : Renderer} {frame : Frame} {regions : List DamageRegion}

theorem regionalPlan_eq_some_iff :
    renderer.regionalPlan host frame = some regions ↔
      (renderer.presentation host frame).2 = .patches regions := by
  unfold regionalPlan
  cases (renderer.presentation host frame).2 with
  | nothing => simp
  | full => simp
  | patches planned => simp

/-- The plan is what `renderFrame` encodes and draws. -/
theorem renderFrame_of_plan (plan : renderer.regionalPlan host frame = some regions) :
    ∃ current, renderer.OtherDamage current ∧
      renderer.renderFrame host frame =
        current.renderRegions host frame (renderer.dimensionsChanged frame) regions := by
  refine ⟨_, renderer.otherDamage_presentation host frame, ?_⟩
  rw [renderFrame_eq, regionalPlan_eq_some_iff.mp plan]
  rfl

/-! ### Safety of the plan -/

/-- A plan that can be drawn patch by patch. -/
structure SafePlan (host : Host) (renderer : Renderer) (frame : Frame)
    (regions : List DamageRegion) : Prop where
  /-- Supplied damage is among the patches. -/
  supplied : frame.metadata.damage.supplied = true →
    ∀ x y, Covers frame.metadata.damage.rects x y → Covers regions x y
  /-- So are the tracker's rectangles, and every pixel that differs from its copy. -/
  tracked : frame.metadata.damage.supplied = false →
    ∀ x y, Covers (renderer.damage.compareAndUpdate host frame).2.regions x y → Covers regions x y
  changed : frame.metadata.damage.supplied = false →
    ∀ x < frame.width.toNat, ∀ y < frame.height.toNat,
      ¬ renderer.damage.PixelUnchanged frame x y → Covers regions x y
  placed : AllPlaced renderer.options.cellPixels frame.width frame.height regions
  ends : ∀ region ∈ regions, region.EndsOnCell renderer.options.cellPixels frame.width
  aboveBottom : ∀ region ∈ regions, region.y + region.height < frame.height

/-- Where damage is partial, it comes from the caller's list or from the tracker as it was. -/
theorem difference_of_partial (valid : frame.isValid = true)
    (promised : (renderer.adapt frame).Partial frame
      (renderer.dimensionsChanged frame || renderer.frameIdentityChanged frame)
      ((renderer.adapt frame).findDamage host frame
        (renderer.dimensionsChanged frame || renderer.frameIdentityChanged frame)).2) :
    ((renderer.adapt frame).findDamage host frame
        (renderer.dimensionsChanged frame || renderer.frameIdentityChanged frame)).2.regions =
      if frame.metadata.damage.supplied then
        normalizeDamage host (frame.metadata.damage.rects.map fun rectangle =>
          alignToTerminalCells rectangle frame.width frame.height renderer.options.cellPixels)
      else (renderer.damage.compareAndUpdate host frame).2.regions := by
  rcases adapt_of_partial rfl valid promised with ⟨-, same⟩
  cases supplied : frame.metadata.damage.supplied with
  | true => simp only [findDamage, supplied, if_true, same]
  | false =>
      have source := (promised.compared supplied).1
      rw [same] at source
      simp only [findDamage, supplied, Bool.false_eq_true, if_false, same, source]

/-- A plan that reaches the bottom row is turned down. -/
theorem aboveBottom_of_planPresentation {difference : DamageResult}
    (notFull : (renderer.planPresentation host frame difference).2 = false) :
    ∀ region ∈ (renderer.planPresentation host frame difference).1,
      region.y + region.height ≠ frame.height := by
  have part := planPresentation_full notFull
  simp only [planPresentation, part, Bool.false_eq_true, if_false, Bool.or_eq_false_iff,
    Bool.not_eq_false', canPresentWithoutBottomScroll, List.all_eq_true,
    decide_eq_true_eq] at notFull ⊢
  exact notFull.2

/-- Every plan of a renderer in good order is safe. -/
theorem Sound.safePlan (sound : renderer.Sound host)
    (plan : renderer.regionalPlan host frame = some regions) :
    renderer.SafePlan host frame regions := by
  rcases planned_of_patches (regionalPlan_eq_some_iff.mp plan) with
    ⟨valid, -, notFull, planned⟩
  have adapted := sound.otherDamage (renderer.otherDamage_adapt frame)
  have partialDamage := planPresentation_full notFull
  have promised := partial_findDamage host valid adapted.positive adapted.tiling partialDamage
  have difference := difference_of_partial valid promised
  have joins := joins_planPresentation host ((renderer.adapt frame).findDamage host frame
    (renderer.dimensionsChanged frame || renderer.frameIdentityChanged frame)).1 frame
    ((renderer.adapt frame).findDamage host frame
      (renderer.dimensionsChanged frame || renderer.frameIdentityChanged frame)).2
  rcases adapt_of_partial rfl valid promised with ⟨-, same⟩
  rw [planned] at joins
  have placed := promised.placed
  rw [options_adapt] at placed
  have allPlaced : AllPlaced renderer.options.cellPixels frame.width frame.height regions :=
    joins.coarsens.placed placed
  refine ⟨?_, ?_, ?_, allPlaced, ?_, ?_⟩
  · intro supplied x y covered
    exact joins.covers x y ((promised.supplied supplied).2.2 x y covered)
  · intro tracked x y covered
    apply joins.covers x y
    rwa [difference, tracked]
  · intro tracked x columnInside y rowInside differs
    by_contra uncovered
    apply differs
    have unchanged := (promised.compared tracked).2.2 x columnInside y rowInside
      (fun covered => uncovered (joins.covers x y covered))
    rwa [same] at unchanged
  · -- joining keeps right edges on cells; both sources start with such rectangles
    apply joins.closed _ DamageRect.EndsOnCell.bounding
    rw [difference]
    split_ifs with supplied
    · apply (joins_normalizeDamage host _).closed _ DamageRect.EndsOnCell.bounding
      intro region member
      rcases List.mem_map.mp member with ⟨rectangle, -, aligned⟩
      rw [← aligned]
      exact endsOnCell_alignToTerminalCells rectangle
    · have geometry := Frame.geometry_of_isValid valid
      have tracked : frame.metadata.damage.supplied = false := by simpa using supplied
      intro region member
      exact (DamageTracker.onTiles_compareAndUpdate host sound.tiling.tiling valid region
        member).endsOnCell sound.tiling
  · intro region member
    have veto := aboveBottom_of_planPresentation notFull
    rw [planned] at veto
    have inside := (allPlaced region member).inside.bottom_le
    have below := veto region member
    omega

/-- After any calls, whenever `renderFrame` takes the regional path, the patches it encodes and
draws are safe. -/
theorem patches_safe (host : Host) (options : RendererOptions)
    (positive : options.cellPixels.Positive) (scratch : Scratch) (sink : OutputSink)
    (calls : List Call) (frame : Frame) (regions : List DamageRegion) :
    let renderer := (create host options scratch sink).performAll host calls
    renderer.regionalPlan host frame = some regions →
      (∃ current, renderer.OtherDamage current ∧
        renderer.renderFrame host frame =
          current.renderRegions host frame (renderer.dimensionsChanged frame) regions) ∧
        renderer.SafePlan host frame regions := by
  intro renderer plan
  have sound : renderer.Sound host :=
    performAll_invariant host (fun _ call kept => kept.perform call) calls
      (Sound.create host positive scratch sink)
  exact ⟨renderFrame_of_plan plan, sound.safePlan plan⟩

/-- One index changes after the stripes were presented: one patch of one pixel. -/
theorem patches_safe_stripes :
    let options : RendererOptions :=
      { cellPixels := ⟨1, 1⟩, damage := { tileWidth := 1, tileHeight := 1 } }
    let changed : Frame := .indexed { IndexedFrameView.stripes with
      indices := some fun offset => if offset = 12 then 1 else UInt8.ofNat (offset % 3) }
    let renderer := (create Host.plain options {} { responses := fun _ => true }).performAll
      Host.plain [.render (.indexed .stripes)]
    renderer.regionalPlan Host.plain changed = some [⟨2, 2, 1, 1⟩] ∧
      renderer.SafePlan Host.plain changed [⟨2, 2, 1, 1⟩] := by
  have plan : ((create Host.plain
      { cellPixels := ⟨1, 1⟩, damage := { tileWidth := 1, tileHeight := 1 } } {}
      { responses := fun _ => true }).performAll Host.plain
        [.render (.indexed .stripes)]).regionalPlan Host.plain
      (.indexed { IndexedFrameView.stripes with
        indices := some fun offset => if offset = 12 then 1 else UInt8.ofNat (offset % 3) }) =
      some [⟨2, 2, 1, 1⟩] := by decide +kernel
  refine ⟨plan, ?_⟩
  exact (patches_safe Host.plain
    { cellPixels := ⟨1, 1⟩, damage := { tileWidth := 1, tileHeight := 1 } }
    ⟨by decide, by decide⟩ {} { responses := fun _ => true } [.render (.indexed .stripes)] _ _
    plan).2

end Renderer

end Rasterm
