import Rasterm.Render.Partial

/-!
Contract: what `renderFrame` decides before anything is encoded.

Owns the decision as a value, that `renderFrame` carries it out, and that it looks at
the damage and changes nothing else.
-/

set_option autoImplicit false

namespace Rasterm

namespace Renderer

/-- What is presented of a frame. -/
inductive Presentation where
  | nothing
  | full
  | patches (regions : List DamageRegion)
deriving DecidableEq, Repr

/-- The decision for a frame, and the renderer after the damage was looked at. -/
def presentation (host : Host) (renderer : Renderer) (frame : Frame) : Renderer × Presentation :=
  if !frame.isValid then (renderer, .nothing)
  else
    let current := renderer.adapt frame
    if !renderer.options.enableDirtyRegions then (current, .full)
    else
      let found := current.findDamage host frame
        (renderer.dimensionsChanged frame || renderer.frameIdentityChanged frame)
      if !found.2.hasChanges then (found.1, .nothing)
      else
        let planned := found.1.planPresentation host frame found.2
        (found.1, if planned.2 then .full else .patches planned.1)

/-- Encoding and presenting what was decided. -/
def carryOut (host : Host) (renderer : Renderer) (frame : Frame) (dimensionsChanged : Bool) :
    Presentation → Renderer × RenderResult
  | .nothing => (renderer, {})
  | .full => renderer.renderFull host frame dimensionsChanged
  | .patches regions => renderer.renderRegions host frame dimensionsChanged regions

variable {host : Host} {renderer : Renderer} {frame : Frame} {regions : List DamageRegion}

theorem renderFrame_eq (host : Host) (renderer : Renderer) (frame : Frame) :
    renderer.renderFrame host frame =
      (renderer.presentation host frame).1.carryOut host frame (renderer.dimensionsChanged frame)
        (renderer.presentation host frame).2 := by
  simp only [renderFrame, presentation]
  split_ifs <;> rfl

theorem otherDamage_presentation (host : Host) (renderer : Renderer) (frame : Frame) :
    renderer.OtherDamage (renderer.presentation host frame).1 := by
  have adapted := renderer.otherDamage_adapt frame
  have found := adapted.trans ((renderer.adapt frame).otherDamage_findDamage host frame
    (renderer.dimensionsChanged frame || renderer.frameIdentityChanged frame))
  simp only [presentation]
  split_ifs
  · exact ⟨⟨renderer.damage, renderer.usingSuppliedDamage, rfl⟩, rfl⟩
  · exact adapted
  · exact found
  · exact found
  · exact found

/-! ### Options -/

@[simp] theorem options_settle (renderer : Renderer) (frame : Frame) (succeeded : Bool) :
    (renderer.settle frame succeeded).options = renderer.options := by
  cases succeeded <;> rfl

theorem options_carryOut (host : Host) (renderer : Renderer) (frame : Frame) (changed : Bool)
    (decided : Presentation) :
    (renderer.carryOut host frame changed decided).1.options = renderer.options := by
  cases decided with
  | nothing => rfl
  | full =>
      simp only [carryOut, renderFull]
      split
      · rfl
      · rw [options_settle]
  | patches regions =>
      simp only [carryOut, renderRegions]
      split
      · rfl
      · rw [options_settle]

theorem options_render (host : Host) (renderer : Renderer) (frame : Frame) :
    (renderer.render host frame).1.options = renderer.options := by
  rw [render_eq]
  split_ifs
  · rcases (renderer.otherDamage_presentation host frame).same with ⟨damage, supplied, same⟩
    rw [renderFrame_eq, options_carryOut, same]
  · rfl

/-- Only the cell size can be changed later. -/
theorem sixelOptions_perform (host : Host) (renderer : Renderer) (call : Call) :
    (renderer.perform host call).options.sixel = renderer.options.sixel := by
  cases call with
  | render frame => exact congrArg RendererOptions.sixel (options_render host renderer frame)
  | clear => rfl
  | reset => rfl
  | updateCellPixels cellPixels =>
      simp only [perform, updateCellPixels]
      split_ifs <;> rfl

/-- Patches are planned from damage that does not ask for the full frame. -/
theorem planned_of_patches
    (decided : (renderer.presentation host frame).2 = .patches regions) :
    let changed := renderer.dimensionsChanged frame || renderer.frameIdentityChanged frame
    let found := (renderer.adapt frame).findDamage host frame changed
    frame.isValid = true ∧ renderer.options.enableDirtyRegions = true ∧
      (found.1.planPresentation host frame found.2).2 = false ∧
      (found.1.planPresentation host frame found.2).1 = regions := by
  simp only [presentation] at decided
  split_ifs at decided with invalid disabled unchanged full
  simp only [Bool.not_eq_true', Bool.not_eq_false] at invalid disabled
  exact ⟨invalid, disabled, Bool.eq_false_iff.mpr full, Presentation.patches.inj decided⟩

end Renderer

end Rasterm
