import Rasterm.Engine.Engine
import Rasterm.Render.Resize

/-!
Contract: after a reset, the next frame an engine presents is presented in full.

Owns what a render makes of a renderer that remembers nothing, for either kind of
frame, checked or trusted, and what of it survives the engine around the renderer.
-/

set_option autoImplicit false

namespace Rasterm

namespace Renderer

variable {host : Host} {renderer : Renderer} {frame : Frame}

/-- A frame that was presented was presented in full; otherwise nothing is remembered. -/
def Redraws (answer : Renderer × RenderResult) : Prop :=
  (answer.2.rendered = true → answer.2.usedFullFrame = true) ∧
    (answer.2.rendered = false → answer.1.Forgotten)

theorem usedFullFrame_renderFull (host : Host) (renderer : Renderer) (frame : Frame)
    (changed : Bool) :
    (renderer.renderFull host frame changed).2.rendered = true →
      (renderer.renderFull host frame changed).2.usedFullFrame = true := by
  by_cases exceeded : (renderer.encodedFull host frame).1.limitExceeded = true
  · rw [renderFull_of_exceeded exceeded]
    exact fun presented => by cases presented
  · rw [renderFull_of_fits (Bool.eq_false_iff.mpr exceeded)]
    exact fun _ => rfl

theorem redraws_renderFrame (sound : renderer.Sound host) (forgotten : renderer.Forgotten)
    (frame : Frame) : Redraws (renderer.renderFrame host frame) := by
  by_cases valid : frame.isValid = true
  · obtain ⟨current, -, same⟩ := renderFrame_of_forgotten host valid sound.positive sound.tiling
      forgotten.previousWidth forgotten.previousFormatTag (forgotten.shape valid)
    rw [same]
    have concluded := @concluded_carryOut host current frame false .full
      (fun none => by cases none)
    refine ⟨current.usedFullFrame_renderFull host frame false, fun unpresented => ?_⟩
    rcases concluded with ⟨presented, -⟩ | ⟨-, -, forgets⟩
    · exact absurd (presented.symm.trans unpresented) (by decide)
    · exact forgets
  · rw [renderFrame, if_pos (by simpa using valid)]
    exact ⟨(fun presented => by cases presented), fun _ => forgotten⟩

theorem redraws_render (sound : renderer.Sound host) (forgotten : renderer.Forgotten)
    (frame : Frame) : Redraws (renderer.render host frame) := by
  rw [render_eq]
  split_ifs
  · exact redraws_renderFrame sound forgotten frame
  · exact ⟨(fun presented => by cases presented), fun _ => forgotten⟩

end Renderer

namespace Engine

variable {host : Host} {engine : Engine} {observed : TerminalGeometry}

@[simp] theorem renderer_record (result : RenderResult) (width height : Int)
    (metadata : FrameMetadata) :
    (engine.record result width height metadata).1.renderer = engine.renderer := by
  simp only [record]
  split_ifs <;> rfl

theorem stats_record (result : RenderResult) (width height : Int) (metadata : FrameMetadata) :
    (engine.record result width height metadata).2.rendered = result.rendered ∧
      (engine.record result width height metadata).2.fullFrame = result.usedFullFrame := by
  simp only [record]
  split_ifs <;> exact ⟨rfl, rfl⟩

@[simp] theorem renderer_colorManaged (frame : FrameView) :
    (engine.colorManaged host frame).1.renderer = engine.renderer := by
  simp only [colorManaged, unpack]
  split_ifs <;> rfl

theorem sound_refreshTerminalGeometry (sound : engine.renderer.Sound host) :
    (engine.refreshTerminalGeometry observed).renderer.Sound host := by
  simp only [refreshTerminalGeometry]
  split_ifs
  · exact sound
  · exact sound
  · exact (sound.perform (.updateCellPixels _)).reset

theorem forgotten_refreshTerminalGeometry (forgotten : engine.renderer.Forgotten) :
    (engine.refreshTerminalGeometry observed).renderer.Forgotten := by
  simp only [refreshTerminalGeometry]
  split_ifs
  · exact forgotten
  · exact forgotten
  · exact Renderer.forgotten_reset _

/-- What a call leaves of an engine whose renderer is sound, and if it remembered nothing. -/
structure Redraws (host : Host) (engine : Engine) (answer : Engine × RenderStats) : Prop where
  sound : answer.1.renderer.Sound host
  full : engine.renderer.Forgotten → answer.2.rendered = true → answer.2.fullFrame = true
  forgotten : engine.renderer.Forgotten → answer.2.rendered = false →
    answer.1.renderer.Forgotten

theorem redraws_invalidFrame (sound : engine.renderer.Sound host) (message : String) :
    engine.Redraws host (engine.invalidFrame message) where
  sound := sound
  full := fun _ presented => by cases presented
  forgotten := fun forgotten _ => forgotten

/-- The bookkeeping around the renderer changes nothing of this. -/
theorem redraws_record {current : Engine} {answer : Renderer × RenderResult}
    (sound : answer.1.Sound host)
    (redraws : engine.renderer.Forgotten → Renderer.Redraws answer) (width height : Int)
    (metadata : FrameMetadata) :
    engine.Redraws host
      ({ current with renderer := answer.1 }.record answer.2 width height metadata) := by
  obtain ⟨rendered, full⟩ :=
    @stats_record { current with renderer := answer.1 } answer.2 width height metadata
  constructor
  · rw [renderer_record]
    exact sound
  · intro forgotten presented
    rw [rendered] at presented
    rw [full]
    exact (redraws forgotten).1 presented
  · intro forgotten unpresented
    rw [rendered] at unpresented
    rw [renderer_record]
    exact (redraws forgotten).2 unpresented

theorem redraws_renderPackedFrame (sound : engine.renderer.Sound host) (frame : FrameView) :
    engine.Redraws host (engine.renderPackedFrame host observed frame) := by
  unfold renderPackedFrame
  split_ifs
  · exact redraws_invalidFrame sound _
  · have refreshed := @sound_refreshTerminalGeometry host engine observed sound
    apply redraws_record
    · rw [renderer_colorManaged]
      exact refreshed.perform (.render _)
    · intro forgotten
      rw [renderer_colorManaged]
      exact Renderer.redraws_render refreshed (forgotten_refreshTerminalGeometry forgotten) _

theorem redraws_renderValidatedIndexedFrame (sound : engine.renderer.Sound host)
    (frame : IndexedFrameView) :
    engine.Redraws host (engine.renderValidatedIndexedFrame host observed frame) := by
  unfold renderValidatedIndexedFrame
  split_ifs
  · exact redraws_invalidFrame sound _
  · have refreshed := @sound_refreshTerminalGeometry host engine observed sound
    apply redraws_record
    · exact refreshed.renderFrame _
    · intro forgotten
      exact Renderer.redraws_renderFrame refreshed
        (forgotten_refreshTerminalGeometry forgotten) _

theorem redraws_renderFrame (sound : engine.renderer.Sound host) (frame : Frame) :
    engine.Redraws host (engine.renderFrame host observed frame) := by
  cases frame with
  | packed view => exact redraws_renderPackedFrame sound view
  | indexed view =>
      show engine.Redraws host (engine.renderIndexedFrame host observed view)
      unfold renderIndexedFrame
      split_ifs
      · exact redraws_invalidFrame sound _
      · exact redraws_renderValidatedIndexedFrame sound view

end Engine

end Rasterm
