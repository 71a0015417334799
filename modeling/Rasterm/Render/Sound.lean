import Rasterm.Encoder.Twin
import Rasterm.Render.Partial

/-!
Contract: what every call keeps of a renderer, whatever the sink refuses.

Owns the parts fixed by the options (encoder kind, tracker options, cell size), that
no update stays open, and that `reset` leaves nothing of the frames before.
-/

set_option autoImplicit false

namespace Rasterm

open TerminalRenderer

namespace VideoSixelEncoder

theorem sameKind_reset (encoder : VideoSixelEncoder) : encoder.reset.SameKind encoder :=
  ⟨rfl, rfl, rfl⟩

theorem sameKind_setOutputLimit (encoder : VideoSixelEncoder) (maximumBytes : Nat) :
    (encoder.setOutputLimit maximumBytes).SameKind encoder := ⟨rfl, rfl, rfl⟩

end VideoSixelEncoder

namespace Renderer

/-- Patches on cell boundaries lie inside the frame. -/
theorem regionInside_of_placed {region : DamageRegion} {cells : TerminalCellPixels}
    {width height : Int} (placed : region.Placed cells width height) :
    VideoSixelEncoder.regionInside region width height = true := by
  obtain ⟨left, top, widthPos, heightPos, right, bottom⟩ := placed.inside
  simp [VideoSixelEncoder.regionInside, DamageRect.isValid, left, top, widthPos, heightPos, right,
    bottom]

/-! ### What every call keeps -/

/-- The parts fixed by the options, and no update left open. -/
structure Sound (host : Host) (renderer : Renderer) : Prop where
  kind : renderer.backend.SameKind (VideoSixelEncoder.create host renderer.options.sixel {})
  adapted : renderer.backend.Adapted
  tracker : renderer.damage.options =
    (DamageTracker.create (trackerOptions renderer.options.damage
      renderer.options.cellPixels)).options
  positive : renderer.options.cellPixels.Positive
  inactive : renderer.terminal.updateActive = false

namespace Sound

variable {host : Host} {renderer : Renderer}

theorem create (host : Host) {options : RendererOptions} (positive : options.cellPixels.Positive)
    (scratch : Scratch) (sink : OutputSink) :
    (Renderer.create host options scratch sink).Sound host where
  kind := ⟨rfl, rfl, rfl⟩
  adapted := VideoSixelEncoder.adapted_create host options.sixel scratch
  tracker := rfl
  positive := positive
  inactive := (keeps_create sink options.useAlternateScreen).updateActive

theorem tiling (sound : renderer.Sound host) :
    renderer.damage.TilesCells renderer.options.cellPixels :=
  tilesCells_trackerOptions sound.positive sound.tracker

theorem withBackend (sound : renderer.Sound host) {backend : VideoSixelEncoder}
    (kind : backend.SameKind renderer.backend) (adapted : backend.Adapted) :
    Sound host { renderer with backend := backend } :=
  { sound with kind := kind.trans sound.kind, adapted := adapted }

theorem withTerminal (sound : renderer.Sound host) {terminal : TerminalRenderer}
    (inactive : terminal.updateActive = false) :
    Sound host { renderer with terminal := terminal } :=
  { sound with inactive := inactive }

theorem reset (sound : renderer.Sound host) : renderer.reset.Sound host where
  kind := (VideoSixelEncoder.sameKind_reset _).trans sound.kind
  adapted := sound.adapted.reset
  tracker := sound.tracker
  positive := sound.positive
  inactive := sound.inactive

theorem settle (sound : renderer.Sound host) (frame : Frame) (succeeded : Bool) :
    (renderer.settle frame succeeded).Sound host := by
  cases succeeded with
  | true => exact { sound with }
  | false => exact sound.reset

theorem otherDamage (sound : renderer.Sound host) {other : Renderer}
    (looked : renderer.OtherDamage other) : other.Sound host := by
  obtain ⟨⟨damage, supplied, same⟩, options⟩ := looked
  subst same
  exact { sound with tracker := options.trans sound.tracker }

theorem fullEncoder (sound : renderer.Sound host) (frame : Frame) :
    (renderer.fullEncoder host frame).Adapted :=
  (sound.adapted.prepare host frame).setOutputLimit renderer.options.maximumOutputBytes

theorem fullEncoder_kind (sound : renderer.Sound host) (frame : Frame) :
    (renderer.fullEncoder host frame).SameKind
      (VideoSixelEncoder.create host renderer.options.sixel {}) :=
  ((VideoSixelEncoder.sameKind_setOutputLimit _ _).trans
    (VideoSixelEncoder.sameKind_prepare host renderer.backend frame)).trans sound.kind

theorem encodedFull_backend (sound : renderer.Sound host) (frame : Frame) :
    Sound host { renderer with backend := (renderer.encodedFull host frame).1 } := by
  have prepared := VideoSixelEncoder.sameKind_prepare host renderer.backend frame
  exact sound.withBackend
    ((VideoSixelEncoder.sameKind_encode host _ frame).trans
      ((VideoSixelEncoder.sameKind_setOutputLimit _ _).trans prepared))
    ((sound.fullEncoder frame).encode host frame)

theorem encodedPatches_backend (sound : renderer.Sound host) (frame : Frame)
    (regions : List DamageRegion) :
    Sound host
      { renderer with backend := (renderer.encodedPatches host frame regions).1.backend } := by
  have prepared := VideoSixelEncoder.sameKind_prepareRegional host renderer.backend frame
  obtain ⟨⟨kind, adapted⟩, -⟩ := @encodeRegions_spec host frame
    renderer.options.maximumOutputBytes
    (fun backend => backend.SameKind renderer.backend ∧ backend.Adapted)
    (fun _ region limit kept =>
      ⟨(VideoSixelEncoder.sameKind_setOutputLimit _ _).trans
        ((VideoSixelEncoder.sameKind_prepareArea host _ region frame).trans kept.1),
        (kept.2.prepareArea host region frame).setOutputLimit limit⟩)
    (fun _ region kept =>
      ⟨(VideoSixelEncoder.sameKind_encodeArea host _ region frame).trans kept.1,
        kept.2.encodeArea host region frame⟩)
    regions { backend := renderer.backend.prepareRegional host frame }
    ⟨prepared, sound.adapted.prepareRegional host frame⟩
  exact sound.withBackend kind adapted

theorem renderFull (sound : renderer.Sound host) (frame : Frame) (changed : Bool) :
    (renderer.renderFull host frame changed).1.Sound host := by
  have encoded := sound.encodedFull_backend frame
  simp only [Renderer.renderFull]
  split
  · exact encoded.reset
  · exact (encoded.withTerminal (updateActive_endSynchronizedUpdate _)).settle frame _

theorem renderRegions (sound : renderer.Sound host) (frame : Frame) (changed : Bool)
    (regions : List DamageRegion) :
    (renderer.renderRegions host frame changed regions).1.Sound host := by
  have encoded := sound.encodedPatches_backend frame regions
  simp only [Renderer.renderRegions]
  split
  · exact encoded.reset
  · exact (encoded.withTerminal (updateActive_endSynchronizedUpdate _)).settle frame _

theorem renderFrame (sound : renderer.Sound host) (frame : Frame) :
    (renderer.renderFrame host frame).1.Sound host := by
  obtain ⟨current, looked, answered⟩ := renderer.answered_renderFrame host frame
  have found := sound.otherDamage looked
  generalize renderer.renderFrame host frame = answer at answered ⊢
  cases answered with
  | unchanged => exact found
  | full => exact found.renderFull frame _
  | patches regions => exact found.renderRegions frame _ regions

theorem perform (sound : renderer.Sound host) (call : Call) :
    (renderer.perform host call).Sound host := by
  cases call with
  | render frame =>
      simp only [Renderer.perform, render_eq]
      split_ifs
      · exact sound.renderFrame frame
      · exact sound
  | clear =>
      have sent := renderer.terminal.keeps_clearAndHome
      exact (sound.withTerminal (sent.updateActive.trans sound.inactive)).reset
  | reset => exact sound.reset
  | updateCellPixels cellPixels =>
      simp only [Renderer.perform, updateCellPixels]
      split_ifs with ignored
      · exact sound
      · simp only [not_or, not_le] at ignored
        exact
          { kind := sound.kind
            adapted := sound.adapted
            tracker := rfl
            positive := ⟨ignored.1, ignored.2.1⟩
            inactive := sound.inactive }

/-- After `reset` nothing is left of the frames before. -/
theorem reset_eq_create (sound : renderer.Sound host) (scratch : Scratch) (sink : OutputSink) :
    renderer.reset.damage =
        (Renderer.create host renderer.options scratch sink).damage ∧
      renderer.reset.backend.Twin
        (Renderer.create host renderer.options scratch sink).backend := by
  constructor
  · have options := sound.tracker
    simp only [Renderer.reset, forget, DamageTracker.reset, Renderer.create, options]
    rfl
  · exact VideoSixelEncoder.twin_reset_create
      ⟨sound.kind.options, sound.kind.table, sound.kind.maxColors⟩

end Sound

end Renderer

end Rasterm
