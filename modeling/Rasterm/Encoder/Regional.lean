import Rasterm.Encoder.Adaptive

/-!
Contract: full frames and damaged regions under the adaptive palette.

Owns the sequence of logical frames, each presented in full or region by region
with its own palettes, the run in which a full frame is mapped through the
palette of one region, and the law for every run in which `prepareFrame` rebuilds
after regional frames.
-/

set_option autoImplicit false

namespace Rasterm

open Rows

inductive LogicalFrame where
  | full (frame : FrameView)
  | regional (frame : FrameView) (regions : List DamageRegion)

namespace LogicalFrame

/-- Prepare and encode one region. -/
def presentRegion (host : Host) (frame : FrameView) (encoder : VideoSixelEncoder)
    (region : DamageRegion) : VideoSixelEncoder :=
  ((encoder.prepareRegion host frame region).encodeRegion host frame region).1

def present (host : Host) (encoder : VideoSixelEncoder) : LogicalFrame → VideoSixelEncoder
  | full frame => ((encoder.prepareFrame host frame).encodeFrame host frame).1
  | regional frame regions =>
      regions.foldl (presentRegion host frame) (encoder.prepareRegionalFrame host frame)

def presentAll (host : Host) (encoder : VideoSixelEncoder) (frames : List LogicalFrame) :
    VideoSixelEncoder :=
  frames.foldl (present host) encoder

/-- The complete frames among logical frames. -/
def complete (frames : List LogicalFrame) : List FrameView :=
  frames.filterMap fun
    | full frame => if frame.isValid then some frame else none
    | regional _ _ => none

/-- The palette built from the analysis of a frame. -/
def paletteOf (host : Host) (maxColors : Nat) (frame : FrameView) : FastAdaptiveColorMapper :=
  ({ maxColors := maxColors } : FastAdaptiveColorMapper).buildOptimalPalette host
    (({} : FastColorAnalyzer).analyzeFrameFast frame)

/-- The mapper holds the palette of one of the frames. -/
def FromComplete (host : Host) (mapper : FastAdaptiveColorMapper) (frames : List FrameView) :
    Prop :=
  ∃ frame ∈ frames, mapper.SamePalette (paletteOf host mapper.maxColors frame)

/-- A frame presented in full is mapped through a palette built from the analysis of a
complete frame: itself or an earlier one. -/
def MappedThroughComplete (host : Host) (encoder : VideoSixelEncoder) (earlier : List LogicalFrame)
    (frame : FrameView) : Prop :=
  FromComplete host ((encoder.prepareFrame host frame).mapped host frame).colorMapper
    (complete (earlier ++ [full frame]))

/-- The palette in use was last built from a region: a regional frame with a region
came after the last complete frame. -/
def regionalPalette (frames : List LogicalFrame) : Bool :=
  frames.foldl
    (fun held logical =>
      match logical with
      | full frame => held && !frame.isValid
      | regional frame regions => held || (frame.isValid && regions.any fun region => region.isValid))
    false

end LogicalFrame

/-! ### One frame -/

namespace VideoSixelEncoder

variable {encoder : VideoSixelEncoder}

theorem encodeView_frame (host : Host) (encoder : VideoSixelEncoder) (frame : FrameView) :
    (encoder.encodeView host frame).1.options = (encoder.mapped host frame).options ∧
      (encoder.encodeView host frame).1.colorMapper = (encoder.mapped host frame).colorMapper ∧
      (encoder.encodeView host frame).1.hasAdaptivePalette =
        (encoder.mapped host frame).hasAdaptivePalette ∧
      (encoder.encodeView host frame).1.paletteAge = (encoder.mapped host frame).paletteAge ∧
      (encoder.encodeView host frame).1.adaptiveFramePrepared =
        (encoder.mapped host frame).adaptiveFramePrepared := by
  obtain ⟨scratch, state⟩ := encodeView_state host encoder frame
  rw [state, shouldEmitPalette_frame]
  exact ⟨rfl, rfl, rfl, rfl, rfl⟩

/-- A prepared encoder maps through the palette it was prepared with. -/
theorem mapped_prepared (host : Host)
    (adaptive : encoder.options.useAdaptivePalette = true)
    (prepared : encoder.adaptiveFramePrepared = true) (frame : FrameView) :
    (encoder.mapped host frame).colorMapper = encoder.colorMapper ∧
      (encoder.mapped host frame).hasAdaptivePalette = encoder.hasAdaptivePalette ∧
      (encoder.mapped host frame).adaptiveFramePrepared = encoder.adaptiveFramePrepared := by
  simp only [mapped, mapPixels, adaptive, prepared, if_true]
  exact ⟨rfl, rfl, rfl⟩

theorem beginLogicalFrame_frame (encoder : VideoSixelEncoder) :
    encoder.beginLogicalFrame =
      { encoder with framesSincePaletteRefresh :=
          encoder.beginLogicalFrame.framesSincePaletteRefresh } := by
  unfold beginLogicalFrame
  split_ifs <;> rfl

/-- Preparing a valid frame rebuilds the palette from it or keeps it. -/
theorem prepareFrame_spec (host : Host) (adaptive : encoder.options.useAdaptivePalette = true)
    {frame : FrameView} (valid : frame.isValid = true) :
    (encoder.prepareFrame host frame).options = encoder.options ∧
      (encoder.prepareFrame host frame).adaptiveFramePrepared = true ∧
      (encoder.prepareFrame host frame).hasAdaptivePalette = true ∧
      (encoder.prepareFrame host frame).colorMapper =
        if encoder.mustRebuild host (encoder.analyzer.analyzeFrameFast frame) then
          encoder.colorMapper.buildOptimalPalette host (encoder.analyzer.analyzeFrameFast frame)
        else encoder.colorMapper := by
  have begun := beginLogicalFrame_frame encoder
  have accepted : (!encoder.options.useAdaptivePalette || !frame.isValid) = false := by
    rw [adaptive, valid]
    rfl
  have same : { encoder.beginLogicalFrame with adaptiveFramePrepared := false }.mustRebuild host
      (encoder.beginLogicalFrame.analyzer.analyzeFrameFast frame) =
      encoder.mustRebuild host (encoder.analyzer.analyzeFrameFast frame) := by
    rw [begun]
    rfl
  simp only [prepareFrame, accepted, Bool.false_eq_true, if_false, adaptPalette, same]
  by_cases rebuilds : encoder.mustRebuild host (encoder.analyzer.analyzeFrameFast frame) = true
  · simp only [rebuilds, if_true, rebuild]
    rw [begun]
    exact ⟨rfl, trivial, trivial, rfl⟩
  · have has : encoder.hasAdaptivePalette = true := by
      simp only [mustRebuild, Bool.or_eq_true, Bool.not_eq_true', not_or] at rebuilds
      simpa using rebuilds.1.1
    simp only [rebuilds, Bool.false_eq_true, if_false]
    rw [begun]
    exact ⟨rfl, trivial, has, rfl⟩

end VideoSixelEncoder

/-! ### Runs -/

namespace LogicalFrame

variable {host : Host} {encoder : VideoSixelEncoder} {frames : List LogicalFrame}

theorem complete_snoc (frames : List LogicalFrame) (frame : FrameView) :
    complete (frames ++ [full frame]) =
      complete frames ++ (if frame.isValid then [frame] else []) := by
  rw [complete, List.filterMap_append]
  congr 1
  cases valid : frame.isValid <;> simp [valid]

theorem FromComplete.mono {mapper : FastAdaptiveColorMapper} {left right : List FrameView}
    (from_left : FromComplete host mapper left) (inclusion : left ⊆ right) :
    FromComplete host mapper right := by
  obtain ⟨frame, member, same⟩ := from_left
  exact ⟨frame, inclusion member, same⟩

/-- A build from a complete frame gives that frame's palette. -/
theorem fromComplete_build (host : Host) (mapper : FastAdaptiveColorMapper)
    (analyzer : FastColorAnalyzer) (frames : List FrameView) {frame : FrameView}
    (member : frame ∈ frames) :
    FromComplete host (mapper.buildOptimalPalette host (analyzer.analyzeFrameFast frame))
      frames := by
  refine ⟨frame, member, ?_⟩
  rw [paletteOf, FastAdaptiveColorMapper.maxColors_buildOptimalPalette]
  exact @FastAdaptiveColorMapper.buildOptimalPalette_congr host mapper
    { maxColors := mapper.maxColors } rfl _ _
    (FastColorAnalyzer.analyzeFrameFast_congr analyzer {} frame).1

/-- The palette held comes from a complete frame, unless it was built from a region. -/
structure Tracks (host : Host) (options : SixelOptions) (frames : List LogicalFrame)
    (encoder : VideoSixelEncoder) : Prop where
  options : encoder.options = options
  source : encoder.hasAdaptivePalette = true → regionalPalette frames = false →
    FromComplete host encoder.colorMapper (complete frames)

variable {options : SixelOptions}

/-- The mapper a full frame is mapped through. -/
private theorem Tracks.fromComplete (tracks : Tracks host options frames encoder)
    (adaptive : options.useAdaptivePalette = true) {frame : FrameView}
    (valid : frame.isValid = true)
    (rebuilds : regionalPalette frames = true →
      encoder.mustRebuild host (encoder.analyzer.analyzeFrameFast frame) = true) :
    FromComplete host (encoder.prepareFrame host frame).colorMapper
      (complete (frames ++ [full frame])) := by
  obtain ⟨-, -, -, mapper⟩ :=
    VideoSixelEncoder.prepareFrame_spec host (tracks.options ▸ adaptive) valid
  rw [mapper, complete_snoc, if_pos valid]
  split_ifs with rebuilt
  · exact fromComplete_build host _ _ _ (by simp)
  · have has : encoder.hasAdaptivePalette = true := by
      simp only [VideoSixelEncoder.mustRebuild, Bool.or_eq_true, Bool.not_eq_true', not_or]
        at rebuilt
      simpa using rebuilt.1.1
    have notRegional : regionalPalette frames = false := by
      by_contra regional
      exact rebuilt (rebuilds (by simpa using regional))
    exact (tracks.source has notRegional).mono (List.subset_append_left _ _)

/-- The frame is encoded with the palette it was prepared with. -/
private theorem Tracks.mapped_full (tracks : Tracks host options frames encoder)
    (adaptive : options.useAdaptivePalette = true) {frame : FrameView}
    (valid : frame.isValid = true) :
    ((encoder.prepareFrame host frame).mapped host frame).colorMapper =
        (encoder.prepareFrame host frame).colorMapper := by
  obtain ⟨sameOptions, prepared, -, -⟩ :=
    VideoSixelEncoder.prepareFrame_spec host (tracks.options ▸ adaptive) valid
  exact (VideoSixelEncoder.mapped_prepared host
    (by rw [sameOptions, tracks.options, adaptive]) prepared frame).1

private theorem Tracks.full (tracks : Tracks host options frames encoder)
    (adaptive : options.useAdaptivePalette = true) (frame : FrameView)
    (rebuilds : frame.isValid = true → regionalPalette frames = true →
      encoder.mustRebuild host (encoder.analyzer.analyzeFrameFast frame) = true) :
    Tracks host options (frames ++ [.full frame]) (present host encoder (.full frame)) := by
  cases valid : frame.isValid with
  | true =>
      obtain ⟨sameOptions, prepared, has, -⟩ :=
        VideoSixelEncoder.prepareFrame_spec host (tracks.options ▸ adaptive) valid
      obtain ⟨options, mapper, -, -, -⟩ :=
        VideoSixelEncoder.encodeView_frame host (encoder.prepareFrame host frame) frame
      have mappedOptions := (VideoSixelEncoder.mapped_frame host
        (encoder.prepareFrame host frame) frame).1
      have presented : present host encoder (.full frame) =
          ((encoder.prepareFrame host frame).encodeView host frame).1 := by
        simp only [present, VideoSixelEncoder.encodeFrame, valid, if_true]
      rw [presented]
      refine ⟨?_, ?_⟩
      · rw [options, mappedOptions, sameOptions, tracks.options]
      · intro _ _
        rw [mapper, tracks.mapped_full adaptive valid]
        exact tracks.fromComplete adaptive valid (rebuilds valid)
  | false =>
      have begun := VideoSixelEncoder.beginLogicalFrame_frame encoder
      have presented : present host encoder (.full frame) =
          { encoder.beginLogicalFrame with adaptiveFramePrepared := false } := by
        simp only [present, VideoSixelEncoder.encodeFrame, VideoSixelEncoder.prepareFrame, valid,
          Bool.not_false, Bool.or_true, if_true, Bool.false_eq_true, if_false]
      have sameRegional : regionalPalette (frames ++ [.full frame]) = regionalPalette frames := by
        simp [regionalPalette, valid]
      rw [presented, begun]
      refine ⟨tracks.options, ?_⟩
      intro has notRegional
      rw [complete_snoc, valid]
      rw [sameRegional] at notRegional
      simpa using tracks.source has notRegional

/-- A region keeps the options; one that is skipped changes nothing. -/
private theorem presentRegion_spec (encoder : VideoSixelEncoder) (frame : FrameView)
    (region : DamageRegion) :
    (presentRegion host frame encoder region).options = encoder.options ∧
      ((frame.isValid && region.isValid) = false →
        presentRegion host frame encoder region = encoder) := by
  have sameOptions : (encoder.prepareRegion host frame region).options = encoder.options := by
    unfold VideoSixelEncoder.prepareRegion VideoSixelEncoder.rebuild
    split_ifs <;> rfl
  refine ⟨?_, ?_⟩
  · unfold presentRegion VideoSixelEncoder.encodeRegion
    split_ifs
    · rw [(VideoSixelEncoder.encodeView_frame host _ _).1,
        (VideoSixelEncoder.mapped_frame host _ _).1, sameOptions]
    · exact sameOptions
  · intro skipped
    have unprepared : encoder.prepareRegion host frame region = encoder := by
      unfold VideoSixelEncoder.prepareRegion
      rw [if_pos]
      rcases Bool.and_eq_false_iff.mp skipped with invalid | invalid <;> simp [invalid]
    have rejected : (frame.isValid &&
        VideoSixelEncoder.regionInside region frame.width frame.height) = false := by
      rcases Bool.and_eq_false_iff.mp skipped with invalid | invalid <;>
        simp [VideoSixelEncoder.regionInside, invalid]
    simp only [presentRegion, unprepared, VideoSixelEncoder.encodeRegion, rejected,
      Bool.false_eq_true, if_false]

private theorem foldl_presentRegion (frame : FrameView) (regions : List DamageRegion)
    (encoder : VideoSixelEncoder) :
    (regions.foldl (presentRegion host frame) encoder).options = encoder.options ∧
      ((frame.isValid && regions.any fun region => region.isValid) = false →
        regions.foldl (presentRegion host frame) encoder = encoder) := by
  induction regions generalizing encoder with
  | nil => exact ⟨rfl, fun _ => rfl⟩
  | cons region regions inductionHypothesis =>
      obtain ⟨sameOptions, skip⟩ := @presentRegion_spec host encoder frame region
      obtain ⟨restOptions, restSkip⟩ :=
        inductionHypothesis (presentRegion host frame encoder region)
      refine ⟨restOptions.trans sameOptions, ?_⟩
      intro skipped
      rw [List.any_cons, Bool.and_or_distrib_left, Bool.or_eq_false_iff] at skipped
      rw [List.foldl_cons, restSkip skipped.2, skip skipped.1]

private theorem Tracks.regional (tracks : Tracks host options frames encoder)
    (adaptive : options.useAdaptivePalette = true)
    (independent : options.independentRegionQuantization = true) (frame : FrameView)
    (regions : List DamageRegion) :
    Tracks host options (frames ++ [.regional frame regions])
      (present host encoder (.regional frame regions)) := by
  have begun := VideoSixelEncoder.beginLogicalFrame_frame encoder
  have prepared : encoder.prepareRegionalFrame host frame =
      { encoder.beginLogicalFrame with adaptiveFramePrepared := false } := by
    simp only [VideoSixelEncoder.prepareRegionalFrame, tracks.options, adaptive, independent,
      Bool.and_self, if_true]
  obtain ⟨sameOptions, skip⟩ := @foldl_presentRegion host frame regions
    (encoder.prepareRegionalFrame host frame)
  refine ⟨?_, ?_⟩
  · rw [present, sameOptions, prepared, begun]
    exact tracks.options
  · intro has notRegional
    have split : regionalPalette (frames ++ [.regional frame regions]) =
        (regionalPalette frames ||
          (frame.isValid && regions.any fun region => region.isValid)) := by
      simp [regionalPalette]
    rw [split, Bool.or_eq_false_iff] at notRegional
    have sameFrames : complete (frames ++ [.regional frame regions]) = complete frames := by
      simp [complete]
    rw [present, skip notRegional.2, prepared, begun] at has ⊢
    rw [sameFrames]
    exact tracks.source has notRegional.1

theorem tracks_create (host : Host) (options : SixelOptions) (scratch : Scratch) :
    Tracks host options.clamped [] (VideoSixelEncoder.create host options scratch) :=
  ⟨rfl, fun has => by cases has⟩

/-- What every run keeps whose full frames rebuild a region's palette. -/
theorem Tracks.presentAll {options : SixelOptions} {scratch : Scratch}
    (adaptive : options.useAdaptivePalette = true)
    (independent : options.independentRegionQuantization = true) (frames : List LogicalFrame)
    (rebuilds : ∀ before frame after, frames = before ++ LogicalFrame.full frame :: after →
      frame.isValid = true → regionalPalette before = true →
      (LogicalFrame.presentAll host (.create host options scratch) before).mustRebuild host
        ((LogicalFrame.presentAll host (.create host options scratch)
          before).analyzer.analyzeFrameFast frame) = true) :
    Tracks host options.clamped frames
      (LogicalFrame.presentAll host (.create host options scratch) frames) := by
  induction frames using List.reverseRecOn with
  | nil => exact tracks_create host options scratch
  | append_singleton frames logical inductionHypothesis =>
      have before := inductionHypothesis fun earlier frame later split =>
        rebuilds earlier frame (later ++ [logical]) (by simp [split])
      have last : LogicalFrame.presentAll host (.create host options scratch) (frames ++ [logical]) =
          present host (LogicalFrame.presentAll host (.create host options scratch) frames)
            logical := by
        rw [LogicalFrame.presentAll, List.foldl_append]
        rfl
      rw [last]
      cases logical with
      | full frame => exact before.full adaptive frame (rebuilds frames frame [] rfl)
      | regional frame regions => exact before.regional adaptive independent frame regions

/-- In a run in which every full frame that finds a region's palette in use triggers
the rebuild test of `prepareFrame`, every full frame is mapped through the palette of
a complete frame. -/
theorem mappedThroughComplete_of_rebuild (host : Host) (options : SixelOptions)
    (scratch : Scratch) (adaptive : options.useAdaptivePalette = true)
    (independent : options.independentRegionQuantization = true) (frames : List LogicalFrame)
    (rebuilds : ∀ before frame after, frames = before ++ full frame :: after →
      frame.isValid = true → regionalPalette before = true →
      (presentAll host (.create host options scratch) before).mustRebuild host
        ((presentAll host (.create host options scratch) before).analyzer.analyzeFrameFast
          frame) = true) :
    ∀ before frame after, frames = before ++ full frame :: after → frame.isValid = true →
      MappedThroughComplete host (presentAll host (.create host options scratch) before) before
        frame := by
  intro before frame after split valid
  have tracks := @Tracks.presentAll host options scratch adaptive independent before
    fun earlier chosen later prefixSplit =>
      rebuilds earlier chosen (later ++ full frame :: after) (by simp [split, prefixSplit])
  rw [MappedThroughComplete, tracks.mapped_full adaptive valid]
  exact tracks.fromComplete adaptive valid (rebuilds before frame after split valid)

/-! ### A full frame through a region's palette -/

/-- Adaptive palettes, regions with palettes of their own. -/
def regionalOptions : SixelOptions :=
  { useAdaptivePalette := true, independentRegionQuantization := true }

/-- A row of thirteen dark red pixels, of which the last may be dark green. -/
def darkRow (lastIsGreen : Bool) : FrameView where
  data := some fun offset =>
    if lastIsGreen && offset / 3 == 12 then (if offset % 3 = 1 then 1 else 0)
    else if offset % 3 = 0 then 1 else 0
  width := 13
  height := 1
  stride := 39

/-- The red row in full, then the pixel that turned green as a region. -/
def redThenGreen : List LogicalFrame :=
  [.full (darkRow false), .regional (darkRow true) [⟨12, 0, 1, 1⟩]]

/-- Without a lock interval the last full frame rebuilds the region's palette. -/
theorem mappedThroughComplete_unlocked :
    MappedThroughComplete Host.plain
      (presentAll Host.plain
        (.create Host.plain { regionalOptions with adaptivePaletteLockFrames := 0 } {})
        redThenGreen)
      redThenGreen (darkRow true) := by
  refine mappedThroughComplete_of_rebuild Host.plain
    { regionalOptions with adaptivePaletteLockFrames := 0 } {} rfl rfl
    (redThenGreen ++ [full (darkRow true)]) ?_ redThenGreen (darkRow true) [] rfl (by decide)
  intro before frame after split _ regional
  simp only [redThenGreen, List.cons_append, List.nil_append] at split
  match before, split with
  | [], _ => cases regional
  | [_], split =>
      simp only [List.cons_append, List.nil_append, List.cons.injEq] at split
      cases split.2.1
  | [_, _], split =>
      simp only [List.cons_append, List.nil_append, List.cons.injEq, full.injEq] at split
      obtain ⟨rfl, rfl, rfl, -⟩ := split
      decide +kernel
  | _ :: _ :: _ :: rest, split =>
      have length := congrArg List.length split
      simp only [List.length_append, List.length_cons, List.length_nil] at length
      omega

/-- Presented in full afterwards, the row is mapped through the region's palette: both
samples fall in one luminance bin, so the rebuild test sees no difference. -/
theorem mappedThroughRegion :
    ¬ MappedThroughComplete Host.plain
      (presentAll Host.plain (.create Host.plain regionalOptions {}) redThenGreen) redThenGreen
        (darkRow true) := by
  rintro ⟨frame, member, same⟩
  have frames : complete (redThenGreen ++ [full (darkRow true)]) =
      [darkRow false, darkRow true] := by
    have red : (darkRow false).isValid = true := by decide
    have green : (darkRow true).isValid = true := by decide
    simp [complete, redThenGreen, red, green]
  rw [frames] at member
  have palettes : ∀ lastIsGreen : Bool,
      (((presentAll Host.plain (.create Host.plain regionalOptions {}) redThenGreen).prepareFrame
          Host.plain (darkRow true)).mapped Host.plain (darkRow true)).colorMapper.palette ≠
        (paletteOf Host.plain
          (((presentAll Host.plain (.create Host.plain regionalOptions {})
            redThenGreen).prepareFrame Host.plain (darkRow true)).mapped Host.plain
              (darkRow true)).colorMapper.maxColors (darkRow lastIsGreen)).palette := by
    decide +kernel
  rcases List.mem_cons.mp member with first | second
  · rw [first] at same
    exact palettes false same.palette
  · rw [List.mem_singleton.mp second] at same
    exact palettes true same.palette

end LogicalFrame

end Rasterm
