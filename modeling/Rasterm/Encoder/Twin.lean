import Rasterm.Encoder.Table

/-!
Contract: encoders that no later call can tell apart.

Owns what every operation keeps of an encoder (its kind: options, fixed table,
size of the adaptive palette), the relation between two encoders of one kind that
all operations preserve and under which they return the same bytes, and the fact
that `reset` leads back to a new encoder up to this relation. Scratch vectors,
marks, analyses and a palette out of use may differ.
-/

set_option autoImplicit false

namespace Rasterm

open Rows Sixel

theorem FastColorMapper.reset_congr {left right : FastColorMapper}
    (colors : left.colorNumToRgb = right.colorNumToRgb)
    (lookup : left.rgbLookup32 = right.rgbLookup32) : left.reset = right.reset := by
  cases left
  cases right
  subst colors
  subst lookup
  rfl

namespace VideoSixelEncoder

variable {left right encoder : VideoSixelEncoder}

/-! ### What every operation keeps -/

/-- Fixed by the constructor. -/
structure SameKind (left right : VideoSixelEncoder) : Prop where
  options : left.options = right.options
  table : left.fastColorMapper.reset = right.fastColorMapper.reset
  maxColors : left.colorMapper.maxColors = right.colorMapper.maxColors

theorem SameKind.refl (encoder : VideoSixelEncoder) : encoder.SameKind encoder := ⟨rfl, rfl, rfl⟩

theorem SameKind.trans {first second third : VideoSixelEncoder} (head : first.SameKind second)
    (tail : second.SameKind third) : first.SameKind third :=
  ⟨head.options.trans tail.options, head.table.trans tail.table,
    head.maxColors.trans tail.maxColors⟩

theorem sameKind_beginLogicalFrame (encoder : VideoSixelEncoder) :
    encoder.beginLogicalFrame.SameKind encoder := by
  unfold beginLogicalFrame
  split_ifs
  · exact ⟨rfl, rfl, rfl⟩
  · exact SameKind.refl encoder

theorem sameKind_rebuild (host : Host) (encoder : VideoSixelEncoder)
    (analyzer : FastColorAnalyzer) : (encoder.rebuild host analyzer).SameKind encoder :=
  ⟨rfl, rfl, FastAdaptiveColorMapper.maxColors_buildOptimalPalette host _ _⟩

theorem sameKind_adaptPalette (host : Host) (encoder : VideoSixelEncoder) (frame : FrameView) :
    (encoder.adaptPalette host frame).SameKind encoder := by
  simp only [adaptPalette]
  split_ifs
  · exact sameKind_rebuild host encoder _
  · exact ⟨rfl, rfl, rfl⟩

theorem sameKind_prepareFrame (host : Host) (encoder : VideoSixelEncoder) (frame : FrameView) :
    (encoder.prepareFrame host frame).SameKind encoder := by
  have begun := sameKind_beginLogicalFrame encoder
  simp only [prepareFrame]
  split_ifs
  · exact ⟨begun.options, begun.table, begun.maxColors⟩
  · have adapted := sameKind_adaptPalette host
      { encoder.beginLogicalFrame with adaptiveFramePrepared := false } frame
    exact ⟨adapted.options.trans begun.options, adapted.table.trans begun.table,
      adapted.maxColors.trans begun.maxColors⟩

theorem sameKind_prepare (host : Host) (encoder : VideoSixelEncoder) (frame : Frame) :
    (encoder.prepare host frame).SameKind encoder := by
  cases frame with
  | packed view => exact sameKind_prepareFrame host encoder view
  | indexed _ =>
      have begun := sameKind_beginLogicalFrame encoder
      exact ⟨begun.options, begun.table, begun.maxColors⟩

theorem sameKind_prepareRegional (host : Host) (encoder : VideoSixelEncoder) (frame : Frame) :
    (encoder.prepareRegional host frame).SameKind encoder := by
  have begun := sameKind_beginLogicalFrame encoder
  cases frame with
  | packed view =>
      simp only [prepareRegional, prepareRegionalFrame]
      split_ifs
      · exact ⟨begun.options, begun.table, begun.maxColors⟩
      · exact sameKind_prepareFrame host encoder view
  | indexed _ => exact ⟨begun.options, begun.table, begun.maxColors⟩

theorem sameKind_prepareArea (host : Host) (encoder : VideoSixelEncoder) (region : DamageRegion)
    (frame : Frame) : (encoder.prepareArea host region frame).SameKind encoder := by
  cases frame with
  | packed view =>
      simp only [prepareArea, prepareRegion]
      split_ifs
      · exact SameKind.refl encoder
      · have rebuilt := sameKind_rebuild host encoder
          (encoder.analyzer.analyzeFrameFast (view.region region))
        exact ⟨rebuilt.options, rebuilt.table, rebuilt.maxColors⟩
  | indexed _ => exact SameKind.refl encoder

theorem sameKind_mapped (host : Host) (encoder : VideoSixelEncoder) (frame : FrameView) :
    (encoder.mapped host frame).SameKind encoder := by
  simp only [mapped, mapPixels]
  cases adaptive : encoder.options.useAdaptivePalette with
  | true =>
      simp only [if_true]
      have adapted := sameKind_adaptPalette host { encoder with limitExceeded := false }
        (ditheredSource host encoder.options frame)
      split_ifs
      · exact ⟨rfl, rfl, rfl⟩
      · exact ⟨adapted.options, adapted.table, adapted.maxColors⟩
  | false =>
      simp only [Bool.false_eq_true, if_false]
      obtain ⟨colors, lookup, -⟩ := FastColorMapper.foldl_markUsed encoder.fastColorMapper.reset
        ((List.range (ditheredSource host encoder.options frame).height.toNat).flatMap
          (mapFixedRow host encoder.fastColorMapper (ditheredSource host encoder.options frame)))
      exact ⟨rfl, FastColorMapper.reset_congr colors lookup, rfl⟩

theorem sameKind_shouldEmitPalette (encoder : VideoSixelEncoder) (signature : UInt64) :
    (encoder.shouldEmitPalette signature).1.SameKind encoder := by
  rw [shouldEmitPalette_frame]
  exact ⟨rfl, rfl, rfl⟩

theorem sameKind_encodeAny (host : Host) (encoder : VideoSixelEncoder) (frame : Frame) :
    (encoder.encodeAny host frame).1.SameKind encoder := by
  cases frame with
  | packed view =>
      obtain ⟨scratch, state⟩ := encodeView_state host encoder view
      have decided := sameKind_shouldEmitPalette (encoder.mapped host view)
        (encoder.mapped host view).packedSignature
      simp only [encodeAny]
      rw [state]
      exact SameKind.trans ⟨decided.options, decided.table, decided.maxColors⟩
        (sameKind_mapped host encoder view)
  | indexed view =>
      obtain ⟨scratch, indices, state⟩ := encodeIndexedView_state encoder view
      have decided := sameKind_shouldEmitPalette encoder
        (callerPaletteHash view.palette.entries (registerOffset view))
      simp only [encodeAny]
      rw [state]
      exact ⟨decided.options, decided.table, decided.maxColors⟩

theorem sameKind_encode (host : Host) (encoder : VideoSixelEncoder) (frame : Frame) :
    (encoder.encode host frame).1.SameKind encoder := by
  rw [encode_eq]
  split_ifs
  · exact sameKind_encodeAny host encoder frame
  · exact SameKind.refl encoder

theorem sameKind_encodeArea (host : Host) (encoder : VideoSixelEncoder) (region : DamageRegion)
    (frame : Frame) : (encoder.encodeArea host region frame).1.SameKind encoder := by
  rw [encodeArea_eq]
  split_ifs
  · exact sameKind_encodeAny host encoder _
  · exact SameKind.refl encoder

/-! ### Twins -/

/-- No later call tells the two apart. -/
structure Twin (left right : VideoSixelEncoder) : Prop extends SameKind left right where
  hasPalette : left.hasAdaptivePalette = right.hasAdaptivePalette
  palette : left.hasAdaptivePalette = true → left.colorMapper.SamePalette right.colorMapper
  hasHistogram : left.colorMapper.hasHistogram = right.colorMapper.hasHistogram
  histogram : left.colorMapper.hasHistogram = true →
    left.colorMapper.previousHistogram = right.colorMapper.previousHistogram
  age : left.paletteAge = right.paletteAge
  prepared : left.adaptiveFramePrepared = right.adaptiveFramePrepared
  registersValid : left.paletteRegistersValid = right.paletteRegistersValid
  signature : left.paletteSignature = right.paletteSignature
  sinceRefresh : left.framesSincePaletteRefresh = right.framesSincePaletteRefresh

/-- After `reset` an encoder is as good as a new one, whatever it holds. -/
theorem twin_reset_create {host : Host} {options : SixelOptions} {scratch : Scratch}
    (kind : encoder.SameKind (create host options scratch)) :
    encoder.reset.Twin (create host options scratch) where
  options := kind.options
  table := kind.table
  maxColors := kind.maxColors
  hasPalette := rfl
  palette := fun has => by cases has
  hasHistogram := rfl
  histogram := fun has => by cases has
  age := rfl
  prepared := rfl
  registersValid := rfl
  signature := rfl
  sinceRefresh := rfl

namespace Twin

theorem refl (encoder : VideoSixelEncoder) : encoder.Twin encoder where
  options := rfl
  table := rfl
  maxColors := rfl
  hasPalette := rfl
  palette := fun _ => FastAdaptiveColorMapper.SamePalette.refl _
  hasHistogram := rfl
  histogram := fun _ => rfl
  age := rfl
  prepared := rfl
  registersValid := rfl
  signature := rfl
  sinceRefresh := rfl

/-- The limit is set anew before every encode. -/
theorem withLimits (twin : left.Twin right) (leftLimit rightLimit : Nat) :
    (left.setOutputLimit leftLimit).Twin (right.setOutputLimit rightLimit) :=
  { twin with }

theorem setOutputLimit (twin : left.Twin right) (maximumBytes : Nat) :
    (left.setOutputLimit maximumBytes).Twin (right.setOutputLimit maximumBytes) :=
  { twin with }

theorem reset (twin : left.Twin right) : left.reset.Twin right.reset where
  options := twin.options
  table := twin.table
  maxColors := twin.maxColors
  hasPalette := rfl
  palette := fun has => by cases has
  hasHistogram := rfl
  histogram := fun has => by cases has
  age := rfl
  prepared := rfl
  registersValid := rfl
  signature := rfl
  sinceRefresh := rfl

theorem beginLogicalFrame (twin : left.Twin right) :
    left.beginLogicalFrame.Twin right.beginLogicalFrame := by
  have condition :
      (left.paletteRegistersValid = true ∧ left.options.paletteRefreshFrames > 0 ∧
        left.framesSincePaletteRefresh < left.options.paletteRefreshFrames) ↔
      (right.paletteRegistersValid = true ∧ right.options.paletteRefreshFrames > 0 ∧
        right.framesSincePaletteRefresh < right.options.paletteRefreshFrames) := by
    rw [twin.options, twin.registersValid, twin.sinceRefresh]
  unfold VideoSixelEncoder.beginLogicalFrame
  by_cases counts : left.paletteRegistersValid = true ∧ left.options.paletteRefreshFrames > 0 ∧
      left.framesSincePaletteRefresh < left.options.paletteRefreshFrames
  · rw [if_pos counts, if_pos (condition.mp counts)]
    exact { twin with sinceRefresh := by simp [twin.sinceRefresh] }
  · rw [if_neg counts, if_neg fun other => counts (condition.mpr other)]
    exact twin

/-- A logical frame begins with nothing prepared. -/
theorem begun (twin : left.Twin right) :
    Twin { left.beginLogicalFrame with adaptiveFramePrepared := false }
      { right.beginLogicalFrame with adaptiveFramePrepared := false } :=
  { twin.beginLogicalFrame with prepared := rfl }

theorem mustRebuild (host : Host) (twin : left.Twin right)
    {leftAnalyzer rightAnalyzer : FastColorAnalyzer}
    (same : leftAnalyzer.luminanceHistogram = rightAnalyzer.luminanceHistogram) :
    left.mustRebuild host leftAnalyzer = right.mustRebuild host rightAnalyzer := by
  have difference : left.sceneDifference host leftAnalyzer =
      right.sceneDifference host rightAnalyzer := by
    unfold sceneDifference
    rw [← twin.hasHistogram, same]
    split_ifs with has
    · rw [twin.histogram has]
    · rfl
  rw [VideoSixelEncoder.mustRebuild, VideoSixelEncoder.mustRebuild, twin.hasPalette, twin.age,
    twin.options, difference]

theorem rebuild (host : Host) (twin : left.Twin right)
    {leftAnalyzer rightAnalyzer : FastColorAnalyzer}
    (colors : leftAnalyzer.colorFreq.entries = rightAnalyzer.colorFreq.entries)
    (histogram : leftAnalyzer.luminanceHistogram = rightAnalyzer.luminanceHistogram) :
    (left.rebuild host leftAnalyzer).Twin (right.rebuild host rightAnalyzer) := by
  have built := FastAdaptiveColorMapper.buildOptimalPalette_congr host twin.maxColors colors
  exact
    { twin with
      maxColors := built.maxColors
      hasPalette := rfl
      palette := fun _ => built
      hasHistogram := rfl
      histogram := fun _ => histogram
      age := rfl }

/-- Both rebuild or both keep a palette; either way they have one. -/
theorem adaptPalette (host : Host) (twin : left.Twin right) (frame : FrameView) :
    (left.adaptPalette host frame).Twin (right.adaptPalette host frame) ∧
      (left.adaptPalette host frame).hasAdaptivePalette = true := by
  obtain ⟨colors, histogram⟩ :=
    FastColorAnalyzer.analyzeFrameFast_congr left.analyzer right.analyzer frame
  have decision := twin.mustRebuild host histogram
  simp only [VideoSixelEncoder.adaptPalette]
  rw [← decision]
  by_cases rebuilds : left.mustRebuild host (left.analyzer.analyzeFrameFast frame) = true
  · rw [if_pos rebuilds, if_pos rebuilds]
    exact ⟨twin.rebuild host colors histogram, rfl⟩
  · rw [if_neg rebuilds, if_neg rebuilds]
    refine ⟨{ twin with age := by simp [twin.age] }, ?_⟩
    simp only [VideoSixelEncoder.mustRebuild, Bool.or_eq_true, Bool.not_eq_true', not_or]
      at rebuilds
    simpa using rebuilds.1.1

theorem prepareFrame (host : Host) (twin : left.Twin right) (frame : FrameView) :
    (left.prepareFrame host frame).Twin (right.prepareFrame host frame) := by
  simp only [VideoSixelEncoder.prepareFrame]
  rw [← twin.options]
  split_ifs
  · exact twin.begun
  · exact { (twin.begun.adaptPalette host frame).1 with prepared := rfl }

theorem prepare (host : Host) (twin : left.Twin right) (frame : Frame) :
    (left.prepare host frame).Twin (right.prepare host frame) := by
  cases frame with
  | packed view => exact twin.prepareFrame host view
  | indexed _ => exact twin.begun

theorem prepareRegional (host : Host) (twin : left.Twin right) (frame : Frame) :
    (left.prepareRegional host frame).Twin (right.prepareRegional host frame) := by
  cases frame with
  | packed view =>
      simp only [VideoSixelEncoder.prepareRegional, prepareRegionalFrame]
      rw [← twin.options]
      split_ifs
      · exact twin.begun
      · exact twin.prepareFrame host view
  | indexed _ => exact twin.begun

theorem prepareArea (host : Host) (twin : left.Twin right) (region : DamageRegion)
    (frame : Frame) :
    (left.prepareArea host region frame).Twin (right.prepareArea host region frame) := by
  cases frame with
  | packed view =>
      simp only [VideoSixelEncoder.prepareArea, prepareRegion]
      rw [← twin.options]
      split_ifs
      · exact twin
      · obtain ⟨colors, histogram⟩ := FastColorAnalyzer.analyzeFrameFast_congr left.analyzer
          right.analyzer (view.region region)
        exact { twin.rebuild host colors histogram with prepared := rfl }
  | indexed _ => exact twin

theorem shouldEmitPalette (twin : left.Twin right) (signature : UInt64) :
    (left.shouldEmitPalette signature).2 = (right.shouldEmitPalette signature).2 ∧
      (left.shouldEmitPalette signature).1.Twin (right.shouldEmitPalette signature).1 := by
  obtain ⟨decision, valid, held, age⟩ := shouldEmitPalette_congr signature twin.options
    twin.registersValid twin.signature twin.sinceRefresh
  refine ⟨decision, ?_⟩
  rw [shouldEmitPalette_frame left, shouldEmitPalette_frame right]
  exact { twin with registersValid := valid, signature := held, sinceRefresh := age }

/-! ### Encoding -/

theorem register (twin : left.Twin right) (channels : PixelChannels) :
    left.fastColorMapper.register channels = right.fastColorMapper.register channels :=
  congrFun (congrArg FastColorMapper.rgbLookup32 twin.table)
    (FastColorMapper.lookupIndex channels)

theorem storeIndices (twin : left.Twin right) (leftIndices rightIndices : List UInt8) :
    (left.storeIndices leftIndices).Twin (right.storeIndices rightIndices) :=
  { twin with }

/-- The encoder an adaptive frame is mapped with: as prepared, or adapted now. -/
private def adaptedFor (host : Host) (encoder : VideoSixelEncoder) (source : FrameView) :
    VideoSixelEncoder :=
  if encoder.adaptiveFramePrepared then { encoder with limitExceeded := false }
  else VideoSixelEncoder.adaptPalette host { encoder with limitExceeded := false } source

private theorem mapped_of_adaptive (host : Host) {encoder : VideoSixelEncoder}
    (adaptive : encoder.options.useAdaptivePalette = true) (frame : FrameView) :
    ∃ indices, encoder.mapped host frame =
      (adaptedFor host encoder (ditheredSource host encoder.options frame)).storeIndices
        indices := by
  simp only [VideoSixelEncoder.mapped, mapPixels, adaptive, if_true]
  exact ⟨_, rfl⟩

private theorem adaptedFor_twin (host : Host) (twin : left.Twin right) (adapted : left.Adapted)
    (source : FrameView) :
    (adaptedFor host left source).Twin (adaptedFor host right source) ∧
      (adaptedFor host left source).hasAdaptivePalette = true := by
  have cleared : Twin { left with limitExceeded := false } { right with limitExceeded := false } :=
    { twin with }
  unfold adaptedFor
  by_cases already : left.adaptiveFramePrepared = true
  · rw [if_pos already, if_pos (twin.prepared ▸ already)]
    exact ⟨cleared, adapted.prepared already⟩
  · rw [if_neg already, if_neg (twin.prepared ▸ already)]
    exact cleared.adaptPalette host source

theorem mapped_adaptive (host : Host) (twin : left.Twin right) (adapted : left.Adapted)
    (adaptive : left.options.useAdaptivePalette = true) (frame : FrameView) :
    (left.mapped host frame).Twin (right.mapped host frame) ∧
      (left.mapped host frame).hasAdaptivePalette = true := by
  obtain ⟨leftIndices, leftState⟩ := mapped_of_adaptive host adaptive frame
  obtain ⟨rightIndices, rightState⟩ := mapped_of_adaptive host
    (show right.options.useAdaptivePalette = true from twin.options ▸ adaptive) frame
  obtain ⟨both, built⟩ := adaptedFor_twin host twin adapted
    (ditheredSource host left.options frame)
  rw [leftState, rightState, ← twin.options]
  exact ⟨both.storeIndices _ _, built⟩

/-- Both map a frame to the same registers of the same table. -/
theorem mapped (host : Host) (twin : left.Twin right) (leftAdapted : left.Adapted)
    (rightAdapted : right.Adapted) {view : FrameView} (readable : (Frame.packed view).Readable) :
    (left.mapped host view).Twin (right.mapped host view) ∧
      (left.mapped host view).packedTable = (right.mapped host view).packedTable ∧
      (left.options.useAdaptivePalette = false →
        (left.mapped host view).fastColorMapper = (right.mapped host view).fastColorMapper) ∧
      ∀ x < view.width.toNat, ∀ y < view.height.toNat,
        left.packedImage host view x y = right.packedImage host view x y := by
  have leftOptions := (mapped_frame host left view).1
  have rightOptions := (mapped_frame host right view).1
  cases adaptive : left.options.useAdaptivePalette with
  | true =>
      have adaptiveRight : right.options.useAdaptivePalette = true := twin.options ▸ adaptive
      obtain ⟨both, built⟩ := mapped_adaptive host twin leftAdapted adaptive view
      have palette := both.palette built
      refine ⟨both, ?_, (fun fixed => by cases fixed), ?_⟩
      · rw [packedTable, packedTable, leftOptions, rightOptions, adaptive, adaptiveRight]
        exact palette.palette
      · intro x xInside y yInside
        obtain ⟨-, -, leftRest, leftIndices⟩ := leftAdapted.mapped_adaptive host adaptive
          readable.width_pos readable.height_pos
        obtain ⟨-, -, rightRest, rightIndices⟩ := rightAdapted.mapped_adaptive host adaptiveRight
          readable.width_pos readable.height_pos
        rw [packedImage, packedImage, flatImage_layRows leftIndices x xInside y yInside,
          flatImage_layRows rightIndices x xInside y yInside, twin.options]
        simp only [palette.getColorNumberReadOnly]
  | false =>
      have fixedRight : right.options.useAdaptivePalette = false := twin.options ▸ adaptive
      have listed := readable.packed view rfl
      have images : left.fixedImage host view = right.fixedImage host view := by
        funext x y
        rw [fixedImage, fixedImage, twin.options, twin.register]
      have mapper : (left.mapped host view).fastColorMapper =
          (right.mapped host view).fastColorMapper := by
        rw [(mapped_fixed host adaptive listed).2, (mapped_fixed host fixedRight listed).2, images,
          twin.table]
      refine ⟨?_, ?_, fun _ => mapper, ?_⟩
      · have leftState := sameKind_mapped host left view
        have rightState := sameKind_mapped host right view
        simp only [VideoSixelEncoder.mapped, mapPixels, adaptive, fixedRight, Bool.false_eq_true,
          if_false] at leftState rightState ⊢
        exact
          { twin with
            toSameKind := ⟨twin.options,
              leftState.table.trans (twin.table.trans rightState.table.symm), twin.maxColors⟩ }
      · rw [packedTable, packedTable, leftOptions, rightOptions, adaptive, fixedRight]
        exact congrArg FastColorMapper.colorNumToRgb mapper
      · intro x xInside y yInside
        rw [packedImage_fixed host adaptive listed x xInside y yInside,
          packedImage_fixed host fixedRight listed x xInside y yInside, images]

/-- The register tables agree on everything a stream is made of. -/
theorem sameTable (host : Host) (twin : left.Twin right) (leftAdapted : left.Adapted)
    (rightAdapted : right.Adapted) {frame : Frame} (readable : frame.Readable) :
    (left.table host frame).signature = (right.table host frame).signature ∧
      (left.table host frame).registers = (right.table host frame).registers ∧
      (left.table host frame).colors = (right.table host frame).colors ∧
      ∀ x < frame.width.toNat, ∀ y < frame.height.toNat,
        (left.table host frame).image x y = (right.table host frame).image x y := by
  cases frame with
  | packed view =>
      obtain ⟨-, palette, mapper, images⟩ := twin.mapped host leftAdapted rightAdapted readable
      have leftOptions := (mapped_frame host left view).1
      have rightOptions := (mapped_frame host right view).1
      refine ⟨congrArg paletteHash palette, ?_, ?_, images⟩
      · simp only [VideoSixelEncoder.table, packedRegisters, palette, leftOptions, rightOptions,
          ← twin.options]
        cases adaptive : left.options.useAdaptivePalette with
        | true => rw [Bool.true_or, if_pos rfl, if_pos rfl]
        | false => rw [mapper adaptive]
      · funext register
        simp only [VideoSixelEncoder.table, packedColors, palette]
  | indexed view => exact ⟨rfl, rfl, rfl, fun _ _ _ _ => rfl⟩

/-- Both return the same bytes and reach the limit together. -/
theorem bytes (host : Host) (twin : left.Twin right) (leftAdapted : left.Adapted)
    (rightAdapted : right.Adapted) (limit : left.outputLimit = right.outputLimit) {frame : Frame}
    (readable : frame.Readable) :
    (left.encodeAny host frame).2 = (right.encodeAny host frame).2 ∧
      (left.encodeAny host frame).1.limitExceeded =
        (right.encodeAny host frame).1.limitExceeded := by
  obtain ⟨signature, registers, colors, images⟩ :=
    twin.sameTable host leftAdapted rightAdapted readable
  have decision := (twin.shouldEmitPalette (left.table host frame).signature).1
  have pieces : ∀ definitions, streamPieces left.options definitions (left.table host frame).image
      frame.width.toNat frame.height.toNat =
      streamPieces right.options definitions (right.table host frame).image frame.width.toNat
        frame.height.toNat := by
    intro definitions
    rw [streamPieces, streamPieces, twin.options, framePieces_congr images]
  have streams : ∀ definitions, left.streamed definitions (left.table host frame).image
      frame.width.toNat frame.height.toNat =
      right.streamed definitions (right.table host frame).image frame.width.toNat
        frame.height.toNat := by
    intro definitions
    rw [streamed, streamed, limit, pieces]
  have leftBytes := encodeAny_bytes host (leftAdapted.mayEncode frame) readable
  have rightBytes := encodeAny_bytes host (rightAdapted.mayEncode frame) readable
  simp only [streamBytes, decision, registers, colors, streams, pieces] at leftBytes
  rw [signature] at leftBytes
  exact ⟨leftBytes.1.trans rightBytes.1.symm, leftBytes.2.trans rightBytes.2.symm⟩

theorem encodeAny (host : Host) (twin : left.Twin right) (leftAdapted : left.Adapted)
    (rightAdapted : right.Adapted) {frame : Frame} (readable : frame.Readable) :
    (left.encodeAny host frame).1.Twin (right.encodeAny host frame).1 ∧
      (left.encodeAny host frame).1.lastColorCountValue =
        (right.encodeAny host frame).1.lastColorCountValue := by
  cases frame with
  | packed view =>
      obtain ⟨both, palette, mapper, -⟩ := twin.mapped host leftAdapted rightAdapted readable
      obtain ⟨leftScratch, leftState⟩ := encodeView_state host left view
      obtain ⟨rightScratch, rightState⟩ := encodeView_state host right view
      have signature : (left.mapped host view).packedSignature =
          (right.mapped host view).packedSignature := by
        rw [packedSignature_eq, packedSignature_eq, palette]
      have decided := (both.shouldEmitPalette (left.mapped host view).packedSignature).2
      simp only [VideoSixelEncoder.encodeAny]
      rw [leftState, rightState, ← signature]
      refine ⟨{ decided with }, ?_⟩
      simp only [← twin.options, palette]
      cases adaptive : left.options.useAdaptivePalette with
      | true => rw [if_pos rfl, if_pos rfl]
      | false => rw [mapper adaptive]
  | indexed view =>
      obtain ⟨leftScratch, leftIndices, leftState⟩ := encodeIndexedView_state left view
      obtain ⟨rightScratch, rightIndices, rightState⟩ := encodeIndexedView_state right view
      have decided := (twin.shouldEmitPalette
        (callerPaletteHash view.palette.entries (registerOffset view))).2
      simp only [VideoSixelEncoder.encodeAny]
      rw [leftState, rightState]
      exact ⟨{ decided with }, rfl⟩

end Twin

end VideoSixelEncoder

end Rasterm
