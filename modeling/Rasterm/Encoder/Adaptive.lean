import Rasterm.Encoder.Stream

/-!
Contract: the content-adaptive palette is built before it is used.

Owns the well-formedness of a built mapper (every colour number it hands out is
one of its entries, never entry 0) and the encoder invariant `Adapted` that
carries it through every operation.
-/

set_option autoImplicit false

namespace Rasterm

open Rows

/-! ### Analysis -/

namespace FastColorAnalyzer

theorem foldl_sample_entries_ne_nil (colors : List PixelChannels) (analyzer : FastColorAnalyzer)
    (nonempty : colors ≠ []) : (colors.foldl sample analyzer).colorFreq.entries ≠ [] := by
  induction colors using List.reverseRecOn with
  | nil => exact absurd rfl nonempty
  | append_singleton colors color _ =>
      rw [List.foldl_append]
      exact UnorderedMap.alter_entries_ne_nil _ _ _ _

/-- An analysis of at least one pixel finds a colour. -/
theorem analyzeFrameFast_entries_ne_nil (analyzer : FastColorAnalyzer) {frame : FrameView}
    (width : 0 < frame.width) (height : 0 < frame.height) :
    (analyzer.analyzeFrameFast frame).colorFreq.entries ≠ [] := by
  apply foldl_sample_entries_ne_nil
  intro empty
  have first : frame.channels (0 * sampleStep) (0 * sampleStep) ∈ samples frame := by
    rw [samples, List.mem_flatMap]
    have rows : 0 < (frame.height.toNat + (sampleStep - 1)) / sampleStep := by
      simp only [sampleStep]
      omega
    have columns : 0 < (frame.width.toNat + (sampleStep - 1)) / sampleStep := by
      simp only [sampleStep]
      omega
    exact ⟨0, List.mem_range.mpr rows, List.mem_map.mpr ⟨0, List.mem_range.mpr columns, rfl⟩⟩
  rw [empty] at first
  exact List.not_mem_nil first

theorem getMostFrequentColors_ne_nil (host : Host) {analyzer : FastColorAnalyzer}
    (found : analyzer.colorFreq.entries ≠ []) {maxColors : Nat} (room : 1 ≤ maxColors) :
    analyzer.getMostFrequentColors host maxColors ≠ [] := by
  have entries := List.length_pos_of_ne_nil found
  intro empty
  have lengths := congrArg List.length empty
  simp only [getMostFrequentColors, List.length_map, List.length_take,
    List.length_insertionSort, (host.iterate_perm _ _).length_eq, List.length_nil] at lengths
  omega

end FastColorAnalyzer

/-! ### The mapper -/

namespace FastAdaptiveColorMapper

/-- Every colour number handed out is an entry other than entry 0. -/
structure WellFormed (mapper : FastAdaptiveColorMapper) : Prop where
  two_le : 2 ≤ mapper.nextColorNum
  le_256 : mapper.nextColorNum ≤ 256
  cached : ∀ entry ∈ mapper.rgbToColorNum.entries,
    1 ≤ entry.2 ∧ entry.2 < mapper.nextColorNum
  lookup : ∀ slot < 216, ∃ color : Nat, mapper.quantizedLookup slot = color ∧
    1 ≤ color ∧ color < mapper.nextColorNum

theorem q6_le (channel : UInt8) : q6 channel ≤ 5 := by
  have bound := channel.toNat_lt
  rw [q6]
  omega

theorem quantizedIndex_lt (red green blue : UInt8) : quantizedIndex red green blue < 216 := by
  have redBound := q6_le red
  have greenBound := q6_le green
  have blueBound := q6_le blue
  rw [quantizedIndex]
  omega

theorem WellFormed.getColorNumberReadOnly_bounds {mapper : FastAdaptiveColorMapper}
    (wellFormed : mapper.WellFormed) (red green blue : UInt8) :
    1 ≤ mapper.getColorNumberReadOnly red green blue ∧
      mapper.getColorNumberReadOnly red green blue < mapper.nextColorNum := by
  unfold getColorNumberReadOnly
  split
  · rename_i colorNumber found
    exact wellFormed.cached _ (UnorderedMap.mem_of_find? found)
  · obtain ⟨color, value, bounds⟩ := wellFormed.lookup _ (quantizedIndex_lt red green blue)
    rw [value, if_pos (by omega), Int.toNat_natCast]
    exact bounds

theorem maxColors_buildOptimalPalette (host : Host) (mapper : FastAdaptiveColorMapper)
    (analyzer : FastColorAnalyzer) :
    (mapper.buildOptimalPalette host analyzer).maxColors = mapper.maxColors := by
  have kept : ∀ (colors : List UInt32) (filling : FastAdaptiveColorMapper),
      (colors.foldl addFrequentColor filling).maxColors = filling.maxColors := by
    intro colors
    induction colors with
    | nil => intro filling; rfl
    | cons color colors inductionHypothesis =>
        intro filling
        rw [List.foldl_cons, inductionHypothesis]
        unfold addFrequentColor
        split_ifs <;> rfl
  exact kept _ _

/-- Two mappers hand out the same colour numbers for the same palette. -/
structure SamePalette (left right : FastAdaptiveColorMapper) : Prop where
  palette : left.palette = right.palette
  cached : left.rgbToColorNum.entries = right.rgbToColorNum.entries
  lookup : left.quantizedLookup = right.quantizedLookup
  maxColors : left.maxColors = right.maxColors

theorem SamePalette.refl (mapper : FastAdaptiveColorMapper) : mapper.SamePalette mapper :=
  ⟨rfl, rfl, rfl, rfl⟩

theorem SamePalette.getColorNumberReadOnly {left right : FastAdaptiveColorMapper}
    (same : left.SamePalette right) (red green blue : UInt8) :
    left.getColorNumberReadOnly red green blue = right.getColorNumberReadOnly red green blue := by
  simp only [FastAdaptiveColorMapper.getColorNumberReadOnly, UnorderedMap.find?, same.cached,
    same.lookup, searchColors, nextColorNum, same.palette]

private theorem SamePalette.foldl_addFrequentColor (colors : List UInt32)
    {left right : FastAdaptiveColorMapper} (same : left.SamePalette right) :
    (colors.foldl addFrequentColor left).SamePalette (colors.foldl addFrequentColor right) := by
  induction colors generalizing left right with
  | nil => exact same
  | cons color colors inductionHypothesis =>
      apply inductionHypothesis
      have sameNext : left.nextColorNum = right.nextColorNum := congrArg List.length same.palette
      have maxColors := same.maxColors
      unfold addFrequentColor
      by_cases full : left.nextColorNum ≥ left.maxColors
      · rw [if_pos full, if_pos (by omega)]
        exact same
      · rw [if_neg full, if_neg (by omega)]
        refine ⟨by simp only [same.palette], ?_, by simp only [same.lookup, sameNext],
          same.maxColors⟩
        rw [sameNext]
        exact UnorderedMap.entries_insert_congr _ _ same.cached

/-- A build depends on the number of colours and on the analysis alone. -/
theorem buildOptimalPalette_congr (host : Host) {left right : FastAdaptiveColorMapper}
    (maxColors : left.maxColors = right.maxColors) {leftAnalyzer rightAnalyzer : FastColorAnalyzer}
    (colors : leftAnalyzer.colorFreq.entries = rightAnalyzer.colorFreq.entries) :
    (left.buildOptimalPalette host leftAnalyzer).SamePalette
      (right.buildOptimalPalette host rightAnalyzer) := by
  have filled := @SamePalette.foldl_addFrequentColor
    (rightAnalyzer.getMostFrequentColors host (min 128 (right.maxColors - 1)))
    { left with
      palette := [0]
      rgbToColorNum := left.rgbToColorNum.clear
      quantizedLookup := fun _ => -1 }
    { right with
      palette := [0]
      rgbToColorNum := right.rgbToColorNum.clear
      quantizedLookup := fun _ => -1 } ⟨rfl, rfl, rfl, maxColors⟩
  have sameColors :
      leftAnalyzer.getMostFrequentColors host (min 128 (left.maxColors - 1)) =
        rightAnalyzer.getMostFrequentColors host (min 128 (right.maxColors - 1)) := by
    rw [maxColors, FastColorAnalyzer.getMostFrequentColors_congr host colors]
  simp only [buildOptimalPalette, sameColors]
  exact ⟨filled.palette, filled.cached, by simp only [filled.palette, filled.lookup],
    filled.maxColors⟩

/-- What adding frequent colours preserves. -/
private structure Filling (mapper : FastAdaptiveColorMapper) : Prop where
  one_le : 1 ≤ mapper.nextColorNum
  le_256 : mapper.nextColorNum ≤ 256
  cached : ∀ entry ∈ mapper.rgbToColorNum.entries,
    1 ≤ entry.2 ∧ entry.2 < mapper.nextColorNum

private theorem Filling.addFrequentColor {mapper : FastAdaptiveColorMapper}
    (filling : mapper.Filling) (bound : mapper.maxColors ≤ 256) (rgb : UInt32) :
    (mapper.addFrequentColor rgb).Filling ∧
      (mapper.addFrequentColor rgb).maxColors = mapper.maxColors ∧
      mapper.nextColorNum ≤ (mapper.addFrequentColor rgb).nextColorNum := by
  unfold FastAdaptiveColorMapper.addFrequentColor
  split_ifs with full
  · exact ⟨filling, rfl, le_rfl⟩
  · have oneMore : ∀ lookup : Nat → Int, ∀ cache : UnorderedMap UInt32 Nat,
        ({ mapper with
          palette := mapper.palette ++ [rgb]
          rgbToColorNum := cache
          quantizedLookup := lookup } : FastAdaptiveColorMapper).nextColorNum =
        mapper.nextColorNum + 1 := by
      intro lookup cache
      simp [nextColorNum]
    have oneLe := filling.one_le
    refine ⟨⟨?_, ?_, ?_⟩, rfl, ?_⟩
    · simp only [oneMore]
      omega
    · simp only [oneMore]
      omega
    · intro entry member
      simp only [oneMore]
      rcases UnorderedMap.mem_insert member with isNew | earlier
      · rw [isNew]
        exact ⟨oneLe, Nat.lt_succ_self _⟩
      · have bounds := filling.cached entry earlier
        omega
    · simp only [oneMore]
      omega

private theorem Filling.foldl {mapper : FastAdaptiveColorMapper} (filling : mapper.Filling)
    (bound : mapper.maxColors ≤ 256) (colors : List UInt32) :
    (colors.foldl FastAdaptiveColorMapper.addFrequentColor mapper).Filling ∧
      mapper.nextColorNum ≤
        (colors.foldl FastAdaptiveColorMapper.addFrequentColor mapper).nextColorNum := by
  induction colors generalizing mapper with
  | nil => exact ⟨filling, le_rfl⟩
  | cons color colors inductionHypothesis =>
      obtain ⟨next, sameMax, longer⟩ := filling.addFrequentColor bound color
      obtain ⟨last, longest⟩ := inductionHypothesis next (sameMax ▸ bound)
      exact ⟨last, longer.trans longest⟩

/-- Building from an analysis that found a colour gives a well-formed mapper. -/
theorem wellFormed_buildOptimalPalette (host : Host) {mapper : FastAdaptiveColorMapper}
    (room : 2 ≤ mapper.maxColors) (bound : mapper.maxColors ≤ 256) {analyzer : FastColorAnalyzer}
    (found : analyzer.colorFreq.entries ≠ []) :
    (mapper.buildOptimalPalette host analyzer).WellFormed := by
  let cleared : FastAdaptiveColorMapper :=
    { mapper with
      palette := [0]
      rgbToColorNum := mapper.rgbToColorNum.clear
      quantizedLookup := fun _ => -1 }
  let colors := analyzer.getMostFrequentColors host (min 128 (mapper.maxColors - 1))
  have start : cleared.Filling := by
    have one : cleared.nextColorNum = 1 := rfl
    refine ⟨one.ge, by omega, ?_⟩
    intro entry member
    exact absurd member List.not_mem_nil
  obtain ⟨first, rest, split⟩ : ∃ first rest, colors = first :: rest := by
    have nonempty : colors ≠ [] :=
      FastColorAnalyzer.getMostFrequentColors_ne_nil host found (by omega)
    exact List.exists_cons_of_ne_nil nonempty
  obtain ⟨next, sameMax, -⟩ := start.addFrequentColor bound first
  have two : (cleared.addFrequentColor first).nextColorNum = 2 := by
    have space : ¬ cleared.nextColorNum ≥ cleared.maxColors := by
      have one : cleared.nextColorNum = 1 := rfl
      have same : cleared.maxColors = mapper.maxColors := rfl
      omega
    unfold FastAdaptiveColorMapper.addFrequentColor
    rw [if_neg space]
    rfl
  obtain ⟨filled, longer⟩ := next.foldl (sameMax ▸ bound) rest
  have folded : colors.foldl FastAdaptiveColorMapper.addFrequentColor cleared =
      rest.foldl FastAdaptiveColorMapper.addFrequentColor (cleared.addFrequentColor first) := by
    rw [split, List.foldl_cons]
  rw [← folded] at filled longer
  have size : (mapper.buildOptimalPalette host analyzer).nextColorNum =
      (colors.foldl FastAdaptiveColorMapper.addFrequentColor cleared).nextColorNum := rfl
  rw [two, ← size] at longer
  refine ⟨longer, filled.le_256, filled.cached, ?_⟩
  intro slot inside
  have nearest := nearestColor_bounds (host.adaptiveDistance (slotColor slot)) longer
  exact ⟨_, if_pos inside, nearest⟩

end FastAdaptiveColorMapper

/-! ### The encoder -/

namespace VideoSixelEncoder

/-- The adaptive palette is built whenever the code may read it. -/
structure Adapted (encoder : VideoSixelEncoder) : Prop where
  room : 2 ≤ encoder.colorMapper.maxColors
  bound : encoder.colorMapper.maxColors ≤ 256
  prepared : encoder.adaptiveFramePrepared = true → encoder.hasAdaptivePalette = true
  built : encoder.hasAdaptivePalette = true → encoder.colorMapper.WellFormed

theorem adapted_create (host : Host) (options : SixelOptions) (scratch : Scratch) :
    (create host options scratch).Adapted where
  room := options.two_le_activeColorSlots
  bound := options.activeColorSlots_le
  prepared := fun isPrepared => by cases isPrepared
  built := fun isBuilt => by cases isBuilt

namespace Adapted

variable {encoder : VideoSixelEncoder}

theorem reset (adapted : encoder.Adapted) : encoder.reset.Adapted where
  room := adapted.room
  bound := adapted.bound
  prepared := fun isPrepared => by cases isPrepared
  built := fun isBuilt => by cases isBuilt

theorem beginLogicalFrame (adapted : encoder.Adapted) : encoder.beginLogicalFrame.Adapted := by
  unfold VideoSixelEncoder.beginLogicalFrame
  split_ifs
  · exact ⟨adapted.room, adapted.bound, adapted.prepared, adapted.built⟩
  · exact adapted

theorem setOutputLimit (adapted : encoder.Adapted) (maximumBytes : Nat) :
    (encoder.setOutputLimit maximumBytes).Adapted :=
  ⟨adapted.room, adapted.bound, adapted.prepared, adapted.built⟩

theorem rebuild (host : Host) (adapted : encoder.Adapted) {analyzer : FastColorAnalyzer}
    (found : analyzer.colorFreq.entries ≠ []) : (encoder.rebuild host analyzer).Adapted where
  room := (FastAdaptiveColorMapper.maxColors_buildOptimalPalette host _ _).ge.trans' adapted.room
  bound := (FastAdaptiveColorMapper.maxColors_buildOptimalPalette host _ _).le.trans adapted.bound
  prepared := fun _ => rfl
  built := fun _ => FastAdaptiveColorMapper.wellFormed_buildOptimalPalette host adapted.room
    adapted.bound found

/-- Adapting to a frame leaves a built palette. -/
theorem adaptPalette (host : Host) (adapted : encoder.Adapted) {frame : FrameView}
    (width : 0 < frame.width) (height : 0 < frame.height) :
    (encoder.adaptPalette host frame).Adapted ∧
      (encoder.adaptPalette host frame).hasAdaptivePalette = true := by
  unfold VideoSixelEncoder.adaptPalette
  simp only
  split_ifs with rebuilds
  · have found := FastColorAnalyzer.analyzeFrameFast_entries_ne_nil encoder.analyzer width height
    exact ⟨adapted.rebuild host found, rfl⟩
  · have has : encoder.hasAdaptivePalette = true := by
      simp only [mustRebuild, Bool.or_eq_true, Bool.not_eq_true', not_or] at rebuilds
      simpa using rebuilds.1.1
    exact ⟨⟨adapted.room, adapted.bound, adapted.prepared, adapted.built⟩, has⟩

theorem unprepared (adapted : encoder.Adapted) :
    { encoder with adaptiveFramePrepared := false }.Adapted where
  room := adapted.room
  bound := adapted.bound
  prepared := fun isPrepared => by cases isPrepared
  built := adapted.built

theorem prepareFrame (host : Host) (adapted : encoder.Adapted) (frame : FrameView) :
    (encoder.prepareFrame host frame).Adapted := by
  unfold VideoSixelEncoder.prepareFrame
  simp only
  split_ifs with skipped
  · exact adapted.beginLogicalFrame.unprepared
  · simp only [Bool.or_eq_true, Bool.not_eq_true', not_or, Bool.not_eq_false] at skipped
    have geometry := FrameView.geometry_of_isValid skipped.2
    obtain ⟨next, has⟩ := adapted.beginLogicalFrame.unprepared.adaptPalette host
      geometry.width_pos geometry.height_pos
    exact ⟨next.room, next.bound, fun _ => has, next.built⟩

theorem prepareRegionalFrame (host : Host) (adapted : encoder.Adapted) (frame : FrameView) :
    (encoder.prepareRegionalFrame host frame).Adapted := by
  unfold VideoSixelEncoder.prepareRegionalFrame
  split_ifs
  · exact adapted.beginLogicalFrame.unprepared
  · exact adapted.prepareFrame host frame

theorem prepareRegion (host : Host) (adapted : encoder.Adapted) (frame : FrameView)
    (region : DamageRegion) : (encoder.prepareRegion host frame region).Adapted := by
  unfold VideoSixelEncoder.prepareRegion
  split_ifs with skipped
  · exact adapted
  · simp only [Bool.or_eq_true, Bool.not_eq_true', not_or, Bool.not_eq_false] at skipped
    have positive := skipped.2
    simp only [DamageRect.isValid, Bool.and_eq_true, decide_eq_true_eq] at positive
    have found := FastColorAnalyzer.analyzeFrameFast_entries_ne_nil encoder.analyzer
      (show 0 < (frame.region region).width from positive.1)
      (show 0 < (frame.region region).height from positive.2)
    have rebuilt := adapted.rebuild host found
    exact ⟨rebuilt.room, rebuilt.bound, fun _ => rfl, rebuilt.built⟩

theorem storeIndices (adapted : encoder.Adapted) (indices : List UInt8) :
    (encoder.storeIndices indices).Adapted :=
  ⟨adapted.room, adapted.bound, adapted.prepared, adapted.built⟩

/-- Mapping an adaptive frame leaves a built palette, and the indices it assigns. -/
theorem mapped_adaptive (host : Host) (adapted : encoder.Adapted)
    (adaptive : encoder.options.useAdaptivePalette = true) {frame : FrameView}
    (width : 0 < frame.width) (height : 0 < frame.height) :
    (encoder.mapped host frame).Adapted ∧
      (encoder.mapped host frame).hasAdaptivePalette = true ∧
      ∃ rest, (encoder.mapped host frame).paletteIndices =
        layRows
          (fun x y =>
            let channels := (ditheredSource host encoder.options frame).channels x y
            UInt8.ofNat ((encoder.mapped host frame).colorMapper.getColorNumberReadOnly
              channels.red channels.green channels.blue))
          frame.width.toNat frame.height.toNat ++ rest := by
  have sourceWidth : 0 < (ditheredSource host encoder.options frame).width := by
    rw [ditheredSource_width]
    exact width
  have sourceHeight : 0 < (ditheredSource host encoder.options frame).height := by
    rw [ditheredSource_height]
    exact height
  let cleared : VideoSixelEncoder := { encoder with limitExceeded := false }
  have clearedAdapted : cleared.Adapted :=
    ⟨adapted.room, adapted.bound, adapted.prepared, adapted.built⟩
  let prepared : VideoSixelEncoder :=
    if encoder.adaptiveFramePrepared then cleared
    else cleared.adaptPalette host (ditheredSource host encoder.options frame)
  have preparedAdapted : prepared.Adapted ∧ prepared.hasAdaptivePalette = true := by
    by_cases already : encoder.adaptiveFramePrepared = true
    · simp only [prepared, already, if_true]
      exact ⟨clearedAdapted, adapted.prepared already⟩
    · simp only [prepared, already, Bool.false_eq_true, if_false]
      exact clearedAdapted.adaptPalette host sourceWidth sourceHeight
  have mapped : encoder.mapped host frame = prepared.storeIndices
      (layRows
        (fun x y =>
          let channels := (ditheredSource host encoder.options frame).channels x y
          UInt8.ofNat (prepared.colorMapper.getColorNumberReadOnly channels.red channels.green
            channels.blue))
        frame.width.toNat frame.height.toNat) := by
    simp only [VideoSixelEncoder.mapped, mapPixels, adaptive, if_true, ditheredSource_width,
      ditheredSource_height]
    rfl
  rw [mapped]
  exact ⟨preparedAdapted.1.storeIndices _, preparedAdapted.2, _, rfl⟩

theorem mapped (host : Host) (adapted : encoder.Adapted) {frame : FrameView}
    (width : 0 < frame.width) (height : 0 < frame.height) :
    (encoder.mapped host frame).Adapted := by
  cases adaptive : encoder.options.useAdaptivePalette with
  | true => exact (adapted.mapped_adaptive host adaptive width height).1
  | false =>
      simp only [VideoSixelEncoder.mapped, mapPixels, adaptive, Bool.false_eq_true, if_false]
      exact ⟨adapted.room, adapted.bound, adapted.prepared, adapted.built⟩

theorem encodeView (host : Host) (adapted : encoder.Adapted) {frame : FrameView}
    (width : 0 < frame.width) (height : 0 < frame.height) :
    (encoder.encodeView host frame).1.Adapted := by
  have next := adapted.mapped host width height
  have kept := shouldEmitPalette_frame (encoder.mapped host frame)
    (encoder.mapped host frame).packedSignature
  unfold VideoSixelEncoder.encodeView
  simp only
  rw [write_frame]
  have same : ({ encoder with limitExceeded := false }.mapPixels host
      (ditheredSource host encoder.options frame)).1 = encoder.mapped host frame := rfl
  rw [same]
  rw [kept]
  exact ⟨next.room, next.bound, next.prepared, next.built⟩

theorem encodeIndexedView (adapted : encoder.Adapted) (frame : IndexedFrameView) :
    (encoder.encodeIndexedView frame).1.Adapted := by
  unfold VideoSixelEncoder.encodeIndexedView
  simp only
  rw [write_frame, shouldEmitPalette_frame]
  exact ⟨adapted.room, adapted.bound, adapted.prepared, adapted.built⟩

theorem encode (host : Host) (adapted : encoder.Adapted) (frame : Frame) :
    (encoder.encode host frame).1.Adapted := by
  cases frame with
  | packed view =>
      simp only [VideoSixelEncoder.encode, encodeFrame]
      split_ifs with valid
      · have geometry := FrameView.geometry_of_isValid valid
        exact adapted.encodeView host geometry.width_pos geometry.height_pos
      · exact adapted
  | indexed view =>
      simp only [VideoSixelEncoder.encode, encodeIndexedFrame]
      split_ifs
      · exact adapted.encodeIndexedView view
      · exact adapted

theorem encodeArea (host : Host) (adapted : encoder.Adapted) (region : DamageRegion)
    (frame : Frame) : (encoder.encodeArea host region frame).1.Adapted := by
  cases frame with
  | packed view =>
      simp only [VideoSixelEncoder.encodeArea, encodeRegion]
      split_ifs with accepted
      · simp only [Bool.and_eq_true, regionInside, DamageRect.isValid, decide_eq_true_eq]
          at accepted
        exact adapted.encodeView host accepted.2.1.1.1.1.1 accepted.2.1.1.1.1.2
      · exact adapted
  | indexed view =>
      simp only [VideoSixelEncoder.encodeArea, encodeIndexedRegion]
      split_ifs
      · exact adapted.encodeIndexedView _
      · exact adapted

theorem prepare (host : Host) (adapted : encoder.Adapted) (frame : Frame) :
    (encoder.prepare host frame).Adapted := by
  cases frame with
  | packed view => exact adapted.prepareFrame host view
  | indexed _ => exact adapted.beginLogicalFrame.unprepared

theorem prepareRegional (host : Host) (adapted : encoder.Adapted) (frame : Frame) :
    (encoder.prepareRegional host frame).Adapted := by
  cases frame with
  | packed view => exact adapted.prepareRegionalFrame host view
  | indexed _ => exact adapted.beginLogicalFrame.unprepared

theorem prepareArea (host : Host) (adapted : encoder.Adapted) (region : DamageRegion)
    (frame : Frame) : (encoder.prepareArea host region frame).Adapted := by
  cases frame with
  | packed view => exact adapted.prepareRegion host view region
  | indexed _ => exact adapted

end Adapted

end VideoSixelEncoder

end Rasterm
