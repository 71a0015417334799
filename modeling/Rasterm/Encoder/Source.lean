import Rasterm.Encoder.Frequent
import Rasterm.Encoder.SelfContained

/-!
Contract: pictures under the adaptive palette, over every run of an encoder.

Owns the view that the palette in use was last built from, carried along a run, and what a
decoder shows of an encoded view: its palette colours as they are, the others by the nearest
palette colour.

Does not own the decision to rebuild.
-/

set_option autoImplicit false

namespace Rasterm

open Ranking Rows Sixel LogicalFrame FastColorAnalyzer

/-! ### The view a palette was built from -/

namespace VideoSixelEncoder

/-- After `adaptPalette`. -/
def adaptedSource (host : Host) (encoder : VideoSixelEncoder) (view : FrameView)
    (source : Option FrameView) : Option FrameView :=
  if encoder.mustRebuild host (encoder.analyzer.analyzeFrameFast view) then some view else source

/-- After `prepareFrame`. -/
def preparedSource (host : Host) (encoder : VideoSixelEncoder) (view : FrameView)
    (source : Option FrameView) : Option FrameView :=
  if !encoder.options.useAdaptivePalette || !view.isValid then source
  else encoder.adaptedSource host view source

/-- After `encodeView`, which adapts to the dithered copy unless the frame was prepared. -/
def encodedSource (host : Host) (encoder : VideoSixelEncoder) (view : FrameView)
    (source : Option FrameView) : Option FrameView :=
  if encoder.options.useAdaptivePalette && !encoder.adaptiveFramePrepared then
    encoder.adaptedSource host (ditheredSource host encoder.options view) source
  else source

end VideoSixelEncoder

/-- The view the palette in use was last built from, after a call. -/
def EncoderCall.source (host : Host) (encoder : VideoSixelEncoder) (source : Option FrameView) :
    EncoderCall → Option FrameView
  | prepare (.packed view) => encoder.preparedSource host view source
  | prepareRegional (.packed view) =>
      if encoder.options.useAdaptivePalette && encoder.options.independentRegionQuantization then
        source
      else encoder.preparedSource host view source
  | prepareArea (.packed view) region =>
      if !encoder.options.useAdaptivePalette || !encoder.options.independentRegionQuantization ||
          !view.isValid || !region.isValid then source
      else some (view.region region)
  | encode (.packed view) => if view.isValid then encoder.encodedSource host view source else source
  | encodeArea (.packed view) region =>
      if view.isValid && VideoSixelEncoder.regionInside region view.width view.height then
        encoder.encodedSource host (view.region region) source
      else source
  | reset => none
  | _ => source

namespace VideoSixelEncoder

/-- The palette in use is that of the view. -/
structure Sourced (host : Host) (slots : Nat) (source : Option FrameView)
    (encoder : VideoSixelEncoder) : Prop where
  maxColors : encoder.colorMapper.maxColors = slots
  has : encoder.hasAdaptivePalette = source.isSome
  width_pos : ∀ view, source = some view → 0 < view.width
  height_pos : ∀ view, source = some view → 0 < view.height
  palette : ∀ view, source = some view → encoder.colorMapper.SamePalette (paletteOf host slots view)

variable {host : Host} {slots : Nat} {source : Option FrameView} {encoder next : VideoSixelEncoder}
  {view : FrameView}

theorem sourced_create (host : Host) (options : SixelOptions) (scratch : Scratch) :
    Sourced host options.activeColorSlots none (create host options scratch) where
  maxColors := rfl
  has := rfl
  width_pos := fun _ absent => by cases absent
  height_pos := fun _ absent => by cases absent
  palette := fun _ absent => by cases absent

namespace Sourced

/-- What neither builds a palette nor forgets it. -/
theorem of_same (sourced : Sourced host slots source encoder)
    (mapper : next.colorMapper = encoder.colorMapper)
    (has : next.hasAdaptivePalette = encoder.hasAdaptivePalette) :
    Sourced host slots source next := by
  refine ⟨mapper ▸ sourced.maxColors, has.trans sourced.has, sourced.width_pos,
    sourced.height_pos, ?_⟩
  rw [mapper]
  exact sourced.palette

theorem reset (sourced : Sourced host slots source encoder) :
    Sourced host slots none encoder.reset where
  maxColors := sourced.maxColors
  has := rfl
  width_pos := fun _ absent => by cases absent
  height_pos := fun _ absent => by cases absent
  palette := fun _ absent => by cases absent

/-- A palette that was just built. -/
theorem rebuild (sourced : Sourced host slots source encoder) (width : 0 < view.width)
    (height : 0 < view.height) :
    Sourced host slots (some view)
      (encoder.rebuild host (encoder.analyzer.analyzeFrameFast view)) where
  maxColors := (FastAdaptiveColorMapper.maxColors_buildOptimalPalette host _ _).trans
    sourced.maxColors
  has := rfl
  width_pos := fun _ same => Option.some.inj same ▸ width
  height_pos := fun _ same => Option.some.inj same ▸ height
  palette := by
    rintro _ ⟨⟩
    exact @FastAdaptiveColorMapper.buildOptimalPalette_congr host encoder.colorMapper
      { maxColors := slots } sourced.maxColors _ _
      (analyzeFrameFast_congr encoder.analyzer {} view).1

theorem adaptPalette (sourced : Sourced host slots source encoder) (width : 0 < view.width)
    (height : 0 < view.height) :
    Sourced host slots (encoder.adaptedSource host view source)
      (encoder.adaptPalette host view) := by
  unfold VideoSixelEncoder.adaptPalette adaptedSource
  dsimp only
  split_ifs
  · exact sourced.rebuild width height
  · exact sourced.of_same rfl rfl

theorem beginLogicalFrame (sourced : Sourced host slots source encoder) :
    Sourced host slots source
      { encoder.beginLogicalFrame with adaptiveFramePrepared := false } := by
  rw [beginLogicalFrame_frame]
  exact sourced.of_same rfl rfl

theorem prepareFrame (sourced : Sourced host slots source encoder) (view : FrameView) :
    Sourced host slots (encoder.preparedSource host view source)
      (encoder.prepareFrame host view) := by
  have begun := sourced.beginLogicalFrame
  unfold VideoSixelEncoder.prepareFrame preparedSource
  dsimp only
  split_ifs with skipped
  · exact begun
  · simp only [Bool.or_eq_true, Bool.not_eq_true', not_or, Bool.not_eq_false] at skipped
    have geometry := FrameView.geometry_of_isValid skipped.2
    have adapted := begun.adaptPalette geometry.width_pos geometry.height_pos
    have same : { encoder.beginLogicalFrame with adaptiveFramePrepared := false }.adaptedSource host
        view source = encoder.adaptedSource host view source := by
      rw [beginLogicalFrame_frame]
      rfl
    rw [same] at adapted
    exact adapted.of_same rfl rfl

/-- The palette the pixels of a view are mapped through. -/
theorem mapped (sourced : Sourced host slots source encoder) (width : 0 < view.width)
    (height : 0 < view.height) :
    Sourced host slots (encoder.encodedSource host view source) (encoder.mapped host view) := by
  by_cases adaptive : encoder.options.useAdaptivePalette = true
  · have cleared : Sourced host slots source { encoder with limitExceeded := false } :=
      sourced.of_same rfl rfl
    have prepared : Sourced host slots (encoder.encodedSource host view source)
        (if encoder.adaptiveFramePrepared then { encoder with limitExceeded := false }
        else { encoder with limitExceeded := false }.adaptPalette host
          (ditheredSource host encoder.options view)) := by
      unfold encodedSource
      rw [adaptive, Bool.true_and]
      by_cases already : encoder.adaptiveFramePrepared = true
      · rw [if_pos already, if_neg (by rw [already]; decide)]
        exact cleared
      · rw [if_neg already, if_pos (by rw [Bool.eq_false_iff.mpr already]; rfl)]
        exact @adaptPalette host slots source { encoder with limitExceeded := false }
          (ditheredSource host encoder.options view) cleared
          (by rw [ditheredSource_width]; exact width)
          (by rw [ditheredSource_height]; exact height)
    apply prepared.of_same
    · simp only [VideoSixelEncoder.mapped, mapPixels, adaptive, if_true]
      rfl
    · simp only [VideoSixelEncoder.mapped, mapPixels, adaptive, if_true]
      rfl
  · have kept : encoder.encodedSource host view source = source := by
      unfold encodedSource
      rw [Bool.eq_false_iff.mpr adaptive, Bool.false_and, if_neg Bool.false_ne_true]
    rw [kept]
    apply sourced.of_same
    · simp only [VideoSixelEncoder.mapped, mapPixels, adaptive, Bool.false_eq_true, if_false]
      rfl
    · simp only [VideoSixelEncoder.mapped, mapPixels, adaptive, Bool.false_eq_true, if_false]
      rfl

theorem encodeView (sourced : Sourced host slots source encoder) (width : 0 < view.width)
    (height : 0 < view.height) :
    Sourced host slots (encoder.encodedSource host view source)
      (encoder.encodeView host view).1 := by
  obtain ⟨-, mapper, has, -⟩ := encodeView_frame host encoder view
  exact (sourced.mapped width height).of_same mapper has

theorem encodeIndexedView (sourced : Sourced host slots source encoder) (view : IndexedFrameView) :
    Sourced host slots source (encoder.encodeIndexedView view).1 := by
  unfold VideoSixelEncoder.encodeIndexedView
  dsimp only
  rw [write_frame, shouldEmitPalette_frame]
  exact sourced.of_same rfl rfl

theorem run (sourced : Sourced host slots source encoder) (call : EncoderCall) :
    Sourced host slots (call.source host encoder source) (call.run host encoder).1 := by
  cases call with
  | prepare frame =>
      cases frame with
      | packed view => exact sourced.prepareFrame view
      | indexed _ => exact sourced.beginLogicalFrame
  | prepareRegional frame =>
      cases frame with
      | indexed _ => exact sourced.beginLogicalFrame
      | packed view =>
          change Sourced host slots
            (if encoder.options.useAdaptivePalette && encoder.options.independentRegionQuantization
              then source else encoder.preparedSource host view source)
            (encoder.prepareRegionalFrame host view)
          unfold VideoSixelEncoder.prepareRegionalFrame
          split_ifs
          · exact sourced.beginLogicalFrame
          · exact sourced.prepareFrame view
  | prepareArea frame region =>
      cases frame with
      | indexed _ => exact sourced
      | packed view =>
          change Sourced host slots
            (if !encoder.options.useAdaptivePalette ||
                !encoder.options.independentRegionQuantization || !view.isValid || !region.isValid
              then source else some (view.region region))
            (encoder.prepareRegion host view region)
          unfold VideoSixelEncoder.prepareRegion
          split_ifs with skipped
          · exact sourced
          · simp only [Bool.or_eq_true, Bool.not_eq_true', not_or, Bool.not_eq_false] at skipped
            have positive := skipped.2
            simp only [DamageRect.isValid, Bool.and_eq_true, decide_eq_true_eq] at positive
            have rebuilt := @rebuild host slots source encoder (view.region region) sourced
              positive.1 positive.2
            exact rebuilt.of_same rfl rfl
  | encode frame =>
      cases frame with
      | packed view =>
          change Sourced host slots
            (if view.isValid then encoder.encodedSource host view source else source)
            (encoder.encodeFrame host view).1
          unfold encodeFrame
          split_ifs with valid
          · have geometry := FrameView.geometry_of_isValid valid
            exact sourced.encodeView geometry.width_pos geometry.height_pos
          · exact sourced
      | indexed view =>
          change Sourced host slots source (encoder.encodeIndexedFrame view).1
          unfold encodeIndexedFrame
          split_ifs
          · exact sourced.encodeIndexedView view
          · exact sourced
  | encodeArea frame region =>
      cases frame with
      | packed view =>
          change Sourced host slots
            (if view.isValid && regionInside region view.width view.height then
              encoder.encodedSource host (view.region region) source else source)
            (encoder.encodeRegion host view region).1
          unfold encodeRegion
          split_ifs with accepted
          · have positive := accepted
            simp only [Bool.and_eq_true, regionInside, DamageRect.isValid, decide_eq_true_eq]
              at positive
            exact @encodeView host slots source encoder (view.region region) sourced
              positive.2.1.1.1.1.1 positive.2.1.1.1.1.2
          · exact sourced
      | indexed view =>
          change Sourced host slots source (encoder.encodeIndexedRegion view region).1
          unfold encodeIndexedRegion
          split_ifs
          · exact sourced.encodeIndexedView _
          · exact sourced
  | reset => exact sourced.reset

end Sourced

/-! ### What is shown -/

/-- The colour the palette of a view shows for the channels of a pixel. -/
def shownColor (host : Host) (slots : Nat) (seen : FrameView) (channels : PixelChannels) : UInt32 :=
  (0 :: paletteColors slots seen).getD
    ((paletteOf host slots seen).getColorNumberReadOnly channels.red channels.green channels.blue) 0

/-- The image and the colours of a view, in terms of the view its palette was built from. -/
theorem Sourced.table_colors (sourced : Sourced host slots source encoder)
    (adapted : encoder.Adapted) (adaptive : encoder.options.useAdaptivePalette = true)
    (room : 2 ≤ slots) (width : 0 < view.width) (height : 0 < view.height) :
    ∃ seen, encoder.encodedSource host view source = some seen ∧ 0 < seen.width ∧
      0 < seen.height ∧ ∀ x < view.width.toNat, ∀ y < view.height.toNat,
        (encoder.table host (.packed view)).colors
            ((encoder.table host (.packed view)).image x y) =
          rgbPercent (shownColor host slots seen
            ((ditheredSource host encoder.options view).channels x y)) := by
  have mapped := sourced.mapped width height
  obtain ⟨next, has, rest, indices⟩ := adapted.mapped_adaptive host adaptive width height
  have sameOptions := (mapped_frame host encoder view).1
  rw [mapped.has] at has
  obtain ⟨seen, isSeen⟩ := Option.isSome_iff_exists.mp has
  refine ⟨seen, isSeen, mapped.width_pos seen isSeen, mapped.height_pos seen isSeen, ?_⟩
  intro x xInside y yInside
  have same := mapped.palette seen isSeen
  have wellFormed := next.built (mapped.has.trans has)
  have bounds := wellFormed.getColorNumberReadOnly_bounds
    ((ditheredSource host encoder.options view).channels x y).red
    ((ditheredSource host encoder.options view).channels x y).green
    ((ditheredSource host encoder.options view).channels x y).blue
  have small := wellFormed.le_256
  have register : (encoder.table host (.packed view)).image x y =
      (paletteOf host slots seen).getColorNumberReadOnly
        ((ditheredSource host encoder.options view).channels x y).red
        ((ditheredSource host encoder.options view).channels x y).green
        ((ditheredSource host encoder.options view).channels x y).blue := by
    rw [← same.getColorNumberReadOnly]
    simp only [table]
    rw [packedImage, flatImage_layRows indices x xInside y yInside]
    simp only [UInt8.toNat_ofNat']
    exact Nat.mod_eq_of_lt (by omega)
  have entries : (encoder.mapped host view).packedTable = 0 :: paletteColors slots seen := by
    rw [packedTable, sameOptions, if_pos adaptive, same.palette, palette_paletteOf host room]
  rw [register]
  simp only [table, packedColors, entries]
  rfl

/-! ### Runs -/

/-- The encoder of a run, with the view its palette was last built from. -/
def performSourced (host : Host) (state : VideoSixelEncoder × Option FrameView)
    (call : Nat × EncoderCall) : VideoSixelEncoder × Option FrameView :=
  (performLimited host state.1 call,
    call.2.source host (state.1.setOutputLimit call.1) state.2)

theorem performAllSourced_fst (host : Host) (calls : List (Nat × EncoderCall))
    (state : VideoSixelEncoder × Option FrameView) :
    (calls.foldl (performSourced host) state).1 = calls.foldl (performLimited host) state.1 := by
  induction calls generalizing state with
  | nil => rfl
  | cons call calls inductionHypothesis => exact inductionHypothesis (performSourced host state call)

theorem sourced_run (host : Host) (options : SixelOptions) (scratch : Scratch)
    (calls : List (Nat × EncoderCall)) :
    let state := calls.foldl (performSourced host) (create host options scratch, none)
    Sourced host options.activeColorSlots state.2 state.1 := by
  induction calls using List.reverseRecOn with
  | nil => exact sourced_create host options scratch
  | append_singleton calls call inductionHypothesis =>
      rw [List.foldl_append]
      have limited : Sourced host options.activeColorSlots
          (calls.foldl (performSourced host) (create host options scratch, none)).2
          ((calls.foldl (performSourced host) (create host options scratch, none)).1.setOutputLimit
            call.1) := inductionHypothesis.of_same rfl rfl
      exact limited.run call.2

/-- What a call on a packed frame works on, and what its palette was built from. -/
theorem readable_of_packedView {call : EncoderCall} (isView : call.view = some (.packed view))
    (host : Host) (encoder : VideoSixelEncoder) (source : Option FrameView) :
    (Frame.packed view).Readable ∧
      call.source host encoder source = encoder.encodedSource host view source := by
  cases call with
  | encode frame =>
      have split := isView
      simp only [EncoderCall.view, Option.ite_none_right_eq_some, Option.some.injEq] at split
      obtain ⟨valid, rfl⟩ := split
      exact ⟨Frame.readable_of_isReadable valid, if_pos valid⟩
  | encodeArea frame region =>
      have split := isView
      simp only [EncoderCall.view, Option.ite_none_right_eq_some, Option.some.injEq] at split
      obtain ⟨accepted, isRegion⟩ := split
      cases frame with
      | indexed _ => cases isRegion
      | packed full =>
          cases isRegion
          have both := accepted
          rw [Bool.and_eq_true] at both
          have readable : (Frame.packed full).Readable := Frame.readable_of_isReadable both.1
          exact ⟨readable.region both.2, if_pos accepted⟩
  | prepare _ => cases isView
  | prepareRegional _ => cases isView
  | prepareArea _ _ => cases isView
  | reset => cases isView

/-- Every packed view that is encoded with its definitions under the adaptive palette decodes to
a picture in which the most frequent colours, sampled from the view the palette was last built
from, are shown as they are and every other colour as the nearest of them. -/
theorem adaptive_colors_shown (host : Host) (options : SixelOptions)
    (adaptive : options.useAdaptivePalette = true) (scratch : Scratch)
    (calls : List (Nat × EncoderCall)) :
    ∀ before limit call after view, calls = before ++ (limit, call) :: after →
      call.view = some (.packed view) →
      let state := before.foldl (performSourced host) (create host options scratch, none)
      let encoder := state.1.setOutputLimit limit
      (encoder.shouldEmitPalette (encoder.table host (.packed view)).signature).2 = true →
      (call.run host encoder).2 ≠ [] →
      ∃ (seen : FrameView) (picture : Nat → Nat → UInt32),
        call.source host encoder state.2 = some seen ∧
        Best (Precedes seen) (min 128 (options.activeColorSlots - 1)) (sampledColors seen).dedup
          (paletteColors options.activeColorSlots seen) ∧
        DecodesTo (call.run host encoder).2 view.width.toNat view.height.toNat
          (encoder.table host (.packed view)).image (fun x y => rgbPercent (picture x y)) ∧
        ∀ x < view.width.toNat, ∀ y < view.height.toNat,
          let channels := (ditheredSource host encoder.options view).channels x y
          Approximates
            (host.adaptiveDistance (FastAdaptiveColorMapper.slotColor
              (FastAdaptiveColorMapper.quantizedIndex channels.red channels.green channels.blue)))
            (paletteColors options.activeColorSlots seen)
            (packRgb channels.red channels.green channels.blue) (picture x y) := by
  intro before limit call after view split isView state encoder defines written
  obtain ⟨readable, sameSource⟩ := readable_of_packedView isView host encoder state.2
  obtain ⟨sameOptions, adapted⟩ := performAllLimited_spec host options scratch before
  have sameEncoder : state.1 = before.foldl (performLimited host) (create host options scratch) :=
    performAllSourced_fst host before _
  rw [← sameEncoder] at sameOptions adapted
  have limited : encoder.Adapted := adapted.setOutputLimit limit
  have adaptiveNow : encoder.options.useAdaptivePalette = true := by
    change state.1.options.useAdaptivePalette = true
    rw [sameOptions]
    exact adaptive
  have sourced : Sourced host options.activeColorSlots state.2 encoder :=
    (sourced_run host options scratch before).of_same rfl rfl
  obtain ⟨seen, isSeen, width, height, colors⟩ := sourced.table_colors limited adaptiveNow
    options.two_le_activeColorSlots readable.width_pos readable.height_pos
  refine ⟨seen, fun x y => shownColor host options.activeColorSlots seen
    ((ditheredSource host encoder.options view).channels x y), sameSource.trans isSeen,
    best_frequent seen _, ?_, ?_⟩
  · have own := table_image_mem host (limited.mayEncode (.packed view)) readable
    obtain ⟨bytes, -⟩ := encodeAny_bytes host (limited.mayEncode (.packed view)) readable
    rw [EncoderCall.run_of_view host isView] at written ⊢
    rw [if_pos defines] at bytes
    rw [bytes] at written ⊢
    split_ifs at written ⊢
    · exact absurd rfl written
    · exact (decodesTo_streamBytes encoder.options own).congr (fun _ _ _ _ => rfl) colors
  · intro x _ y _
    exact approximates_paletteOf host options.two_le_activeColorSlots width height _

/-- Room for two colours beside the background. -/
def twoColors : SixelOptions :=
  { SixelOptions.forVideo with maxFrameColors := 2, useAdaptivePalette := true }

/-- A row that is red up to its middle, then green, and blue at the end. -/
def threeColors : FrameView where
  data := some fun offset =>
    if offset % 3 = (if offset < 72 then 0 else if offset < 108 then 1 else 2) then 255 else 0
  width := 37
  height := 1
  stride := 111

/-- Green and blue are sampled once each: the larger number is chosen. -/
example : paletteColors twoColors.activeColorSlots threeColors = [0xFF0000, 0x00FF00] := by
  decide +kernel

/-- Three colours and room for two, prepared and encoded. -/
theorem adaptive_colors_shown_threeColors :
    let call := EncoderCall.encode (.packed threeColors)
    let state := [(0, EncoderCall.prepare (.packed threeColors))].foldl
      (performSourced Host.plain) (create Host.plain twoColors {}, none)
    let encoder := state.1.setOutputLimit 0
    ∃ (seen : FrameView) (picture : Nat → Nat → UInt32),
      call.source Host.plain encoder state.2 = some seen ∧
      Best (Precedes seen) (min 128 (twoColors.activeColorSlots - 1)) (sampledColors seen).dedup
        (paletteColors twoColors.activeColorSlots seen) ∧
      DecodesTo (call.run Host.plain encoder).2 37 1
        (encoder.table Host.plain (.packed threeColors)).image
        (fun x y => rgbPercent (picture x y)) ∧
      ∀ x < 37, ∀ y < 1,
        let channels := (ditheredSource Host.plain encoder.options threeColors).channels x y
        Approximates
          (Host.plain.adaptiveDistance (FastAdaptiveColorMapper.slotColor
            (FastAdaptiveColorMapper.quantizedIndex channels.red channels.green channels.blue)))
          (paletteColors twoColors.activeColorSlots seen)
          (packRgb channels.red channels.green channels.blue) (picture x y) :=
  adaptive_colors_shown Host.plain twoColors rfl {}
    [(0, .prepare (.packed threeColors)), (0, .encode (.packed threeColors))]
    [(0, .prepare (.packed threeColors))] 0 (.encode (.packed threeColors)) []
    threeColors rfl (EncoderCall.view_encode (by decide)) (by decide +kernel)
    (by decide +kernel)

end VideoSixelEncoder

end Rasterm
