import Rasterm.Encoder.Registers
import Rasterm.Library.WorkerPool

/-!
Contract: packed frames that show the same image.

Owns the mapping of a frame row by row and by threads that share the rows out, and the
law that neither the layout of a frame, nor the row mapper, nor the schedule can be
seen in what an encode returns and leaves behind.
-/

set_option autoImplicit false

namespace Rasterm

open Rows

/-- The same size, and the same colour at every pixel. -/
structure FrameView.SameImage (left right : FrameView) : Prop where
  width : left.width = right.width
  height : left.height = right.height
  channels : ∀ x < left.width.toNat, ∀ y < left.height.toNat,
    left.channels x y = right.channels x y

/-- The same host with other vector instructions. -/
def Host.withSimd (host : Host) (mode : SimdMode) : Host := { host with simdMode := mode }

namespace FrameView.SameImage

variable {left right : FrameView}

theorem samples (same : left.SameImage right) :
    FastColorAnalyzer.samples left = FastColorAnalyzer.samples right := by
  unfold FastColorAnalyzer.samples
  rw [← same.width, ← same.height]
  apply List.flatMap_congr
  intro row rowMember
  apply List.map_congr_left
  intro column columnMember
  rw [List.mem_range, FastColorAnalyzer.sampleStep] at rowMember columnMember
  apply same.channels
  · rw [FastColorAnalyzer.sampleStep]
    omega
  · rw [FastColorAnalyzer.sampleStep]
    omega

theorem workingBuffer (same : left.SameImage right) :
    Rasterm.workingBuffer left = Rasterm.workingBuffer right := by
  have rows : layRows left.channels left.width.toNat left.height.toNat =
      layRows right.channels right.width.toNat right.height.toNat := by
    rw [← same.width, ← same.height]
    apply layRows_congr
    intro y yInside x xInside
    exact same.channels x xInside y yInside
  unfold Rasterm.workingBuffer
  rw [rows]

/-- A dithered copy has the layout of its own, and the same pixels. -/
theorem ditheredSource (same : left.SameImage right) (host : Host) (options : SixelOptions) :
    (Rasterm.ditheredSource host options left).SameImage
      (Rasterm.ditheredSource host options right) := by
  unfold Rasterm.ditheredSource
  split_ifs
  · exact same
  · rw [same.workingBuffer, same.width, same.height]
    exact ⟨rfl, rfl, fun _ _ _ _ => rfl⟩
  · rw [same.workingBuffer, same.width, same.height]
    exact ⟨rfl, rfl, fun _ _ _ _ => rfl⟩

end FrameView.SameImage

namespace VideoSixelEncoder

variable {host : Host} {encoder : VideoSixelEncoder} {left right frame : FrameView}

/-! ### One row at a time -/

/-- The encoder `encodeView` maps with: an adaptive palette is found now, unless
`prepareFrame` has found one. -/
def mappingEncoder (host : Host) (encoder : VideoSixelEncoder) (source : FrameView) :
    VideoSixelEncoder :=
  if encoder.options.useAdaptivePalette && !encoder.adaptiveFramePrepared then
    encoder.adaptPalette host source
  else encoder

/-- `mapRow` of either kind of palette. -/
def mapRow (host : Host) (encoder : VideoSixelEncoder) (source : FrameView) (y : Nat) :
    List UInt8 :=
  if encoder.options.useAdaptivePalette then
    (List.range source.width.toNat).map fun x =>
      let channels := source.channels x y
      UInt8.ofNat (encoder.colorMapper.getColorNumberReadOnly channels.red channels.green
        channels.blue)
  else mapFixedRow host encoder.fastColorMapper source y

/-- What `encodeView` does once all rows are mapped: keep the indices, and count the colours. -/
def keepMapped (encoder : VideoSixelEncoder) (mapped : List UInt8) : VideoSixelEncoder × Nat :=
  if encoder.options.useAdaptivePalette then
    (encoder.storeIndices mapped, encoder.colorMapper.nextColorNum)
  else
    let used := mapped.foldl (fun mapper color => mapper.markUsed color.toNat)
      encoder.fastColorMapper.reset
    ({ encoder with fastColorMapper := used }.storeIndices mapped, used.nextColorNum)

/-- `encodeView` after its rows have been mapped to these indices. -/
def encodeMapped (host : Host) (encoder : VideoSixelEncoder) (frame : FrameView)
    (indices : List UInt8) : VideoSixelEncoder × List UInt8 :=
  let source := ditheredSource host encoder.options frame
  let (mapped, colorCount) :=
    ({ encoder with limitExceeded := false }.mappingEncoder host source).keepMapped indices
  let (decided, definePalette) := mapped.shouldEmitPalette mapped.packedSignature
  let lastColorCount :=
    if encoder.options.useAdaptivePalette then colorCount - 1
    else mapped.fastColorMapper.usedColorCount
  decided.write source.width.toNat source.height.toNat colorCount lastColorCount fun output =>
    if definePalette then decided.emitPackedPalette output else output

/-- One row of a frame, as `encodeView` maps it. -/
def rowMapping (host : Host) (encoder : VideoSixelEncoder) (frame : FrameView) (y : Nat) :
    List UInt8 :=
  let source := ditheredSource host encoder.options frame
  ({ encoder with limitExceeded := false }.mappingEncoder host source).mapRow host source y

theorem options_mappingEncoder (host : Host) (encoder : VideoSixelEncoder) (source : FrameView) :
    (encoder.mappingEncoder host source).options = encoder.options := by
  unfold mappingEncoder adaptPalette rebuild
  simp only
  split_ifs <;> rfl

/-- `encodeView` maps its rows one after the other. -/
theorem encodeView_eq_encodeMapped (host : Host) (encoder : VideoSixelEncoder) (frame : FrameView) :
    encoder.encodeView host frame =
      encoder.encodeMapped host frame
        ((List.range frame.height.toNat).flatMap (encoder.rowMapping host frame)) := by
  have mapping : ∀ (state : VideoSixelEncoder) (source : FrameView),
      state.mapPixels host source =
        (state.mappingEncoder host source).keepMapped
          ((List.range source.height.toNat).flatMap
            ((state.mappingEncoder host source).mapRow host source)) := by
    intro state source
    have options := options_mappingEncoder host state source
    have rows : (state.mappingEncoder host source).mapRow host source = fun y =>
        if state.options.useAdaptivePalette then
          (List.range source.width.toNat).map fun x =>
            UInt8.ofNat ((state.mappingEncoder host source).colorMapper.getColorNumberReadOnly
              (source.channels x y).red (source.channels x y).green (source.channels x y).blue)
        else mapFixedRow host (state.mappingEncoder host source).fastColorMapper source y := by
      funext y
      rw [mapRow, options]
    rw [rows, keepMapped, options, mapPixels]
    cases adaptive : state.options.useAdaptivePalette with
    | true =>
        have chosen : state.mappingEncoder host source =
            if state.adaptiveFramePrepared then state else state.adaptPalette host source := by
          rw [mappingEncoder, adaptive]
          cases state.adaptiveFramePrepared <;> rfl
        rw [chosen]
        rfl
    | false =>
        have chosen : state.mappingEncoder host source = state := by
          rw [mappingEncoder, adaptive]
          rfl
        rw [chosen]
        rfl
  have height : (ditheredSource host encoder.options frame).height = frame.height :=
    ditheredSource_height host encoder.options frame
  rw [encodeView, encodeMapped, mapping, height]
  rfl

/-! ### Rows shared out -/

/-- A row mapped as in `mapRow`, through any of the row mappers. -/
def mapRowBy (mode : SimdMode) (encoder : VideoSixelEncoder) (source : FrameView) (y : Nat) :
    List UInt8 :=
  if encoder.options.useAdaptivePalette then
    (List.range source.width.toNat).map fun x =>
      let channels := source.channels x y
      UInt8.ofNat (encoder.colorMapper.getColorNumberReadOnly channels.red channels.green
        channels.blue)
  else mapFixedRowBy mode encoder.fastColorMapper source y

/-- The cell of the index vector a thread writes at its place, when each row has a mapper. -/
def cell (host : Host) (modes : Nat → SimdMode) (encoder : VideoSixelEncoder) (frame : FrameView)
    (x y : Nat) : UInt8 :=
  let source := ditheredSource host encoder.options frame
  (({ encoder with limitExceeded := false }.mappingEncoder host source).mapRowBy (modes y) source
    y).getD x 0

/-- `encodeView` with its rows shared out among threads, in some schedule that comes to an end,
each row going through any of the row mappers. -/
def EncodesView (host : Host) (encoder : VideoSixelEncoder) (frame : FrameView)
    (result : VideoSixelEncoder × List UInt8) : Prop :=
  ∃ (Thread : Type) (_ : DecidableEq Thread) (_ : Nonempty Thread) (schedule : List Thread)
    (modes : Nat → SimdMode) (final : WorkerPool.Pool Thread UInt8),
    Transition.Run
        (WorkerPool.step (encoder.cell host modes frame) frame.width.toNat frame.height.toNat)
        { memory := fun offset => encoder.paletteIndices.getD offset 0 } schedule final ∧
      final.Finished ∧
      result = encoder.encodeMapped host frame
        ((List.range (frame.height.toNat * frame.width.toNat)).map final.memory)

/-- The mapper of a row cannot be seen. -/
theorem mapRowBy_eq (host : Host) (mode : SimdMode) (encoder : VideoSixelEncoder)
    (listed : bytesPerPixel frame.format ≠ 0) (y : Nat) :
    encoder.mapRowBy mode frame y = encoder.mapRow host frame y := by
  rw [mapRowBy, mapRow, mapFixedRowBy_eq mode _ listed, mapFixedRow_eq host _ listed]

theorem length_rowMapping (host : Host) (encoder : VideoSixelEncoder)
    (listed : bytesPerPixel frame.format ≠ 0) (y : Nat) :
    (encoder.rowMapping host frame y).length = frame.width.toNat := by
  have width := ditheredSource_width host encoder.options frame
  simp only [rowMapping, mapRow]
  split_ifs
  · rw [List.length_map, List.length_range, width]
  · rw [mapFixedRow_eq host _ (listed_ditheredSource host encoder.options listed),
      List.length_map, List.length_range, width]

/-- Neither the schedule nor the mappers can be seen. -/
theorem EncodesView.eq {result : VideoSixelEncoder × List UInt8}
    (encodes : encoder.EncodesView host frame result) (listed : bytesPerPixel frame.format ≠ 0) :
    result = encoder.encodeView host frame := by
  rcases encodes with ⟨Thread, decidable, nonempty, schedule, modes, final, run, finished, same⟩
  have laid : layRows (encoder.cell host modes frame) frame.width.toNat frame.height.toNat =
      (List.range frame.height.toNat).flatMap (encoder.rowMapping host frame) := by
    apply List.flatMap_congr
    intro y _
    have length := length_rowMapping host encoder listed y
    apply List.ext_getElem
    · rw [List.length_map, List.length_range, length]
    · intro x inside _
      rw [List.length_map, List.length_range] at inside
      simp only [List.getElem_map, List.getElem_range, cell]
      rw [mapRowBy_eq host _ _ (listed_ditheredSource host encoder.options listed)]
      exact (List.getD_eq_getElem _ 0 (length.symm ▸ inside))
  rw [same, encodeView_eq_encodeMapped, ← laid, (WorkerPool.memory_of_finished run finished).1]

/-! ### The image alone -/

theorem adaptPalette_image (same : left.SameImage right) (mode : SimdMode)
    (encoder : VideoSixelEncoder) :
    encoder.adaptPalette (host.withSimd mode) right = encoder.adaptPalette host left := by
  have analyses : encoder.analyzer.analyzeFrameFast right =
      encoder.analyzer.analyzeFrameFast left := by
    unfold FastColorAnalyzer.analyzeFrameFast
    rw [same.samples]
  unfold adaptPalette
  rw [analyses]
  rfl

theorem prepareFrame_image (leftValid : left.isValid = true) (rightValid : right.isValid = true)
    (same : left.SameImage right) (mode : SimdMode) (encoder : VideoSixelEncoder) :
    encoder.prepareFrame (host.withSimd mode) right = encoder.prepareFrame host left := by
  unfold prepareFrame
  rw [leftValid, rightValid]
  simp only [adaptPalette_image same]

/-- A row is mapped by its colours. -/
theorem mapRow_image (listed : bytesPerPixel left.format ≠ 0)
    (otherListed : bytesPerPixel right.format ≠ 0) (same : left.SameImage right)
    (mode : SimdMode) (encoder : VideoSixelEncoder) {y : Nat} (inside : y < left.height.toNat) :
    encoder.mapRow (host.withSimd mode) right y = encoder.mapRow host left y := by
  simp only [mapRow, mapFixedRow_eq _ _ listed, mapFixedRow_eq _ _ otherListed, ← same.width]
  split_ifs
  · apply List.map_congr_left
    intro x member
    rw [same.channels x (List.mem_range.mp member) y inside]
  · apply List.map_congr_left
    intro x member
    rw [same.channels x (List.mem_range.mp member) y inside]

theorem encodeView_image (listed : bytesPerPixel left.format ≠ 0)
    (otherListed : bytesPerPixel right.format ≠ 0) (same : left.SameImage right)
    (mode : SimdMode) (encoder : VideoSixelEncoder) :
    encoder.encodeView (host.withSimd mode) right = encoder.encodeView host left := by
  have sources : (ditheredSource host encoder.options left).SameImage
      (ditheredSource (host.withSimd mode) encoder.options right) :=
    same.ditheredSource host encoder.options
  have mapping : { encoder with limitExceeded := false }.mappingEncoder (host.withSimd mode)
        (ditheredSource (host.withSimd mode) encoder.options right) =
      { encoder with limitExceeded := false }.mappingEncoder host
        (ditheredSource host encoder.options left) := by
    unfold mappingEncoder
    rw [adaptPalette_image sources mode]
  have rows : (List.range right.height.toNat).flatMap
        (encoder.rowMapping (host.withSimd mode) right) =
      (List.range left.height.toNat).flatMap (encoder.rowMapping host left) := by
    rw [same.height]
    apply List.flatMap_congr
    intro y member
    simp only [rowMapping, mapping]
    apply mapRow_image (listed_ditheredSource host encoder.options listed)
      (listed_ditheredSource (host.withSimd mode) encoder.options otherListed) sources
    rw [ditheredSource_height, same.height]
    exact List.mem_range.mp member
  rw [encodeView_eq_encodeMapped, encodeView_eq_encodeMapped, rows]
  simp only [encodeMapped, mapping, ditheredSource_width, ditheredSource_height, same.width,
    same.height]

/-! ### Histories -/

/-- `prepareFrame` and `encodeFrame` for one frame after another, each in a schedule of its own. -/
inductive EncodesAll (host : Host) :
    VideoSixelEncoder → List FrameView → VideoSixelEncoder → List (List UInt8) → Prop where
  | nil (encoder : VideoSixelEncoder) : EncodesAll host encoder [] encoder []
  | cons {encoder next final : VideoSixelEncoder} {frame : FrameView} {frames : List FrameView}
      {bytes : List UInt8} {outputs : List (List UInt8)}
      (head : (encoder.prepareFrame host frame).EncodesView host frame (next, bytes))
      (tail : EncodesAll host next frames final outputs) :
      EncodesAll host encoder (frame :: frames) final (bytes :: outputs)

theorem EncodesAll.singleton {result : VideoSixelEncoder × List UInt8}
    (encodes : (encoder.prepareFrame host frame).EncodesView host frame result) :
    EncodesAll host encoder [frame] result.1 [result.2] := by
  cases result
  exact .cons encodes (.nil _)

/-- The plain loop over the rows. -/
theorem encodesView_encodeFrame (host : Host) (encoder : VideoSixelEncoder)
    (valid : frame.isValid = true) :
    encoder.EncodesView host frame (encoder.encodeFrame host frame) := by
  have listed := (FrameView.geometry_of_isValid valid).format_listed
  rcases WorkerPool.exists_finished (encoder.cell host (fun _ => .scalar) frame) frame.width.toNat
    frame.height.toNat (fun offset => encoder.paletteIndices.getD offset 0) with
    ⟨schedule, final, run, finished⟩
  have encodes : encoder.EncodesView host frame (encoder.encodeMapped host frame
      ((List.range (frame.height.toNat * frame.width.toNat)).map final.memory)) :=
    ⟨Unit, inferInstance, inferInstance, schedule, _, final, run, finished, rfl⟩
  have same := encodes.eq listed
  rw [same] at encodes
  rw [encodeFrame, if_pos valid]
  exact encodes

/-- Frames that show the same images, one after the other, from any state of the encoder, under
any vector instructions and in any schedules: the same bytes, and the same encoder in the end. -/
theorem encoded_by_image (host : Host) (mode : SimdMode) (encoder : VideoSixelEncoder)
    {lefts rights : List FrameView} (valid : ∀ frame ∈ lefts ++ rights, frame.isValid = true)
    (same : List.Forall₂ FrameView.SameImage lefts rights)
    {leftFinal rightFinal : VideoSixelEncoder} {leftOutputs rightOutputs : List (List UInt8)}
    (leftRun : EncodesAll host encoder lefts leftFinal leftOutputs)
    (rightRun : EncodesAll (host.withSimd mode) encoder rights rightFinal rightOutputs) :
    leftOutputs = rightOutputs ∧ leftFinal = rightFinal := by
  induction same generalizing encoder leftOutputs rightOutputs with
  | nil =>
      cases leftRun
      cases rightRun
      exact ⟨rfl, rfl⟩
  | @cons left right lefts rights sameImage _ inductionHypothesis =>
      cases leftRun with
      | cons leftHead leftTail =>
      cases rightRun with
      | cons rightHead rightTail =>
      have leftValid := valid left (List.mem_append_left _ List.mem_cons_self)
      have rightValid := valid right (List.mem_append_right _ List.mem_cons_self)
      have leftListed := (FrameView.geometry_of_isValid leftValid).format_listed
      have rightListed := (FrameView.geometry_of_isValid rightValid).format_listed
      have heads := rightHead.eq rightListed
      rw [prepareFrame_image leftValid rightValid sameImage,
        encodeView_image leftListed rightListed sameImage, ← leftHead.eq leftListed,
        Prod.mk.injEq] at heads
      rcases heads with ⟨sameNext, sameBytes⟩
      rw [sameNext] at rightTail
      have rest := inductionHypothesis _
        (fun frame member => valid frame
          ((List.mem_append.mp member).elim
            (fun before => List.mem_append_left _ (List.mem_cons_of_mem _ before))
            fun after => List.mem_append_right _ (List.mem_cons_of_mem _ after)))
        leftTail rightTail
      exact ⟨by rw [sameBytes, rest.1], rest.2⟩

/-- A colour of its own for each pixel. -/
def shade (x y : Nat) : List UInt8 :=
  [UInt8.ofNat (3 * x), UInt8.ofNat (80 * y), UInt8.ofNat (x + y)]

/-- Three rows, wide enough for the vector loop and six pixels more. -/
def packedShades : FrameView where
  data := some fun offset => (shade (offset % 210 / 3) (offset / 210)).getD (offset % 3) 0
  width := 70
  height := 3
  stride := 210

/-- The channels the other way round, with alpha bytes and padded rows. -/
def paddedShades : FrameView where
  data := some fun offset =>
    ((shade (offset % 288 / 4) (offset / 288)).reverse ++ [9]).getD (offset % 4) 0
  width := 70
  height := 3
  stride := 288
  format := .bgra32

theorem sameImage_shades : packedShades.SameImage paddedShades := by
  refine ⟨rfl, rfl, ?_⟩
  decide +kernel

/-- The same rows in two layouts, pixel by pixel and in groups of eight. -/
theorem encoded_by_image_shades :
    let encoder := create Host.plain SixelOptions.forVideo {}
    let wide := Host.plain.withSimd .avx2
    (encoder.prepareFrame Host.plain packedShades).encodeFrame Host.plain packedShades =
      (encoder.prepareFrame wide paddedShades).encodeFrame wide paddedShades := by
  have leftValid : packedShades.isValid = true := by decide
  have rightValid : paddedShades.isValid = true := by decide
  have valid : ∀ frame ∈ [packedShades] ++ [paddedShades], frame.isValid = true := by
    intro frame member
    rcases List.mem_cons.mp member with first | second
    · rw [first]
      exact leftValid
    · rw [List.mem_singleton.mp second]
      exact rightValid
  have left := encodesView_encodeFrame Host.plain
    ((create Host.plain SixelOptions.forVideo {}).prepareFrame Host.plain packedShades) leftValid
  have right := encodesView_encodeFrame (Host.plain.withSimd .avx2)
    ((create Host.plain SixelOptions.forVideo {}).prepareFrame (Host.plain.withSimd .avx2)
      paddedShades) rightValid
  rcases encoded_by_image Host.plain .avx2 (create Host.plain SixelOptions.forVideo {})
    valid (.cons sameImage_shades .nil) (.singleton left) (.singleton right) with
    ⟨outputs, encoders⟩
  exact Prod.ext encoders (List.singleton_inj.mp outputs)

end VideoSixelEncoder

end Rasterm
