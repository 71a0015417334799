import Rasterm.Encoder.Registers
import Rasterm.Encoder.RoundTrip
import Rasterm.Encoder.Twin

/-!
Contract: control strings that need nothing of the images before them.

Owns what an encode call passes to the band writer, and that without persistent
registers every control string defines all it selects, after any calls.
-/

set_option autoImplicit false

namespace Rasterm

open Rows Sixel

namespace VideoSixelEncoder

/-- The indices and the colour count passed to `emitIndexedFrame`. -/
def passed (host : Host) (encoder : VideoSixelEncoder) : Frame → List UInt8 × Nat
  | .packed view =>
      let mapping := { encoder with limitExceeded := false }.mapPixels host
        (ditheredSource host encoder.options view)
      (mapping.1.paletteIndices, mapping.2)
  | .indexed view =>
      (layRows (fun x y => view.index x y + UInt8.ofNat (registerOffset view))
        view.width.toNat view.height.toNat, view.palette.size + registerOffset view)

/-- An image that can be shown by a terminal that holds no registers. -/
structure SelfContained (host : Host) (encoder : VideoSixelEncoder) (frame : Frame) : Prop where
  /-- What is written is what `passed` says. -/
  passes : ∃ (decided : VideoSixelEncoder) (lastColorCount : Nat)
      (palette : SixelOutput → SixelOutput),
    decided.paletteIndices = (encoder.passed host frame).1 ∧
      encoder.encodeAny host frame = decided.write frame.width.toNat frame.height.toNat
        (encoder.passed host frame).2 lastColorCount palette
  inRange : ∀ x < frame.width.toNat, ∀ y < frame.height.toNat,
    flatImage (encoder.passed host frame).1 frame.width.toNat x y < (encoder.passed host frame).2
  /-- All registers of the palette are defined ahead of the bands. -/
  defines : (encoder.encodeAny host frame).2 ≠ [] →
    (encoder.encodeAny host frame).2 = streamBytes encoder.options
      (registerPieces (encoder.table host frame).registers (encoder.table host frame).colors)
      (encoder.table host frame).image frame.width.toNat frame.height.toNat
  selects : ∀ x < frame.width.toNat, ∀ y < frame.height.toNat,
    (encoder.table host frame).image x y ∈ (encoder.table host frame).registers
  /-- Read with any registers, every pixel has the colour of its own palette. -/
  decodes : (encoder.encodeAny host frame).2 ≠ [] →
    DecodesTo (encoder.encodeAny host frame).2 frame.width.toNat frame.height.toNat
      (encoder.table host frame).image
      fun x y => (encoder.table host frame).colors ((encoder.table host frame).image x y)

variable {host : Host} {encoder : VideoSixelEncoder} {frame : Frame}

theorem encodeAny_passes (host : Host) (encoder : VideoSixelEncoder) (frame : Frame) :
    ∃ (decided : VideoSixelEncoder) (lastColorCount : Nat) (palette : SixelOutput → SixelOutput),
      decided.paletteIndices = (encoder.passed host frame).1 ∧
        encoder.encodeAny host frame = decided.write frame.width.toNat frame.height.toNat
          (encoder.passed host frame).2 lastColorCount palette := by
  cases frame with
  | packed view =>
      let decision := (encoder.mapped host view).shouldEmitPalette
        (encoder.mapped host view).packedSignature
      refine ⟨decision.1,
        (if encoder.options.useAdaptivePalette then (encoder.passed host (.packed view)).2 - 1
          else (encoder.mapped host view).fastColorMapper.usedColorCount),
        (fun output => if decision.2 then decision.1.emitPackedPalette output else output), ?_, ?_⟩
      · simp only [decision]
        rw [shouldEmitPalette_frame]
        rfl
      · simp only [encodeAny, encodeView, ditheredSource_width, ditheredSource_height]
        rfl
  | indexed view =>
      let started : VideoSixelEncoder :=
        { encoder with
          limitExceeded := false
          paletteIndices := (encoder.passed host (.indexed view)).1 }
      let decision := started.shouldEmitPalette
        (callerPaletteHash view.palette.entries (registerOffset view))
      refine ⟨decision.1, view.palette.size, (fun output => if decision.2 then
        emitCallerPalette output view.palette.entries (registerOffset view) else output), ?_, rfl⟩
      simp only [decision]
      rw [shouldEmitPalette_frame]

/-- The image in the table is what the passed indices spell. -/
theorem flatImage_passed (readable : frame.Readable) :
    (∀ x < frame.width.toNat, ∀ y < frame.height.toNat,
      flatImage (encoder.passed host frame).1 frame.width.toNat x y =
        (encoder.table host frame).image x y) ∧
    ((∀ x < frame.width.toNat, ∀ y < frame.height.toNat,
        (encoder.table host frame).image x y ∈ (encoder.table host frame).registers) →
      ∀ x < frame.width.toNat, ∀ y < frame.height.toNat,
        (encoder.table host frame).image x y < (encoder.passed host frame).2) := by
  cases frame with
  | packed view =>
      refine ⟨fun _ _ _ _ => rfl, ?_⟩
      intro own x xInside y yInside
      have count : (encoder.passed host (.packed view)).2 =
          (encoder.mapped host view).packedTable.length :=
        mapPixels_count host { encoder with limitExceeded := false }
          (ditheredSource host encoder.options view)
      have member := own x xInside y yInside
      simp only [table, packedRegisters, mem_tableRegisters] at member
      rw [count]
      exact member.2.1
  | indexed view =>
      rcases readable.indexed view rfl with ⟨paletteValid, indices⟩
      constructor
      · intro x xInside y yInside
        have read := @flatImage_layRows
          { encoder with paletteIndices := (encoder.passed host (.indexed view)).1 }
          (fun x y => view.index x y + UInt8.ofNat (registerOffset view)) view.width.toNat
          view.height.toNat [] (by rw [List.append_nil]; rfl) x xInside y yInside
        exact read.trans (toNat_index_add paletteValid (indices x xInside y yInside))
      · intro _ x xInside y yInside
        have inside := indices x xInside y yInside
        simp only [table, indexedImage, passed]
        omega

/-- Without persistent registers every image brings its own. -/
theorem selfContained (persistsNot : encoder.options.persistPaletteRegisters = false)
    (adapted : encoder.Adapted) (readable : frame.Readable) : encoder.SelfContained host frame := by
  have own := table_image_mem host (adapted.mayEncode frame) readable
  rcases @flatImage_passed host encoder frame readable with ⟨passes, bounded⟩
  have decision : (encoder.shouldEmitPalette (encoder.table host frame).signature).2 = true := by
    simp [shouldEmitPalette, persistsNot]
  rcases encodeAny_bytes host (adapted.mayEncode frame) readable with ⟨bytes, -⟩
  rw [if_pos decision] at bytes
  have defines : (encoder.encodeAny host frame).2 ≠ [] →
      (encoder.encodeAny host frame).2 = streamBytes encoder.options
        (registerPieces (encoder.table host frame).registers (encoder.table host frame).colors)
        (encoder.table host frame).image frame.width.toNat frame.height.toNat := by
    intro written
    rw [bytes] at written ⊢
    split_ifs at written ⊢
    · exact absurd rfl written
    · rfl
  refine ⟨encodeAny_passes host encoder frame, ?_, defines, own, ?_⟩
  · intro x xInside y yInside
    rw [passes x xInside y yInside]
    exact bounded own x xInside y yInside
  · intro written
    rw [defines written]
    exact decodesTo_streamBytes encoder.options own

/-! ### Runs -/

/-- A call under the output limit set before it. -/
def performLimited (host : Host) (encoder : VideoSixelEncoder) (call : Nat × EncoderCall) :
    VideoSixelEncoder :=
  (call.2.run host (encoder.setOutputLimit call.1)).1

theorem sameKind_run (host : Host) (call : EncoderCall) (encoder : VideoSixelEncoder) :
    (call.run host encoder).1.SameKind encoder := by
  cases call with
  | prepare frame => exact sameKind_prepare host encoder frame
  | prepareRegional frame => exact sameKind_prepareRegional host encoder frame
  | prepareArea frame region => exact sameKind_prepareArea host encoder region frame
  | encode frame => exact sameKind_encode host encoder frame
  | encodeArea frame region => exact sameKind_encodeArea host encoder region frame
  | reset => exact ⟨rfl, rfl, rfl⟩

/-- What every run keeps: the options, and an adaptive mapper that may be read. -/
theorem performAllLimited_spec (host : Host) (options : SixelOptions) (scratch : Scratch)
    (calls : List (Nat × EncoderCall)) :
    (calls.foldl (performLimited host) (create host options scratch)).options =
        options.clamped ∧
      (calls.foldl (performLimited host) (create host options scratch)).Adapted := by
  induction calls using List.reverseRecOn with
  | nil => exact ⟨rfl, adapted_create host options scratch⟩
  | append_singleton calls call inductionHypothesis =>
      rcases inductionHypothesis with ⟨sameOptions, adapted⟩
      rw [List.foldl_append]
      constructor
      · exact (sameKind_run host call.2 _).options.trans sameOptions
      · exact EncoderCall.adapted_run host call.2 (adapted.setOutputLimit call.1)

/-- Without persistent registers every encode call of every run, whatever limits are set in
between, returns a self-contained image. -/
theorem selfContained_throughout (host : Host) (options : SixelOptions)
    (persistsNot : options.persistPaletteRegisters = false) (scratch : Scratch)
    (calls : List (Nat × EncoderCall)) (promised : ∀ call ∈ calls, call.2.Promised) :
    ∀ before limit call after, calls = before ++ (limit, call) :: after →
      let encoder := (before.foldl (performLimited host)
        (create host options scratch)).setOutputLimit limit
      ∀ frame, call.view = some frame →
        call.run host encoder = encoder.encodeAny host frame ∧ encoder.SelfContained host frame := by
  intro before limit call after split encoder frame isView
  rcases performAllLimited_spec host options scratch before with ⟨sameOptions, adapted⟩
  have member : (limit, call) ∈ calls := by
    rw [split]
    exact List.mem_append_right _ List.mem_cons_self
  refine ⟨EncoderCall.run_of_view host isView encoder, ?_⟩
  apply selfContained
  · show (before.foldl (performLimited host)
      (create host options scratch)).options.persistPaletteRegisters = false
    rw [sameOptions]
    exact persistsNot
  · exact adapted.setOutputLimit limit
  · exact (promised (limit, call) member).readable isView

/-- An indexed image between two packed ones, with an adaptive palette. -/
theorem selfContained_stripes :
    let encoder := ([(0, EncoderCall.prepare (.packed Session.blackPixel)),
        (0, .encode (.packed Session.blackPixel))].foldl (performLimited Host.plain)
      (create Host.plain { SixelOptions.forVideo with useAdaptivePalette := true } {})).setOutputLimit
        0
    encoder.SelfContained Host.plain (.indexed .stripes) := by
  have throughout := selfContained_throughout Host.plain
    { SixelOptions.forVideo with useAdaptivePalette := true } rfl {}
    [(0, .prepare (.packed Session.blackPixel)), (0, .encode (.packed Session.blackPixel)),
      (0, .encode (.indexed .stripes))] (by
        intro call member
        rcases List.mem_cons.mp member with rfl | member
        · exact trivial
        rcases List.mem_cons.mp member with rfl | member
        · exact fun valid => valid
        rw [List.mem_singleton.mp member]
        exact fun _ => by decide)
  exact (throughout [(0, .prepare (.packed Session.blackPixel)),
    (0, .encode (.packed Session.blackPixel))] 0 (.encode (.indexed .stripes)) [] rfl
    (.indexed .stripes) (EncoderCall.view_encode (by decide))).2

end VideoSixelEncoder

end Rasterm
