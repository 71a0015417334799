import Rasterm.Encoder.Adaptive

/-!
Contract: the register table of one encode call.

Owns, for either kind of frame, the table its pixels are mapped to (signature,
registers, colours, image), the proof that a frame selects registers of its own
table only, and the bytes of an encode call in terms of the table.
-/

set_option autoImplicit false

namespace Rasterm

open Sixel

/-! ### Frames whose pixels can be read -/

/-- For an indexed frame all indices are in its palette. -/
def Frame.isReadable : Frame → Bool
  | .packed view => view.isValid
  | .indexed view => view.hasValidIndices

theorem Frame.isValid_of_isReadable {frame : Frame} (readable : frame.isReadable = true) :
    frame.isValid = true := by
  cases frame with
  | packed view => exact readable
  | indexed view => exact IndexedFrameView.isValid_of_hasValidIndices readable

/-- What encoding needs of a frame or of a region of it. -/
structure Frame.Readable (frame : Frame) : Prop where
  width_pos : 0 < frame.width
  height_pos : 0 < frame.height
  packed : ∀ view, frame = .packed view → Rasterm.bytesPerPixel view.format ≠ 0
  indexed : ∀ view, frame = .indexed view → view.palette.isValid = true ∧
    ∀ x < view.width.toNat, ∀ y < view.height.toNat, (view.index x y).toNat < view.palette.size

theorem Frame.readable_of_isReadable {frame : Frame} (readable : frame.isReadable = true) :
    frame.Readable := by
  have geometry := Frame.geometry_of_isValid (isValid_of_isReadable readable)
  refine ⟨geometry.width_pos, geometry.height_pos, ?_, ?_⟩
  · rintro view rfl
    exact Nat.pos_iff_ne_zero.mp geometry.bytesPerPixel_pos
  · rintro view rfl
    have valid := IndexedFrameView.isValid_of_hasValidIndices readable
    refine ⟨(IndexedFrameView.geometry_of_isValid valid).palette_valid, ?_⟩
    intro x xInside y yInside
    exact IndexedFrameView.index_lt readable xInside yInside

theorem Frame.Readable.region {frame : Frame} (readable : frame.Readable) {area : DamageRegion}
    (inside : VideoSixelEncoder.regionInside area frame.width frame.height = true) :
    (frame.region area).Readable := by
  simp only [VideoSixelEncoder.regionInside, DamageRect.isValid, Bool.and_eq_true,
    decide_eq_true_eq] at inside
  obtain ⟨⟨⟨⟨⟨width, height⟩, left⟩, top⟩, right⟩, bottom⟩ := inside
  cases frame with
  | packed view =>
      refine ⟨width, height, ?_, ?_⟩
      · rintro other same
        cases same
        exact readable.packed view rfl
      · rintro other same
        cases same
  | indexed view =>
      obtain ⟨paletteValid, indices⟩ := readable.indexed view rfl
      refine ⟨width, height, ?_, ?_⟩
      · rintro other same
        cases same
      · rintro other same
        cases same
        refine ⟨paletteValid, ?_⟩
        intro x xInside y yInside
        simp only [Frame.width, Frame.height] at right bottom
        simp only [IndexedFrameView.region] at xInside yInside
        rw [IndexedFrameView.index_region]
        exact indices _ (by omega) _ (by omega)

namespace VideoSixelEncoder

/-- The registers a frame is mapped to, the colours its own palette gives them,
and the register of every pixel. -/
structure RegisterTable where
  signature : UInt64
  registers : List Nat
  colors : Nat → Percent
  image : Nat → Nat → Nat

def table (host : Host) (encoder : VideoSixelEncoder) : Frame → RegisterTable
  | .packed view =>
      { signature := paletteHash (encoder.mapped host view).packedTable
        registers := (encoder.mapped host view).packedRegisters
        colors := (encoder.mapped host view).packedColors
        image := encoder.packedImage host view }
  | .indexed view =>
      { signature := callerPaletteHash view.palette.entries (registerOffset view)
        registers := indexedRegisters view
        colors := indexedColors view
        image := indexedImage view }

/-- Only a packed frame under the adaptive palette reads the adaptive mapper. -/
def MayEncode (encoder : VideoSixelEncoder) (frame : Frame) : Prop :=
  frame.isIndexed = false → encoder.options.useAdaptivePalette = true → encoder.Adapted

theorem Adapted.mayEncode {encoder : VideoSixelEncoder} (adapted : encoder.Adapted)
    (frame : Frame) : encoder.MayEncode frame := fun _ _ => adapted

theorem mayEncode_of_fixed {encoder : VideoSixelEncoder} {frame : Frame}
    (fixed : frame.isIndexed = false → encoder.options.useAdaptivePalette = false) :
    encoder.MayEncode frame := by
  intro packed adaptive
  rw [fixed packed] at adaptive
  cases adaptive

/-- A frame selects registers of its own table. -/
theorem table_image_mem (host : Host) {encoder : VideoSixelEncoder} {frame : Frame}
    (adapted : encoder.MayEncode frame) (readable : frame.Readable) :
    ∀ x < frame.width.toNat, ∀ y < frame.height.toNat,
      (encoder.table host frame).image x y ∈ (encoder.table host frame).registers := by
  intro x xInside y yInside
  cases frame with
  | packed view =>
      have sameOptions := (mapped_frame host encoder view).1
      cases adaptive : encoder.options.useAdaptivePalette with
      | true =>
          obtain ⟨next, has, rest, indices⟩ := (adapted rfl adaptive).mapped_adaptive host adaptive
            readable.width_pos readable.height_pos
          have wellFormed := next.built has
          have bounds := wellFormed.getColorNumberReadOnly_bounds
            ((ditheredSource host encoder.options view).channels x y).red
            ((ditheredSource host encoder.options view).channels x y).green
            ((ditheredSource host encoder.options view).channels x y).blue
          have small := wellFormed.le_256
          simp only [table]
          rw [packedImage, flatImage_layRows indices x xInside y yInside, packedRegisters,
            mem_tableRegisters, packedTable, sameOptions, adaptive]
          simp only [UInt8.toNat_ofNat', Bool.true_or, if_true, and_true]
          rw [Nat.mod_eq_of_lt (by omega)]
          exact bounds
      | false =>
          have listed := readable.packed view rfl
          simp only [table]
          rw [packedImage_fixed host adaptive listed x xInside y yInside]
          exact fixedImage_mem host adaptive listed xInside yInside
  | indexed view =>
      obtain ⟨paletteValid, indices⟩ := readable.indexed view rfl
      have inside := indices x xInside y yInside
      simp only [table, indexedImage, indexedRegisters, mem_callerRegisters,
        PaletteView.length_entries paletteValid]
      omega

/-- The bytes of an encode call: the definitions if they are due, then the image. -/
theorem encodeAny_bytes (host : Host) {encoder : VideoSixelEncoder} {frame : Frame}
    (adapted : encoder.MayEncode frame) (readable : frame.Readable) :
    let table := encoder.table host frame
    let defined :=
      if (encoder.shouldEmitPalette table.signature).2 = true then table.registers else []
    let streamed := encoder.streamed (registerPieces defined table.colors) table.image
      frame.width.toNat frame.height.toNat
    (encoder.encodeAny host frame).2 =
        (if streamed.limitExceeded then []
        else streamBytes encoder.options (registerPieces defined table.colors) table.image
          frame.width.toNat frame.height.toNat) ∧
      (encoder.encodeAny host frame).1.limitExceeded = streamed.limitExceeded := by
  have own := table_image_mem host adapted readable
  cases frame with
  | packed view =>
      refine encodeView_bytes host encoder ?_
      intro x xInside y yInside
      have member := own x xInside y yInside
      simp only [table, packedRegisters, mem_tableRegisters] at member
      exact member.2.1
  | indexed view =>
      obtain ⟨paletteValid, indices⟩ := readable.indexed view rfl
      exact encodeIndexedView_bytes encoder paletteValid indices

end VideoSixelEncoder

end Rasterm
