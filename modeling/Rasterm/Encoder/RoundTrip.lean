import Rasterm.Encoder.Table

/-!
Contract: decoding a control string gives back the encoded frame.

Owns the register and the colour a frame's pixel is encoded with, and the round
trip for indexed frames and for packed frames under the fixed table.
-/

set_option autoImplicit false

namespace Rasterm

open Sixel

/-- A decoder, whatever registers the terminal holds, reads a raster of the given
size in which every pixel is painted exactly once, by its own register with its
own colour, and nothing is painted outside. -/
def DecodesTo (bytes : List UInt8) (width height : Nat) (register : Nat → Nat → Nat)
    (color : Nat → Nat → Percent) : Prop :=
  ∀ registers : Registers, ∃ decoder : Decoder,
    decode registers bytes = some decoder ∧
    decoder.raster = some (width, height) ∧
    ∀ x y, decoder.paints.filter (Paint.isAt x y) =
      if x < width ∧ y < height then [⟨x, y, register x y, some (color x y)⟩] else []

/-- A stream that defines the registers of its own pixels decodes to them. -/
theorem decodesTo_streamBytes (options : SixelOptions) {defined : List Nat}
    {colors : Nat → Percent} {image : Nat → Nat → Nat} {width height : Nat}
    (own : ∀ x < width, ∀ y < height, image x y ∈ defined) :
    DecodesTo (streamBytes options (registerPieces defined colors) image width height) width height
      image fun x y => colors (image x y) := by
  intro registers
  obtain ⟨decoder, decoded, raster, -, paints⟩ :=
    decode_streamBytes options defined colors image width height registers
  refine ⟨decoder, decoded, raster, ?_⟩
  intro x y
  rw [paints, filter_imagePaints]
  split_ifs with inside
  · rw [defineAll, if_pos (own x inside.1 y inside.2)]
  · rfl

/-- Only the pixels inside the raster matter. -/
theorem DecodesTo.congr {bytes : List UInt8} {width height : Nat}
    {register otherRegister : Nat → Nat → Nat} {color otherColor : Nat → Nat → Percent}
    (decodes : DecodesTo bytes width height register color)
    (sameRegister : ∀ x < width, ∀ y < height, register x y = otherRegister x y)
    (sameColor : ∀ x < width, ∀ y < height, color x y = otherColor x y) :
    DecodesTo bytes width height otherRegister otherColor := by
  intro registers
  obtain ⟨decoder, decoded, raster, paints⟩ := decodes registers
  refine ⟨decoder, decoded, raster, ?_⟩
  intro x y
  rw [paints]
  split_ifs with inside
  · rw [sameRegister x inside.1 y inside.2, sameColor x inside.1 y inside.2]
  · rfl

namespace VideoSixelEncoder

/-- The signature of the registers a frame uses, under the fixed table. -/
def fixedSignature (encoder : VideoSixelEncoder) : Frame → UInt64
  | .packed _ => paletteHash encoder.fastColorMapper.colorNumToRgb
  | .indexed view => callerPaletteHash view.palette.entries (registerOffset view)

/-- The register of a pixel: what the table assigns to it, or its index plus the
offset of the palette. -/
def pixelRegister (host : Host) (encoder : VideoSixelEncoder) (frame : Frame) (x y : Nat) : Nat :=
  match frame with
  | .packed view => encoder.fixedImage host view x y
  | .indexed view => (view.index x y).toNat + registerOffset view

/-- The colour of a pixel, in percent. -/
def pixelColor (host : Host) (encoder : VideoSixelEncoder) (frame : Frame) (x y : Nat) : Percent :=
  match frame with
  | .packed view => encoder.fixedColors (encoder.fixedImage host view x y)
  | .indexed view => colorPercent (view.color x y)

variable {encoder : VideoSixelEncoder} {frame : Frame}

/-- Under the fixed table the mapped image is the table's. -/
theorem table_fixed (host : Host) (readable : frame.Readable)
    (fixed : frame.isIndexed = false → encoder.options.useAdaptivePalette = false) :
    (encoder.table host frame).signature = encoder.fixedSignature frame ∧
      ∀ x < frame.width.toNat, ∀ y < frame.height.toNat,
        (encoder.table host frame).image x y = encoder.pixelRegister host frame x y ∧
          (encoder.table host frame).colors ((encoder.table host frame).image x y) =
            encoder.pixelColor host frame x y := by
  cases frame with
  | packed view =>
      have listed := readable.packed view rfl
      have table := packedTable_fixed host (fixed rfl) listed
      refine ⟨congrArg paletteHash table, ?_⟩
      intro x xInside y yInside
      have image := packedImage_fixed host (fixed rfl) listed x xInside y yInside
      refine ⟨image, ?_⟩
      simp only [VideoSixelEncoder.table, packedColors, table, image]
      rfl
  | indexed view =>
      refine ⟨rfl, ?_⟩
      intro x _ y _
      exact ⟨rfl, indexedColors_indexedImage view x y⟩

/-- A view that brings its definitions decodes to its own pixels, unless it hits
the output limit. -/
theorem decode_encodeAny (host : Host) (readable : frame.Readable)
    (fixed : frame.isIndexed = false → encoder.options.useAdaptivePalette = false)
    (fits : (encoder.encodeAny host frame).1.limitExceeded = false)
    (defines : (encoder.shouldEmitPalette (encoder.fixedSignature frame)).2 = true) :
    IsControlString (encoder.encodeAny host frame).2 ∧
      DecodesTo (encoder.encodeAny host frame).2 frame.width.toNat frame.height.toNat
        (encoder.pixelRegister host frame) (encoder.pixelColor host frame) := by
  have may := mayEncode_of_fixed fixed
  obtain ⟨bytes, exceeded⟩ := encodeAny_bytes host may readable
  obtain ⟨signature, image⟩ := table_fixed host readable fixed
  rw [← exceeded, fits] at bytes
  rw [signature, if_pos defines] at bytes
  simp only [Bool.false_eq_true, if_false] at bytes
  rw [bytes]
  refine ⟨isControlString_streamBytes _ _ _ _ _ _, ?_⟩
  have decodes := @decodesTo_streamBytes encoder.options _ (encoder.table host frame).colors _ _ _
    (table_image_mem host may readable)
  exact DecodesTo.congr decodes (fun x xInside y yInside => (image x xInside y yInside).1)
    fun x xInside y yInside => (image x xInside y yInside).2

/-- Decode undoes encode, whatever the scratch vectors and the registers held. -/
theorem decode_encode (host : Host) (encoder : VideoSixelEncoder) (frame : Frame)
    (readable : frame.isReadable = true)
    (fixed : frame.isIndexed = false → encoder.options.useAdaptivePalette = false)
    (unlimited : encoder.outputLimit = 0)
    (defines : (encoder.shouldEmitPalette (encoder.fixedSignature frame)).2 = true) :
    IsControlString (encoder.encode host frame).2 ∧
      DecodesTo (encoder.encode host frame).2 frame.width.toNat frame.height.toNat
        (encoder.pixelRegister host frame) (encoder.pixelColor host frame) := by
  have view := Frame.readable_of_isReadable readable
  have fits : (encoder.encodeAny host frame).1.limitExceeded = false := by
    obtain ⟨-, exceeded⟩ := encodeAny_bytes host (mayEncode_of_fixed fixed) view
    rw [exceeded, streamed_of_unlimited unlimited]
  rw [encode_eq, if_pos (Frame.isValid_of_isReadable readable)]
  exact decode_encodeAny host view fixed fits defines

theorem decode_encode_stripes :
    IsControlString
        ((create Host.plain .forVideo {}).encode Host.plain (.indexed .stripes)).2 ∧
      DecodesTo ((create Host.plain .forVideo {}).encode Host.plain (.indexed .stripes)).2 4 7
        ((create Host.plain .forVideo {}).pixelRegister Host.plain (.indexed .stripes))
        ((create Host.plain .forVideo {}).pixelColor Host.plain (.indexed .stripes)) :=
  decode_encode Host.plain (create Host.plain .forVideo {}) (.indexed .stripes) (by decide)
    (fun packed => by cases packed) rfl rfl

end VideoSixelEncoder

end Rasterm
