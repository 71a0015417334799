import Rasterm.Encoder.Decoding
import Rasterm.Encoder.Encoder

/-!
Contract: the control strings `VideoSixelEncoder` returns.

Owns the list of pieces of one control string as a function of the options, the
definitions and the mapped image, what a decoder makes of it, and, for each kind
of frame, which definitions and which image the encoder writes.
-/

set_option autoImplicit false

namespace Rasterm

open Decimal Rows Sixel

/-! ### One control string -/

def streamPieces (options : SixelOptions) (definitions : List (List UInt8))
    (image : Nat → Nat → Nat) (width height : Nat) : List (List UInt8) :=
  beginPieces options ++ rasterPieces width height ++ definitions ++
    framePieces image width height ++ [ascii "\x1b\\"]

/-- The whole string as bytes. -/
def streamBytes (options : SixelOptions) (definitions : List (List UInt8))
    (image : Nat → Nat → Nat) (width height : Nat) : List UInt8 :=
  (streamPieces options definitions image width height).flatten

/-- The sixel data of a control string, after its parameters. -/
def streamData (definitions : List (List UInt8)) (image : Nat → Nat → Nat) (width height : Nat) :
    List UInt8 :=
  (rasterPieces width height).flatten ++ definitions.flatten ++
    (framePieces image width height).flatten

/-- `ESC P`, numeric parameters, `q`, the data, `ESC \`. -/
private theorem streamBytes_framed (options : SixelOptions) (definitions : List (List UInt8))
    (image : Nat → Nat → Nat) (width height : Nat) :
    ∃ parameters : List UInt8, (0x71 : UInt8) ∉ parameters ∧ Uninterrupted parameters ∧
      streamBytes options definitions image width height =
        [0x1b, 0x50] ++ (parameters ++ [0x71] ++ streamData definitions image width height) ++
          [0x1b, 0x5c] := by
  have transparent : ascii ";1;0q" = [0x3b, 0x31, 0x3b, 0x30, 0x71] := by decide
  have solid : ascii ";2;0q" = [0x3b, 0x32, 0x3b, 0x30, 0x71] := by decide
  have introducer : ascii "\x1bP" = [0x1b, 0x50] := by decide
  have terminator : ascii "\x1b\\" = [0x1b, 0x5c] := by decide
  have noFinalDigit : ∀ value, (0x71 : UInt8) ∉ numeral value := by
    intro value member
    have digit := isDigit_of_mem_numeral member
    revert digit
    decide
  obtain ⟨background, backgroundBytes, noFinal, uninterrupted⟩ : ∃ background : List UInt8,
      (if options.transparentBackground then ascii ";1;0q" else ascii ";2;0q") =
        background ++ [0x71] ∧ (0x71 : UInt8) ∉ background ∧ Uninterrupted background := by
    split_ifs
    · exact ⟨[0x3b, 0x31, 0x3b, 0x30], transparent, by decide, by decide⟩
    · exact ⟨[0x3b, 0x32, 0x3b, 0x30], solid, by decide, by decide⟩
  refine ⟨numeral (macroParameterForAspectRatio options.pixelAspectRatio) ++ background, ?_, ?_, ?_⟩
  · rw [List.mem_append, not_or]
    exact ⟨noFinalDigit _, noFinal⟩
  · rw [uninterrupted_append]
    exact ⟨Performs.uninterrupted_numeral _, uninterrupted⟩
  · simp only [streamBytes, streamPieces, beginPieces, backgroundBytes, introducer, terminator,
      streamData, List.flatten_append, List.flatten_cons, List.flatten_nil]
    simp

/-- What the data performs: raster size, definitions, pixels. -/
private theorem performs_streamData (defined : List Nat) (colors : Nat → Percent)
    (image : Nat → Nat → Nat) (width height : Nat) :
    ∃ effect : Decoder → Decoder,
      Performs (streamData (registerPieces defined colors) image width height) effect ∧
      ∀ decoder : Decoder, decoder.column = 0 → decoder.band = 0 → decoder.paints = [] →
        (effect decoder).raster = some (width, height) ∧
        (effect decoder).registers = defineAll defined colors decoder.registers ∧
        (effect decoder).paints =
          imagePaints (defineAll defined colors decoder.registers) image width height := by
  obtain ⟨paint, paintPerforms, paints⟩ := performs_framePieces image width height
  refine ⟨_, ((performs_raster width height).append
    (performs_registerPieces defined colors)).append paintPerforms, ?_⟩
  intro decoder atStart inBand blank
  have painted := paints
    { decoder with
      raster := some (width, height)
      registers := defineAll defined colors decoder.registers } atStart inBand
  refine ⟨painted.raster_eq, painted.registers_eq, ?_⟩
  refine painted.paints_eq.trans ?_
  simp only [blank, List.nil_append]

/-- What a terminal holding `registers` paints on reading a stream that defines
`colors` for `defined`. -/
theorem decode_streamBytes (options : SixelOptions) (defined : List Nat) (colors : Nat → Percent)
    (image : Nat → Nat → Nat) (width height : Nat) (registers : Registers) :
    ∃ decoder : Decoder,
      decode registers (streamBytes options (registerPieces defined colors) image width height) =
        some decoder ∧
      decoder.raster = some (width, height) ∧
      decoder.registers = defineAll defined colors registers ∧
      decoder.paints = imagePaints (defineAll defined colors registers) image width height := by
  obtain ⟨effect, performs, effects⟩ := performs_streamData defined colors image width height
  obtain ⟨parameters, noFinal, uninterrupted, bytes⟩ :=
    streamBytes_framed options (registerPieces defined colors) image width height
  have clean : Uninterrupted
      (parameters ++ [0x71] ++ streamData (registerPieces defined colors) image width height) := by
    rw [uninterrupted_append, uninterrupted_append]
    exact ⟨⟨uninterrupted, by decide⟩, performs.uninterrupted⟩
  let start : Decoder := { registers := registers }
  refine ⟨effect start, ?_, effects start rfl rfl rfl⟩
  rw [decode, bytes, dcsBody_frame clean, Option.map_some, sixelData_append noFinal,
    performs.run start ⟨rfl, rfl⟩]

/-- A control string: `ESC P` at the start, `ESC \` at the end, nothing in between that
would end it. -/
def IsControlString (bytes : List UInt8) : Prop :=
  ∃ body, Uninterrupted body ∧ bytes = [0x1b, 0x50] ++ body ++ [0x1b, 0x5c]

theorem isControlString_streamBytes (options : SixelOptions) (defined : List Nat)
    (colors : Nat → Percent) (image : Nat → Nat → Nat) (width height : Nat) :
    IsControlString (streamBytes options (registerPieces defined colors) image width height) := by
  obtain ⟨effect, performs, -⟩ := performs_streamData defined colors image width height
  obtain ⟨parameters, -, uninterrupted, bytes⟩ :=
    streamBytes_framed options (registerPieces defined colors) image width height
  refine ⟨_, ?_, bytes⟩
  rw [uninterrupted_append, uninterrupted_append]
  exact ⟨⟨uninterrupted, by decide⟩, performs.uninterrupted⟩

namespace VideoSixelEncoder

/-! ### What one write returns -/

/-- The buffer after a whole stream. -/
def streamed (encoder : VideoSixelEncoder) (definitions : List (List UInt8))
    (image : Nat → Nat → Nat) (width height : Nat) : SixelOutput :=
  ({ maximumBytes := encoder.outputLimit } : SixelOutput).appendAll
    (streamPieces encoder.options definitions image width height)

/-- The bytes returned do not depend on the scratch vectors. -/
theorem write_bytes (encoder : VideoSixelEncoder) {width height colorCount lastColorCount : Nat}
    {palette : SixelOutput → SixelOutput} {definitions : List (List UInt8)}
    {image : Nat → Nat → Nat}
    (definesOnly : ∀ output, palette output = output.appendAll definitions)
    (stored : ∀ x < width, ∀ y < height,
      flatImage encoder.paletteIndices width x y = image x y)
    (inRange : ∀ x < width, ∀ y < height, image x y < colorCount) :
    (encoder.write width height colorCount lastColorCount palette).2 =
        (if (encoder.streamed definitions image width height).limitExceeded then []
        else streamBytes encoder.options definitions image width height) ∧
      (encoder.write width height colorCount lastColorCount palette).1.limitExceeded =
        (encoder.streamed definitions image width height).limitExceeded := by
  have storedInRange : ∀ x < width, ∀ y < height,
      flatImage encoder.paletteIndices width x y < colorCount := by
    intro x xInside y yInside
    rw [stored x xInside y yInside]
    exact inRange x xInside y yInside
  have whole : (emitIndexedFrame
      (palette (emitRasterAttributes
        (beginSixel { maximumBytes := encoder.outputLimit } encoder.options) width height))
      encoder.paletteIndices width height colorCount encoder.scratch).1.append (ascii "\x1b\\") =
      encoder.streamed definitions image width height := by
    rw [emitIndexedFrame_eq storedInRange, definesOnly, framePieces_congr stored, streamed,
      streamPieces, SixelOutput.appendAll_append, SixelOutput.appendAll_append,
      SixelOutput.appendAll_append, SixelOutput.appendAll_append]
    rfl
  refine ⟨?_, congrArg SixelOutput.limitExceeded whole⟩
  simp only [write, whole]
  split_ifs with exceeded
  · rfl
  · have fits : (encoder.streamed definitions image width height).limitExceeded = false := by
      simpa using exceeded
    rw [streamed] at fits ⊢
    rw [SixelOutput.storage_appendAll fits]
    rfl

/-- Everything but the scratch vectors and two results is left alone. -/
theorem write_frame (encoder : VideoSixelEncoder) (width height colorCount lastColorCount : Nat)
    (palette : SixelOutput → SixelOutput) :
    (encoder.write width height colorCount lastColorCount palette).1 =
      { encoder with
        scratch := (encoder.write width height colorCount lastColorCount palette).1.scratch
        limitExceeded :=
          (encoder.write width height colorCount lastColorCount palette).1.limitExceeded
        lastColorCountValue := lastColorCount } := rfl

/-- Without a limit the whole stream is returned. -/
theorem streamed_of_unlimited {encoder : VideoSixelEncoder} (unlimited : encoder.outputLimit = 0)
    (definitions : List (List UInt8)) (image : Nat → Nat → Nat) (width height : Nat) :
    (encoder.streamed definitions image width height).limitExceeded = false :=
  SixelOutput.limitExceeded_appendAll_of_unlimited unlimited _

/-! ### Stored indices -/

/-- The table's register is a byte. -/
theorem toNat_register (mapper : FastColorMapper) (channels : PixelChannels) :
    (UInt8.ofNat (mapper.register channels)).toNat = mapper.register channels :=
  mapper.toNat_rgbLookup _

/-- Reading back a stored rectangle of indices. -/
theorem flatImage_layRows {encoder : VideoSixelEncoder} {cell : Nat → Nat → UInt8}
    {width height : Nat} {rest : List UInt8}
    (stored : encoder.paletteIndices = layRows cell width height ++ rest) :
    ∀ x < width, ∀ y < height,
      flatImage encoder.paletteIndices width x y = (cell x y).toNat := by
  intro x xInside y yInside
  rw [flatImage, stored, getD_layRows_append cell width height y x rest 0 yInside xInside]

/-! ### Decisions -/

/-- The decision changes the register bookkeeping alone. -/
theorem shouldEmitPalette_frame (encoder : VideoSixelEncoder) (signature : UInt64) :
    (encoder.shouldEmitPalette signature).1 =
      { encoder with
        paletteRegistersValid := (encoder.shouldEmitPalette signature).1.paletteRegistersValid
        paletteSignature := (encoder.shouldEmitPalette signature).1.paletteSignature
        framesSincePaletteRefresh :=
          (encoder.shouldEmitPalette signature).1.framesSincePaletteRefresh } := by
  unfold shouldEmitPalette
  split_ifs <;> rfl

/-- The decision reads the register bookkeeping alone. -/
theorem shouldEmitPalette_congr {left right : VideoSixelEncoder} (signature : UInt64)
    (options : left.options = right.options)
    (valid : left.paletteRegistersValid = right.paletteRegistersValid)
    (held : left.paletteSignature = right.paletteSignature)
    (age : left.framesSincePaletteRefresh = right.framesSincePaletteRefresh) :
    (left.shouldEmitPalette signature).2 = (right.shouldEmitPalette signature).2 ∧
      (left.shouldEmitPalette signature).1.paletteRegistersValid =
        (right.shouldEmitPalette signature).1.paletteRegistersValid ∧
      (left.shouldEmitPalette signature).1.paletteSignature =
        (right.shouldEmitPalette signature).1.paletteSignature ∧
      (left.shouldEmitPalette signature).1.framesSincePaletteRefresh =
        (right.shouldEmitPalette signature).1.framesSincePaletteRefresh := by
  have due : left.refreshDue = right.refreshDue := by
    rw [refreshDue, refreshDue, options, age]
  unfold shouldEmitPalette
  rw [options, valid, held, due]
  split_ifs
  · exact ⟨rfl, valid, held, age⟩
  · exact ⟨rfl, rfl, rfl, rfl⟩
  · exact ⟨rfl, valid, held, age⟩

/-! ### Indexed frames -/

/-- The register of every pixel of an indexed frame. -/
def indexedImage (frame : IndexedFrameView) (x y : Nat) : Nat :=
  (frame.index x y).toNat + registerOffset frame

/-- The definitions an indexed frame brings. -/
def indexedColors (frame : IndexedFrameView) (register : Nat) : Percent :=
  colorPercent (frame.palette.entries.getD (register - registerOffset frame) {})

def indexedRegisters (frame : IndexedFrameView) : List Nat :=
  callerRegisters frame.palette.entries.length (registerOffset frame)

theorem indexedColors_indexedImage (frame : IndexedFrameView) (x y : Nat) :
    indexedColors frame (indexedImage frame x y) = colorPercent (frame.color x y) := by
  rw [indexedColors, indexedImage, Nat.add_sub_cancel, IndexedFrameView.color]

/-- Register arithmetic never wraps for a valid index. -/
theorem toNat_index_add {frame : IndexedFrameView} {x y : Nat}
    (paletteValid : frame.palette.isValid = true)
    (inside : (frame.index x y).toNat < frame.palette.size) :
    (frame.index x y + UInt8.ofNat (registerOffset frame)).toNat = indexedImage frame x y := by
  have bound : frame.palette.size ≤ 256 := by
    simp only [PaletteView.isValid, Bool.and_eq_true, decide_eq_true_eq] at paletteValid
    exact paletteValid.2
  rw [UInt8.toNat_add, UInt8.toNat_ofNat', indexedImage, registerOffset]
  split_ifs with full
  · have small := (frame.index x y).toNat_lt
    omega
  · omega

/-- What `encodeView` writes for an indexed frame or region. -/
theorem encodeIndexedView_bytes (encoder : VideoSixelEncoder) {frame : IndexedFrameView}
    (paletteValid : frame.palette.isValid = true)
    (indicesValid : ∀ x < frame.width.toNat, ∀ y < frame.height.toNat,
      (frame.index x y).toNat < frame.palette.size) :
    let defined :=
      if (encoder.shouldEmitPalette (callerPaletteHash frame.palette.entries
        (registerOffset frame))).2 = true then indexedRegisters frame else []
    let streamed := encoder.streamed (registerPieces defined (indexedColors frame))
      (indexedImage frame) frame.width.toNat frame.height.toNat
    (encoder.encodeIndexedView frame).2 =
        (if streamed.limitExceeded then []
        else streamBytes encoder.options (registerPieces defined (indexedColors frame))
          (indexedImage frame) frame.width.toNat frame.height.toNat) ∧
      (encoder.encodeIndexedView frame).1.limitExceeded = streamed.limitExceeded := by
  intro defined streamed
  let mapped := layRows (fun x y => frame.index x y + UInt8.ofNat (registerOffset frame))
    frame.width.toNat frame.height.toNat
  let started : VideoSixelEncoder :=
    { encoder with limitExceeded := false, paletteIndices := mapped }
  let signature := callerPaletteHash frame.palette.entries (registerOffset frame)
  have decision : (started.shouldEmitPalette signature).2 =
      (encoder.shouldEmitPalette signature).2 :=
    (@shouldEmitPalette_congr started encoder signature rfl rfl rfl rfl).1
  have kept := shouldEmitPalette_frame started signature
  have stored : ∀ x < frame.width.toNat, ∀ y < frame.height.toNat,
      flatImage (started.shouldEmitPalette signature).1.paletteIndices frame.width.toNat x y =
        indexedImage frame x y := by
    intro x xInside y yInside
    have read := @flatImage_layRows (started.shouldEmitPalette signature).1
      (fun x y => frame.index x y + UInt8.ofNat (registerOffset frame)) frame.width.toNat
      frame.height.toNat [] (by rw [kept, List.append_nil]) x xInside y yInside
    rw [read, toNat_index_add paletteValid (indicesValid x xInside y yInside)]
  have inRange : ∀ x < frame.width.toNat, ∀ y < frame.height.toNat,
      indexedImage frame x y < frame.palette.size + registerOffset frame := by
    intro x xInside y yInside
    have inside := indicesValid x xInside y yInside
    rw [indexedImage]
    omega
  have definesOnly : ∀ output : SixelOutput,
      (if (started.shouldEmitPalette signature).2 = true then
        emitCallerPalette output frame.palette.entries (registerOffset frame) else output) =
      output.appendAll (registerPieces defined (indexedColors frame)) := by
    intro output
    simp only [decision, defined, signature]
    split_ifs
    · rw [emitCallerPalette_eq]
      rfl
    · rfl
  have sameStream : (started.shouldEmitPalette signature).1.streamed
      (registerPieces defined (indexedColors frame)) (indexedImage frame) frame.width.toNat
        frame.height.toNat = streamed := by
    rw [kept]
    rfl
  have sameOptions : (started.shouldEmitPalette signature).1.options = encoder.options := by
    rw [kept]
  have written := @write_bytes (started.shouldEmitPalette signature).1 frame.width.toNat
    frame.height.toNat _ frame.palette.size _ _ _ definesOnly stored inRange
  rw [sameStream, sameOptions] at written
  exact written

/-! ### Packed frames -/

/-- The encoder once the pixels of a packed frame are mapped. -/
def mapped (host : Host) (encoder : VideoSixelEncoder) (frame : FrameView) : VideoSixelEncoder :=
  ({ encoder with limitExceeded := false }.mapPixels host
    (ditheredSource host encoder.options frame)).1

/-- The register table the pixels were mapped to, entry 0 included. -/
def packedTable (encoder : VideoSixelEncoder) : List UInt32 :=
  if encoder.options.useAdaptivePalette then encoder.colorMapper.palette
  else encoder.fastColorMapper.colorNumToRgb

def packedColors (encoder : VideoSixelEncoder) (register : Nat) : Percent :=
  rgbPercent (encoder.packedTable.getD register 0)

/-- The registers defined with a packed frame: those in use, or the whole table when it
persists or adapts. -/
def packedRegisters (encoder : VideoSixelEncoder) : List Nat :=
  tableRegisters encoder.packedTable.length
    (if encoder.options.useAdaptivePalette || encoder.options.persistPaletteRegisters then
      fun _ => true
    else encoder.fastColorMapper.colorUsed)

def packedImage (host : Host) (encoder : VideoSixelEncoder) (frame : FrameView) :
    Nat → Nat → Nat :=
  flatImage (encoder.mapped host frame).paletteIndices frame.width.toNat

theorem packedSignature_eq (encoder : VideoSixelEncoder) :
    encoder.packedSignature = paletteHash encoder.packedTable := by
  unfold packedSignature packedTable
  split_ifs <;> rfl

theorem emitPackedPalette_eq (encoder : VideoSixelEncoder) (output : SixelOutput) :
    encoder.emitPackedPalette output =
      output.appendAll (registerPieces encoder.packedRegisters encoder.packedColors) := by
  have colors : encoder.packedColors =
      fun register => rgbPercent (encoder.packedTable.getD register 0) := rfl
  rw [colors, packedRegisters, emitPackedPalette, packedTable]
  cases encoder.options.useAdaptivePalette with
  | true => exact appendPalette_eq _ _ _ _
  | false =>
      cases encoder.options.persistPaletteRegisters with
      | true => exact appendPalette_eq _ _ _ _
      | false => exact appendPalette_eq _ _ _ _

/-- Mapping leaves the options, the limit and the register bookkeeping alone. -/
theorem mapped_frame (host : Host) (encoder : VideoSixelEncoder) (frame : FrameView) :
    (encoder.mapped host frame).options = encoder.options ∧
      (encoder.mapped host frame).outputLimit = encoder.outputLimit ∧
      (encoder.mapped host frame).paletteRegistersValid = encoder.paletteRegistersValid ∧
      (encoder.mapped host frame).paletteSignature = encoder.paletteSignature ∧
      (encoder.mapped host frame).framesSincePaletteRefresh =
        encoder.framesSincePaletteRefresh := by
  unfold mapped mapPixels adaptPalette rebuild storeIndices
  simp only
  split_ifs <;> exact ⟨rfl, rfl, rfl, rfl, rfl⟩

theorem mapPixels_count (host : Host) (encoder : VideoSixelEncoder) (source : FrameView) :
    (encoder.mapPixels host source).2 = (encoder.mapPixels host source).1.packedTable.length := by
  unfold mapPixels adaptPalette rebuild storeIndices packedTable
  cases adaptive : encoder.options.useAdaptivePalette with
  | true =>
      simp only [if_true]
      split_ifs <;> rfl
  | false =>
      simp only [adaptive, Bool.false_eq_true, if_false]
      rfl

/-- What `encodeView` writes for a packed frame or region. -/
theorem encodeView_bytes (host : Host) (encoder : VideoSixelEncoder) {frame : FrameView}
    (inRange : ∀ x < frame.width.toNat, ∀ y < frame.height.toNat,
      encoder.packedImage host frame x y < (encoder.mapped host frame).packedTable.length) :
    let mapped := encoder.mapped host frame
    let defined :=
      if (encoder.shouldEmitPalette (paletteHash mapped.packedTable)).2 = true
      then mapped.packedRegisters else []
    let streamed := encoder.streamed (registerPieces defined mapped.packedColors)
      (encoder.packedImage host frame) frame.width.toNat frame.height.toNat
    (encoder.encodeView host frame).2 =
        (if streamed.limitExceeded then []
        else streamBytes encoder.options (registerPieces defined mapped.packedColors)
          (encoder.packedImage host frame) frame.width.toNat frame.height.toNat) ∧
      (encoder.encodeView host frame).1.limitExceeded = streamed.limitExceeded := by
  intro mapped defined streamed
  obtain ⟨sameOptions, sameLimit, sameValid, sameSignature, sameAge⟩ :=
    mapped_frame host encoder frame
  have decision := (shouldEmitPalette_congr (paletteHash mapped.packedTable) sameOptions sameValid
    sameSignature sameAge).1
  have kept := shouldEmitPalette_frame mapped (paletteHash mapped.packedTable)
  generalize decided : mapped.shouldEmitPalette (paletteHash mapped.packedTable) = result
    at decision kept
  obtain ⟨state, definePalette⟩ := result
  have palette : ∀ output, state.emitPackedPalette output =
      output.appendAll (registerPieces mapped.packedRegisters mapped.packedColors) := by
    intro output
    rw [emitPackedPalette_eq]
    rw [show state = _ from kept]
    rfl
  have definesOnly : ∀ output : SixelOutput,
      (if definePalette = true then state.emitPackedPalette output else output) =
      output.appendAll (registerPieces defined mapped.packedColors) := by
    intro output
    by_cases emits : definePalette = true
    · have all : defined = mapped.packedRegisters := if_pos (decision.symm.trans emits)
      rw [if_pos emits, palette, all]
    · have none : defined = [] := if_neg fun due => emits (decision.trans due)
      rw [if_neg emits, none]
      rfl
  have stored : ∀ x < frame.width.toNat, ∀ y < frame.height.toNat,
      flatImage state.paletteIndices frame.width.toNat x y = encoder.packedImage host frame x y := by
    intro x _ y _
    rw [show state = _ from kept]
    rfl
  have optionsKept : state.options = encoder.options := by
    rw [show state = _ from kept]
    exact sameOptions
  have sameStream : state.streamed (registerPieces defined mapped.packedColors)
      (encoder.packedImage host frame) frame.width.toNat frame.height.toNat = streamed := by
    have limitKept : state.outputLimit = encoder.outputLimit := by
      rw [show state = _ from kept]
      exact sameLimit
    rw [VideoSixelEncoder.streamed, limitKept, optionsKept]
    rfl
  have written := @write_bytes state frame.width.toNat frame.height.toNat _
    (if encoder.options.useAdaptivePalette then mapped.packedTable.length - 1
      else mapped.fastColorMapper.usedColorCount) _ _ _ definesOnly stored inRange
  rw [sameStream, optionsKept] at written
  have unfolded : encoder.encodeView host frame =
      state.write frame.width.toNat frame.height.toNat mapped.packedTable.length
        (if encoder.options.useAdaptivePalette then mapped.packedTable.length - 1
          else mapped.fastColorMapper.usedColorCount)
        fun output => if definePalette = true then state.emitPackedPalette output else output := by
    have count := mapPixels_count host { encoder with limitExceeded := false }
      (ditheredSource host encoder.options frame)
    simp only [encodeView, count, ditheredSource_width, ditheredSource_height]
    rw [← packedSignature_eq] at decided
    have same : ({ encoder with limitExceeded := false }.mapPixels host
        (ditheredSource host encoder.options frame)).1 = mapped := rfl
    rw [same, decided]
  rw [unfolded]
  exact written

/-- Encoding changes the state of the mapping, the register bookkeeping, the scratch
vectors and the results. -/
theorem encodeView_state (host : Host) (encoder : VideoSixelEncoder) (frame : FrameView) :
    ∃ scratch, (encoder.encodeView host frame).1 =
      { ((encoder.mapped host frame).shouldEmitPalette
          (encoder.mapped host frame).packedSignature).1 with
        scratch := scratch
        limitExceeded := (encoder.encodeView host frame).1.limitExceeded
        lastColorCountValue :=
          if encoder.options.useAdaptivePalette then
            (encoder.mapped host frame).packedTable.length - 1
          else (encoder.mapped host frame).fastColorMapper.usedColorCount } := by
  have same : ({ encoder with limitExceeded := false }.mapPixels host
      (ditheredSource host encoder.options frame)).1 = encoder.mapped host frame := rfl
  have count := mapPixels_count host { encoder with limitExceeded := false }
    (ditheredSource host encoder.options frame)
  rw [same] at count
  refine ⟨(encoder.encodeView host frame).1.scratch, ?_⟩
  unfold encodeView
  simp only [same, count]
  rw [write_frame]

/-- Encoding an indexed frame stores its indices. -/
theorem encodeIndexedView_state (encoder : VideoSixelEncoder) (frame : IndexedFrameView) :
    ∃ scratch indices, (encoder.encodeIndexedView frame).1 =
      { (encoder.shouldEmitPalette
          (callerPaletteHash frame.palette.entries (registerOffset frame))).1 with
        scratch := scratch
        paletteIndices := indices
        limitExceeded := (encoder.encodeIndexedView frame).1.limitExceeded
        lastColorCountValue := frame.palette.size } := by
  have decided : ∀ (indices : List UInt8) (signature : UInt64),
      ({ encoder with limitExceeded := false, paletteIndices := indices }.shouldEmitPalette
          signature).1 =
        { (encoder.shouldEmitPalette signature).1 with
          limitExceeded := false
          paletteIndices := indices } := by
    intro indices signature
    obtain ⟨-, valid, held, age⟩ := @shouldEmitPalette_congr
      { encoder with limitExceeded := false, paletteIndices := indices } encoder signature
      rfl rfl rfl rfl
    rw [shouldEmitPalette_frame, shouldEmitPalette_frame encoder, valid, held, age]
  refine ⟨(encoder.encodeIndexedView frame).1.scratch,
    (encoder.encodeIndexedView frame).1.paletteIndices, ?_⟩
  unfold encodeIndexedView
  simp only
  rw [write_frame, decided]

/-! ### The fixed table -/

def fixedImage (host : Host) (encoder : VideoSixelEncoder) (frame : FrameView) (x y : Nat) : Nat :=
  encoder.fastColorMapper.register ((ditheredSource host encoder.options frame).channels x y)

def fixedColors (encoder : VideoSixelEncoder) (register : Nat) : Percent :=
  rgbPercent (encoder.fastColorMapper.colorNumToRgb.getD register 0)

/-- The indices of a packed frame under the fixed table. -/
theorem mapFixed_eq (host : Host) (mapper : FastColorMapper) {source : FrameView}
    (listed : bytesPerPixel source.format ≠ 0) :
    (List.range source.height.toNat).flatMap (mapFixedRow host mapper source) =
      layRows (fun x y => UInt8.ofNat (mapper.register (source.channels x y)))
        source.width.toNat source.height.toNat := by
  rw [layRows]
  apply List.flatMap_congr
  intro y _
  exact mapFixedRow_eq host mapper listed y

/-- The index vector and the marks after mapping a packed frame. -/
theorem mapped_fixed (host : Host) {encoder : VideoSixelEncoder}
    (fixed : encoder.options.useAdaptivePalette = false) {frame : FrameView}
    (listed : bytesPerPixel frame.format ≠ 0) :
    (encoder.mapped host frame).paletteIndices =
        layRows (fun x y => UInt8.ofNat (encoder.fixedImage host frame x y)) frame.width.toNat
            frame.height.toNat ++
          encoder.paletteIndices.drop (frame.height.toNat * frame.width.toNat) ∧
      (encoder.mapped host frame).fastColorMapper =
        (layRows (fun x y => UInt8.ofNat (encoder.fixedImage host frame x y)) frame.width.toNat
          frame.height.toNat).foldl (fun mapper color => mapper.markUsed color.toNat)
            encoder.fastColorMapper.reset := by
  have indices := mapFixed_eq host encoder.fastColorMapper
    (listed_ditheredSource host encoder.options listed)
  rw [ditheredSource_width, ditheredSource_height] at indices
  unfold mapped mapPixels storeIndices
  simp only [fixed, Bool.false_eq_true, if_false, ditheredSource_height, indices, length_layRows]
  exact ⟨rfl, rfl⟩

/-- The fixed table is never changed. -/
theorem packedTable_fixed (host : Host) {encoder : VideoSixelEncoder}
    (fixed : encoder.options.useAdaptivePalette = false) {frame : FrameView}
    (listed : bytesPerPixel frame.format ≠ 0) :
    (encoder.mapped host frame).packedTable = encoder.fastColorMapper.colorNumToRgb := by
  have sameOptions := (mapped_frame host encoder frame).1
  rw [packedTable, sameOptions, fixed, (mapped_fixed host fixed listed).2]
  exact (FastColorMapper.foldl_markUsed _ _).1

theorem packedImage_fixed (host : Host) {encoder : VideoSixelEncoder}
    (fixed : encoder.options.useAdaptivePalette = false) {frame : FrameView}
    (listed : bytesPerPixel frame.format ≠ 0) :
    ∀ x < frame.width.toNat, ∀ y < frame.height.toNat,
      encoder.packedImage host frame x y = encoder.fixedImage host frame x y := by
  intro x xInside y yInside
  rw [packedImage, flatImage_layRows (mapped_fixed host fixed listed).1 x xInside y yInside]
  exact toNat_register _ _

/-- Every register a packed frame selects is among the defined ones. -/
theorem fixedImage_mem (host : Host) {encoder : VideoSixelEncoder}
    (fixed : encoder.options.useAdaptivePalette = false) {frame : FrameView}
    (listed : bytesPerPixel frame.format ≠ 0) {x y : Nat}
    (xInside : x < frame.width.toNat) (yInside : y < frame.height.toNat) :
    encoder.fixedImage host frame x y ∈ (encoder.mapped host frame).packedRegisters := by
  rw [packedRegisters, mem_tableRegisters, packedTable_fixed host fixed listed]
  refine ⟨encoder.fastColorMapper.lookup_pos _, encoder.fastColorMapper.lookup_lt _, ?_⟩
  split_ifs
  · rfl
  · rw [(mapped_fixed host fixed listed).2, (FastColorMapper.foldl_markUsed _ _).2.2]
    refine Or.inr ⟨UInt8.ofNat (encoder.fixedImage host frame x y), ?_, toNat_register _ _⟩
    rw [layRows, List.mem_flatMap]
    exact ⟨y, List.mem_range.mpr yInside, List.mem_map.mpr ⟨x, List.mem_range.mpr xInside, rfl⟩⟩

end VideoSixelEncoder

end Rasterm
