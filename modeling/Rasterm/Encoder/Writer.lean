import Rasterm.Encoder.Palette
import Rasterm.Library.Sixel

/-!
Contract: the SIXEL writer: the bounded output buffer and the functions that
write the introducer, the raster attributes, the palettes and the bands.

Once the limit is exceeded every append is a no-op, so each writing function
appends a fixed list of pieces whether or not it leaves its loops early; the
`…_eq` theorems say which. Decoding the pieces is not owned here.
-/

set_option autoImplicit false

namespace Rasterm

open Decimal

/-! ### The bounded buffer -/

structure SixelOutput where
  storage : List UInt8 := []
  maximumBytes : Nat := 0
  limitExceeded : Bool := false
deriving DecidableEq, Repr

namespace SixelOutput

def append (output : SixelOutput) (bytes : List UInt8) : SixelOutput :=
  if output.limitExceeded then output
  else if output.maximumBytes > 0 ∧
      (output.storage.length > output.maximumBytes ∨
        bytes.length > output.maximumBytes - output.storage.length) then
    { output with limitExceeded := true }
  else { output with storage := output.storage ++ bytes }

def appendNumber (output : SixelOutput) (value : Nat) : SixelOutput :=
  output.append (numeral value)

/-- Several appends in order. -/
def appendAll (output : SixelOutput) (pieces : List (List UInt8)) : SixelOutput :=
  pieces.foldl append output

@[simp] theorem appendAll_nil (output : SixelOutput) : output.appendAll [] = output := rfl

@[simp] theorem appendAll_cons (output : SixelOutput) (piece : List UInt8)
    (pieces : List (List UInt8)) :
    output.appendAll (piece :: pieces) = (output.append piece).appendAll pieces := rfl

theorem appendAll_append (output : SixelOutput) (left right : List (List UInt8)) :
    output.appendAll (left ++ right) = (output.appendAll left).appendAll right := by
  simp [appendAll]

theorem append_of_exceeded {output : SixelOutput} (exceeded : output.limitExceeded = true)
    (bytes : List UInt8) : output.append bytes = output := by
  simp [append, exceeded]

theorem appendAll_of_exceeded {output : SixelOutput} (exceeded : output.limitExceeded = true)
    (pieces : List (List UInt8)) : output.appendAll pieces = output := by
  induction pieces with
  | nil => rfl
  | cons piece pieces inductionHypothesis =>
      rw [appendAll_cons, append_of_exceeded exceeded, inductionHypothesis]

/-- A buffer that did not overflow holds every piece in full. -/
theorem storage_appendAll {output : SixelOutput} {pieces : List (List UInt8)}
    (fits : (output.appendAll pieces).limitExceeded = false) :
    (output.appendAll pieces).storage = output.storage ++ pieces.flatten := by
  induction pieces generalizing output with
  | nil => simp
  | cons piece pieces inductionHypothesis =>
      rw [appendAll_cons] at fits ⊢
      rw [inductionHypothesis fits]
      have kept : (output.append piece).limitExceeded = false := by
        by_contra exceeded
        rw [appendAll_of_exceeded (by simpa using exceeded)] at fits
        exact exceeded fits
      unfold append at kept ⊢
      split_ifs at kept ⊢ with already beyond
      · simp [already] at kept
      · simp

theorem limitExceeded_append_of_unlimited {output : SixelOutput}
    (unlimited : output.maximumBytes = 0) (bytes : List UInt8) :
    (output.append bytes).limitExceeded = output.limitExceeded ∧
      (output.append bytes).maximumBytes = 0 := by
  unfold append
  split_ifs with already beyond
  · exact ⟨rfl, unlimited⟩
  · omega
  · exact ⟨rfl, unlimited⟩

/-- Without a limit nothing is ever refused. -/
theorem limitExceeded_appendAll_of_unlimited {output : SixelOutput}
    (unlimited : output.maximumBytes = 0) (pieces : List (List UInt8)) :
    (output.appendAll pieces).limitExceeded = output.limitExceeded := by
  induction pieces generalizing output with
  | nil => rfl
  | cons piece pieces inductionHypothesis =>
      obtain ⟨same, stillUnlimited⟩ := limitExceeded_append_of_unlimited unlimited piece
      rw [appendAll_cons, inductionHypothesis stillUnlimited, same]

@[simp] theorem maximumBytes_append (output : SixelOutput) (bytes : List UInt8) :
    (output.append bytes).maximumBytes = output.maximumBytes := by
  unfold append
  split_ifs <;> rfl

/-- The buffer stays within its limit. -/
theorem length_storage_appendAll {output : SixelOutput} (limited : 0 < output.maximumBytes)
    (within : output.storage.length ≤ output.maximumBytes) (pieces : List (List UInt8)) :
    (output.appendAll pieces).storage.length ≤ output.maximumBytes := by
  induction pieces generalizing output with
  | nil => exact within
  | cons piece pieces inductionHypothesis =>
      rw [appendAll_cons, ← maximumBytes_append output piece]
      apply inductionHypothesis
      · rwa [maximumBytes_append]
      · rw [maximumBytes_append]
        unfold append
        split_ifs with exceeded beyond
        · exact within
        · exact within
        · simp only [List.length_append]
          omega

/-- A limit is exceeded exactly when the pieces together are longer. -/
theorem limitExceeded_appendAll_iff {output : SixelOutput} (fits : output.limitExceeded = false)
    (limited : 0 < output.maximumBytes) (within : output.storage.length ≤ output.maximumBytes)
    (pieces : List (List UInt8)) :
    (output.appendAll pieces).limitExceeded = true ↔
      output.maximumBytes < output.storage.length + pieces.flatten.length := by
  induction pieces generalizing output with
  | nil =>
      rw [appendAll_nil, fits]
      simpa using within
  | cons piece pieces inductionHypothesis =>
      rw [appendAll_cons, List.flatten_cons, List.length_append]
      by_cases beyond : output.storage.length > output.maximumBytes ∨
          piece.length > output.maximumBytes - output.storage.length
      · have refused : (output.append piece).limitExceeded = true := by
          rw [append, fits, if_neg Bool.false_ne_true, if_pos ⟨limited, beyond⟩]
        rw [appendAll_of_exceeded refused, refused]
        simp only [true_iff]
        omega
      · have stored : output.append piece = { output with storage := output.storage ++ piece } := by
          rw [append, fits, if_neg Bool.false_ne_true, if_neg fun both => beyond both.2]
        have rest := @inductionHypothesis { output with storage := output.storage ++ piece } fits
          limited (by simp only [List.length_append]; omega)
        rw [stored, rest, List.length_append, Nat.add_assoc]

end SixelOutput

/-! ### Introducer, raster attributes and palettes -/

def macroParameterForAspectRatio (pixelAspectRatio : Int) : Nat :=
  if pixelAspectRatio = 2 then 0
  else if pixelAspectRatio = 3 then 3
  else if pixelAspectRatio = 5 then 2
  else 7

/-- The bytes of a source literal. -/
def ascii (text : String) : List UInt8 := text.toList.map fun character =>
  UInt8.ofNat character.toNat

def beginPieces (options : SixelOptions) : List (List UInt8) :=
  [ascii "\x1bP", numeral (macroParameterForAspectRatio options.pixelAspectRatio),
    if options.transparentBackground then ascii ";1;0q" else ascii ";2;0q"]

def beginSixel (output : SixelOutput) (options : SixelOptions) : SixelOutput :=
  ((output.append (ascii "\x1bP")).appendNumber
    (macroParameterForAspectRatio options.pixelAspectRatio)).append
      (if options.transparentBackground then ascii ";1;0q" else ascii ";2;0q")

def rasterPieces (width height : Nat) : List (List UInt8) :=
  [ascii "\"1;1;", numeral width, ascii ";", numeral height]

def emitRasterAttributes (output : SixelOutput) (width height : Nat) : SixelOutput :=
  (((output.append (ascii "\"1;1;")).appendNumber width).append (ascii ";")).appendNumber height

/-- `round(value * 100.0 / 255.0)`; the exact quotient is never half-way between integers. -/
def roundedTo100 (value : Nat) : Nat := (200 * value + 255) / 510

/-- `(value * 100 + 127) / 255`. -/
def to100 (value : Nat) : Nat := (value * 100 + 127) / 255

/-- The two roundings agree on every channel. -/
theorem roundedTo100_eq_to100 (value : Nat) : roundedTo100 value = to100 value := by
  unfold roundedTo100 to100
  omega

/-- A register definition. -/
def definitionPieces (register red green blue : Nat) : List (List UInt8) :=
  [ascii "#", numeral register, ascii ";2;", numeral red, ascii ";", numeral green, ascii ";",
    numeral blue]

def define (output : SixelOutput) (register red green blue : Nat) : SixelOutput :=
  (((((((output.append (ascii "#")).appendNumber register).append (ascii ";2;")).appendNumber
    red).append (ascii ";")).appendNumber green).append (ascii ";")).appendNumber blue

def rgbRed (rgb : UInt32) : Nat := ((rgb >>> 16) &&& 0xff).toNat

def rgbGreen (rgb : UInt32) : Nat := ((rgb >>> 8) &&& 0xff).toNat

def rgbBlue (rgb : UInt32) : Nat := (rgb &&& 0xff).toNat

def appendPalette (output : SixelOutput) (palette : List UInt32) (colorCount : Nat)
    (colorsUsed : Nat → Bool) : SixelOutput :=
  ((List.range colorCount).drop 1).foldl
    (fun output register =>
      if output.limitExceeded then output
      else if !colorsUsed register then output
      else
        let rgb := palette.getD register 0
        define output register (roundedTo100 (rgbRed rgb)) (roundedTo100 (rgbGreen rgb))
          (roundedTo100 (rgbBlue rgb)))
    output

/-- `emitPalette(FastColorMapper)`: the colours in use. -/
def emitFixedPalette (output : SixelOutput) (mapper : FastColorMapper) : SixelOutput :=
  appendPalette output mapper.colorNumToRgb mapper.nextColorNum mapper.colorUsed

def emitFullPalette (output : SixelOutput) (mapper : FastColorMapper) : SixelOutput :=
  appendPalette output mapper.colorNumToRgb mapper.nextColorNum fun _ => true

/-- `emitPalette(FastAdaptiveColorMapper)`. -/
def emitAdaptivePalette (output : SixelOutput) (mapper : FastAdaptiveColorMapper) : SixelOutput :=
  appendPalette output mapper.palette mapper.nextColorNum fun _ => true

/-- `emitPalette(PaletteView, firstRegister)`. -/
def emitCallerPalette (output : SixelOutput) (palette : List RgbColor) (firstRegister : Nat) :
    SixelOutput :=
  (List.range palette.length).foldl
    (fun output index =>
      if output.limitExceeded then output
      else
        let color := palette.getD index {}
        define output (index + firstRegister) (to100 color.red.toNat) (to100 color.green.toNat)
          (to100 color.blue.toNat))
    output

/-! ### Bands -/

def maximumRepeat : Nat := 65535

/-- The character that paints the rows of `value`. -/
def sixelByte (value : Nat) : UInt8 := UInt8.ofNat (0x3f + min value 63)

def runPieces (character : UInt8) (run : Nat) : List (List UInt8) :=
  if run = 1 then [[character]]
  else if run = 2 then [[character], [character]]
  else [ascii "!", numeral run, [character]]

/-- The loop of `emitRepeat`; every round writes at least one column. -/
def emitRepeatLoop (character : UInt8) : Nat → Nat → SixelOutput → SixelOutput
  | 0, _, output => output
  | fuel + 1, remaining, output =>
      if remaining = 0 then output
      else if output.limitExceeded then output
      else
        let run := min remaining maximumRepeat
        let written :=
          if run = 1 then output.append [character]
          else if run = 2 then (output.append [character]).append [character]
          else ((output.append (ascii "!")).appendNumber run).append [character]
        emitRepeatLoop character fuel (remaining - run) written

def emitRepeat (output : SixelOutput) (count value : Nat) : SixelOutput :=
  emitRepeatLoop (sixelByte value) count count output

/-- Length of the run of equal masks that starts at `column`. -/
def runLength (masks : Nat → Nat) (lastColumn column : Nat) : Nat → Nat → Nat
  | 0, run => run
  | fuel + 1, run =>
      if column + run ≤ lastColumn ∧ masks (column + run) = masks column then
        runLength masks lastColumn column fuel (run + 1)
      else run

/-- The loop of `emitColorBand` from `column` on. -/
def emitColumns (masks : Nat → Nat) (lastColumn : Nat) : Nat → Nat → SixelOutput → SixelOutput
  | 0, _, output => output
  | fuel + 1, column, output =>
      if column > lastColumn then output
      else if output.limitExceeded then output
      else
        let run := runLength masks lastColumn column (lastColumn + 1 - column) 1
        emitColumns masks lastColumn fuel (column + run) (emitRepeat output run (masks column))

def emitColorBand (output : SixelOutput) (masks : Nat → Nat)
    (firstColumn lastColumn colorIndex : Nat) : SixelOutput :=
  let selected := (output.append (ascii "#")).appendNumber colorIndex
  let skipped := if firstColumn > 0 then emitRepeat selected firstColumn 0 else selected
  emitColumns masks lastColumn (lastColumn + 1 - firstColumn) firstColumn skipped

/-- The thread-local vectors of `emitIndexedFrame`. They are never shrunk, so a
call finds in them whatever earlier calls left. -/
structure Scratch where
  bandMasks : Nat → Nat := fun _ => 0
  colorsInBand : List Nat := []
  colorSlot : Nat → Int := fun _ => 0
  firstColumn : Nat → Nat := fun _ => 0
  lastColumn : Nat → Nat := fun _ => 0

namespace Scratch

/-- Forget the colours of the previous band. -/
def beginBand (scratch : Scratch) (colorCount : Nat) : Scratch :=
  { scratch with
    colorsInBand := []
    colorSlot := fun color => if color < colorCount then -1 else scratch.colorSlot color }

/-- Give a colour its slot on its first pixel in the band, or widen its extent. -/
def enter (scratch : Scratch) (width color x : Nat) : Scratch :=
  if scratch.colorSlot color < 0 then
    let slot := scratch.colorsInBand.length
    { bandMasks := fun index =>
        if slot * width ≤ index ∧ index < slot * width + width then 0
        else scratch.bandMasks index
      colorsInBand := scratch.colorsInBand ++ [color]
      colorSlot := Function.update scratch.colorSlot color slot
      firstColumn := Function.update scratch.firstColumn color x
      lastColumn := Function.update scratch.lastColumn color x }
  else
    { scratch with
      firstColumn := Function.update scratch.firstColumn color
        (min (scratch.firstColumn color) x)
      lastColumn := Function.update scratch.lastColumn color (max (scratch.lastColumn color) x) }

/-- Set one bit in the mask of a colour. -/
def mark (scratch : Scratch) (width color x bit : Nat) : Scratch :=
  let cell := (scratch.colorSlot color).toNat * width + x
  { scratch with
    bandMasks := Function.update scratch.bandMasks cell (scratch.bandMasks cell ||| 1 <<< bit) }

/-- One pixel of the band scan. -/
def scanPixel (image : Nat → Nat → Nat) (width band : Nat) (scratch : Scratch)
    (position : Nat × Nat) : Scratch :=
  let color := image position.1 position.2
  (scratch.enter width color position.1).mark width color position.1 (position.2 - band)

/-- The masks of one slot. -/
def slotMasks (scratch : Scratch) (width slot : Nat) : Nat → Nat :=
  fun column => scratch.bandMasks (slot * width + column)

end Scratch

/-- The pixels of a band in scan order, as (x, y). -/
def bandPositions (width height band : Nat) : List (Nat × Nat) :=
  (List.range (min (band + 6) height - band)).flatMap fun row =>
    (List.range width).map fun x => (x, band + row)

/-- Scan one band into the scratch vectors. -/
def scanBand (image : Nat → Nat → Nat) (width height colorCount band : Nat)
    (scratch : Scratch) : Scratch :=
  (bandPositions width height band).foldl (Scratch.scanPixel image width band)
    (scratch.beginBand colorCount)

/-- Write the colours of one scanned band. -/
def emitBand (width height band : Nat) (scratch : Scratch) (output : SixelOutput) :
    SixelOutput :=
  let colors := scratch.colorsInBand
  let written := (List.range colors.length).foldl
    (fun (output : SixelOutput) index =>
      if output.limitExceeded then output
      else
        let color := colors.getD index 0
        let painted := emitColorBand output (scratch.slotMasks width index)
          (scratch.firstColumn color) (scratch.lastColumn color) color
        if index + 1 < colors.length ∨ band + 6 ≥ height then painted.append (ascii "$")
        else painted)
    output
  if band + 6 < height then written.append (ascii "-") else written

def emitIndexedFrame (output : SixelOutput) (paletteIndices : List UInt8)
    (width height colorCount : Nat) (scratch : Scratch) : SixelOutput × Scratch :=
  let image (x y : Nat) : Nat := (paletteIndices.getD (y * width + x) 0).toNat
  if output.limitExceeded then (output, scratch)
  else
    (List.range ((height + 5) / 6)).foldl
      (fun (state : SixelOutput × Scratch) bandIndex =>
        if state.1.limitExceeded then state
        else
          let band := bandIndex * 6
          let scanned := scanBand image width height colorCount band state.2
          (emitBand width height band scanned state.1, scanned))
      (output, scratch)

end Rasterm
