import Rasterm.Encoder.Scan
import Mathlib.Data.List.GetD

/-!
Contract: the bytes `emitIndexedFrame` appends, as a list of pieces that depends
on the image alone.

Owns `bandPieces` and `framePieces` and the proof that the writer appends them
under every limit, whatever the scratch vectors held before.
-/

set_option autoImplicit false

namespace Rasterm

open Decimal Sixel

/-! ### Runs of one colour -/

def repeatPieces (character : UInt8) : Nat → Nat → List (List UInt8)
  | 0, _ => []
  | fuel + 1, remaining =>
      if remaining = 0 then []
      else
        runPieces character (min remaining maximumRepeat) ++
          repeatPieces character fuel (remaining - min remaining maximumRepeat)

def columnPieces (masks : Nat → Nat) (lastColumn : Nat) : Nat → Nat → List (List UInt8)
  | 0, _ => []
  | fuel + 1, column =>
      if column > lastColumn then []
      else
        let run := runLength masks lastColumn column (lastColumn + 1 - column) 1
        repeatPieces (sixelByte (masks column)) run run ++
          columnPieces masks lastColumn fuel (column + run)

def colorPieces (masks : Nat → Nat) (firstColumn lastColumn color : Nat) : List (List UInt8) :=
  [ascii "#", numeral color] ++
    (if firstColumn > 0 then repeatPieces (sixelByte 0) firstColumn firstColumn else []) ++
    columnPieces masks lastColumn (lastColumn + 1 - firstColumn) firstColumn

theorem emitRepeatLoop_eq (character : UInt8) (fuel remaining : Nat) (output : SixelOutput) :
    emitRepeatLoop character fuel remaining output =
      output.appendAll (repeatPieces character fuel remaining) := by
  induction fuel generalizing remaining output with
  | zero => rfl
  | succ fuel inductionHypothesis =>
      unfold emitRepeatLoop repeatPieces
      split_ifs with done exceeded
      · rfl
      · rw [SixelOutput.appendAll_of_exceeded exceeded]
      · rw [inductionHypothesis, SixelOutput.appendAll_append]
        congr 1
        unfold runPieces
        split_ifs <;> rfl

theorem emitRepeat_eq (output : SixelOutput) (count value : Nat) :
    emitRepeat output count value =
      output.appendAll (repeatPieces (sixelByte value) count count) :=
  emitRepeatLoop_eq _ _ _ _

theorem emitColumns_eq (masks : Nat → Nat) (lastColumn fuel column : Nat) (output : SixelOutput) :
    emitColumns masks lastColumn fuel column output =
      output.appendAll (columnPieces masks lastColumn fuel column) := by
  induction fuel generalizing column output with
  | zero => rfl
  | succ fuel inductionHypothesis =>
      unfold emitColumns columnPieces
      split_ifs with done exceeded
      · rfl
      · rw [SixelOutput.appendAll_of_exceeded exceeded]
      · simp only [inductionHypothesis, emitRepeat_eq, SixelOutput.appendAll_append]

theorem emitColorBand_eq (output : SixelOutput) (masks : Nat → Nat)
    (firstColumn lastColumn color : Nat) :
    emitColorBand output masks firstColumn lastColumn color =
      output.appendAll (colorPieces masks firstColumn lastColumn color) := by
  simp only [emitColorBand, colorPieces, emitColumns_eq, SixelOutput.appendAll_append]
  congr 1
  split_ifs with skip
  · rw [emitRepeat_eq]
    rfl
  · rfl

/-! ### The masks a run reads -/

theorem runLength_congr {left right : Nat → Nat} {lastColumn column : Nat}
    (same : ∀ x, column ≤ x → x ≤ lastColumn → left x = right x) (inside : column ≤ lastColumn)
    (fuel run : Nat) :
    runLength left lastColumn column fuel run = runLength right lastColumn column fuel run := by
  induction fuel generalizing run with
  | zero => rfl
  | succ fuel inductionHypothesis =>
      unfold runLength
      by_cases more : column + run ≤ lastColumn
      · rw [same (column + run) (by omega) more, same column le_rfl inside, inductionHypothesis]
      · rw [if_neg fun both => more both.1, if_neg fun both => more both.1]

theorem columnPieces_congr {left right : Nat → Nat} {lastColumn : Nat} (fuel column : Nat)
    (same : ∀ x, column ≤ x → x ≤ lastColumn → left x = right x) :
    columnPieces left lastColumn fuel column = columnPieces right lastColumn fuel column := by
  induction fuel generalizing column with
  | zero => rfl
  | succ fuel inductionHypothesis =>
      unfold columnPieces
      split_ifs with done
      · rfl
      · have inside : column ≤ lastColumn := by omega
        simp only [same column le_rfl inside, runLength_congr same inside]
        rw [inductionHypothesis _ fun x lower => same x (by omega)]

theorem colorPieces_congr {left right : Nat → Nat} {firstColumn lastColumn : Nat} (color : Nat)
    (same : ∀ x, firstColumn ≤ x → x ≤ lastColumn → left x = right x) :
    colorPieces left firstColumn lastColumn color =
      colorPieces right firstColumn lastColumn color := by
  unfold colorPieces
  rw [columnPieces_congr _ _ same]

/-! ### A band -/

/-- The pieces of one colour of a band; the colours come in order of first pixel. -/
def colorStepPieces (image : Nat → Nat → Nat) (width height band index : Nat) :
    List (List UInt8) :=
  let positions := bandPositions width height band
  let colors := Scan.seen image positions
  let color := colors.getD index 0
  let columns := (Scan.extent image positions color).getD (0, 0)
  colorPieces (Scan.maskAt image band positions color) columns.1 columns.2 color ++
    (if index + 1 < colors.length ∨ band + 6 ≥ height then [ascii "$"] else [])

def bandPieces (image : Nat → Nat → Nat) (width height band : Nat) : List (List UInt8) :=
  ((List.range (Scan.seen image (bandPositions width height band)).length).flatMap
      (colorStepPieces image width height band)) ++
    (if band + 6 < height then [ascii "-"] else [])

/-- Appending for each index of a list, with the early exit of the source. -/
private theorem foldl_append_pieces (indices : List Nat) (write : SixelOutput → Nat → SixelOutput)
    (pieces : Nat → List (List UInt8))
    (writes : ∀ output, ∀ index ∈ indices, write output index = output.appendAll (pieces index))
    (output : SixelOutput) :
    indices.foldl (fun output index => if output.limitExceeded then output else write output index)
        output =
      output.appendAll (indices.flatMap pieces) := by
  induction indices generalizing output with
  | nil => rfl
  | cons index indices inductionHypothesis =>
      rw [List.foldl_cons, inductionHypothesis fun output later member =>
        writes output later (by simp [member])]
      rw [List.flatMap_cons, SixelOutput.appendAll_append]
      congr 1
      split_ifs with exceeded
      · rw [SixelOutput.appendAll_of_exceeded exceeded]
      · exact writes output index (by simp)

theorem emitBand_eq {image : Nat → Nat → Nat} {width height colorCount band : Nat}
    {scratch : Scratch}
    (scanned : Scanned image width band colorCount (bandPositions width height band) scratch)
    (output : SixelOutput) :
    emitBand width height band scratch output =
      output.appendAll (bandPieces image width height band) := by
  have written : ∀ output : SixelOutput,
      ∀ index ∈ List.range (Scan.seen image (bandPositions width height band)).length,
        (let color := (Scan.seen image (bandPositions width height band)).getD index 0
          let painted := emitColorBand output (scratch.slotMasks width index)
            (scratch.firstColumn color) (scratch.lastColumn color) color
          if index + 1 < (Scan.seen image (bandPositions width height band)).length ∨
              band + 6 ≥ height then painted.append (ascii "$") else painted) =
        output.appendAll (colorStepPieces image width height band index) := by
    intro output index inside
    rw [List.mem_range] at inside
    have member := List.getElem_mem inside
    have columns := scanned.columns _ member
    have slot : (Scan.seen image (bandPositions width height band)).idxOf
        ((Scan.seen image (bandPositions width height band))[index]) = index :=
      Scan.nodup_seen.idxOf_getElem index inside
    have masks := scanned.masks _ member
    rw [slot] at masks
    simp only [List.getD_eq_getElem _ _ inside, emitColorBand_eq, colorStepPieces, columns,
      Option.getD_some, SixelOutput.appendAll_append]
    have lastInside := (Scan.extent_attained columns).2
    obtain ⟨⟨x, y⟩, scannedHere, isLast⟩ := lastInside
    have bound := (mem_bandPositions.mp scannedHere).1
    simp only at isLast
    have sameMasks : ∀ column,
        scratch.firstColumn (Scan.seen image (bandPositions width height band))[index] ≤ column →
        column ≤ scratch.lastColumn (Scan.seen image (bandPositions width height band))[index] →
        scratch.slotMasks width index column =
          Scan.maskAt image band (bandPositions width height band)
            (Scan.seen image (bandPositions width height band))[index] column :=
      fun column _ upper => masks column (by omega)
    rw [colorPieces_congr _ sameMasks]
    split_ifs <;> rfl
  simp only [emitBand, bandPieces, scanned.colors, SixelOutput.appendAll_append]
  rw [foldl_append_pieces _ _ _ written]
  split_ifs <;> rfl

/-! ### A frame -/

/-- The pieces of all bands. -/
def framePieces (image : Nat → Nat → Nat) (width height : Nat) : List (List UInt8) :=
  (List.range ((height + 5) / 6)).flatMap fun bandIndex =>
    bandPieces image width height (bandIndex * 6)

/-- The pieces depend on the pixels inside the raster alone. -/
theorem framePieces_congr {left right : Nat → Nat → Nat} {width height : Nat}
    (same : ∀ x < width, ∀ y < height, left x y = right x y) :
    framePieces left width height = framePieces right width height := by
  apply List.flatMap_congr
  intro bandIndex _
  have scanned : ∀ position ∈ bandPositions width height (bandIndex * 6),
      left position.1 position.2 = right position.1 position.2 := by
    rintro ⟨x, y⟩ member
    obtain ⟨xInside, -, -, yInside⟩ := mem_bandPositions.mp member
    exact same x xInside y yInside
  have scan := fun color x => @Scan.congr _ (bandIndex * 6) left right scanned color x
  have masks : ∀ color,
      Scan.maskAt left (bandIndex * 6) (bandPositions width height (bandIndex * 6)) color =
        Scan.maskAt right (bandIndex * 6) (bandPositions width height (bandIndex * 6)) color := by
    intro color
    funext x
    exact (scan color x).2.2
  have steps : colorStepPieces left width height (bandIndex * 6) =
      colorStepPieces right width height (bandIndex * 6) := by
    funext index
    simp only [colorStepPieces, (scan 0 0).1, (scan _ 0).2.1, masks]
  rw [bandPieces, bandPieces, steps, (scan 0 0).1]

/-- The image `emitIndexedFrame` reads from the flat index vector. -/
def flatImage (paletteIndices : List UInt8) (width : Nat) : Nat → Nat → Nat :=
  fun x y => (paletteIndices.getD (y * width + x) 0).toNat

/-- The bytes do not depend on what the scratch vectors held. -/
theorem emitIndexedFrame_eq {paletteIndices : List UInt8} {width height colorCount : Nat}
    (inRange : ∀ x < width, ∀ y < height, flatImage paletteIndices width x y < colorCount)
    (output : SixelOutput) (scratch : Scratch) :
    (emitIndexedFrame output paletteIndices width height colorCount scratch).1 =
      output.appendAll (framePieces (flatImage paletteIndices width) width height) := by
  have bands : ∀ (indices : List Nat) (output : SixelOutput) (scratch : Scratch),
      (indices.foldl
        (fun (state : SixelOutput × Scratch) bandIndex =>
          if state.1.limitExceeded then state
          else
            let band := bandIndex * 6
            let scanned := scanBand (flatImage paletteIndices width) width height colorCount band
              state.2
            (emitBand width height band scanned state.1, scanned))
        (output, scratch)).1 =
      output.appendAll (indices.flatMap fun bandIndex =>
        bandPieces (flatImage paletteIndices width) width height (bandIndex * 6)) := by
    intro indices
    induction indices with
    | nil => intro output scratch; rfl
    | cons bandIndex indices inductionHypothesis =>
        intro output scratch
        rw [List.foldl_cons, List.flatMap_cons, SixelOutput.appendAll_append]
        by_cases exceeded : output.limitExceeded = true
        · simp only [exceeded, if_true]
          rw [inductionHypothesis]
          simp only [SixelOutput.appendAll_of_exceeded exceeded]
        · simp only [exceeded, Bool.false_eq_true, if_false]
          rw [inductionHypothesis, emitBand_eq (scanned_scanBand inRange scratch)]
  unfold emitIndexedFrame
  by_cases exceeded : output.limitExceeded = true
  · simp only [exceeded, if_true]
    rw [SixelOutput.appendAll_of_exceeded exceeded]
  · simp only [exceeded, Bool.false_eq_true, if_false]
    exact bands _ output scratch

/-! ### Palettes -/

/-- Channels of a packed colour as a definition writes them. -/
def rgbPercent (rgb : UInt32) : Percent :=
  ⟨to100 (rgbRed rgb), to100 (rgbGreen rgb), to100 (rgbBlue rgb)⟩

def colorPercent (color : RgbColor) : Percent :=
  ⟨to100 color.red.toNat, to100 color.green.toNat, to100 color.blue.toNat⟩

/-- Definitions of a list of registers. -/
def registerPieces (registers : List Nat) (color : Nat → Percent) : List (List UInt8) :=
  registers.flatMap fun register =>
    definitionPieces register (color register).red (color register).green (color register).blue

theorem define_eq (output : SixelOutput) (register red green blue : Nat) :
    define output register red green blue =
      output.appendAll (definitionPieces register red green blue) := rfl

/-- The registers a packed table defines: entry 0 stays undefined. -/
def tableRegisters (colorCount : Nat) (colorsUsed : Nat → Bool) : List Nat :=
  ((List.range colorCount).drop 1).filter colorsUsed

theorem mem_tableRegisters {colorCount register : Nat} {colorsUsed : Nat → Bool} :
    register ∈ tableRegisters colorCount colorsUsed ↔
      1 ≤ register ∧ register < colorCount ∧ colorsUsed register = true := by
  have drop : (List.range colorCount).drop 1 = List.range' 1 (colorCount - 1) := by
    rw [List.range_eq_range', List.drop_range']
  rw [tableRegisters, List.mem_filter, drop, List.mem_range'_1]
  constructor
  · rintro ⟨⟨lower, upper⟩, used⟩
    exact ⟨lower, by omega, used⟩
  · rintro ⟨lower, upper, used⟩
    exact ⟨⟨lower, by omega⟩, used⟩

theorem appendPalette_eq (output : SixelOutput) (palette : List UInt32) (colorCount : Nat)
    (colorsUsed : Nat → Bool) :
    appendPalette output palette colorCount colorsUsed =
      output.appendAll (registerPieces (tableRegisters colorCount colorsUsed)
        fun register => rgbPercent (palette.getD register 0)) := by
  unfold appendPalette
  rw [foldl_append_pieces _ _ (fun register =>
    if colorsUsed register then
      definitionPieces register (rgbPercent (palette.getD register 0)).red
        (rgbPercent (palette.getD register 0)).green (rgbPercent (palette.getD register 0)).blue
    else [])]
  · congr 1
    rw [registerPieces, tableRegisters]
    generalize (List.range colorCount).drop 1 = registers
    induction registers with
    | nil => rfl
    | cons register registers inductionHypothesis =>
        rw [List.flatMap_cons, List.filter_cons, inductionHypothesis]
        split_ifs <;> simp
  · intro output register _
    cases used : colorsUsed register with
    | false => simp
    | true => simp [define_eq, rgbPercent, roundedTo100_eq_to100]

/-- The registers a caller's palette defines. -/
def callerRegisters (size firstRegister : Nat) : List Nat :=
  (List.range size).map (· + firstRegister)

theorem mem_callerRegisters {size firstRegister register : Nat} :
    register ∈ callerRegisters size firstRegister ↔
      firstRegister ≤ register ∧ register < size + firstRegister := by
  simp only [callerRegisters, List.mem_map, List.mem_range]
  constructor
  · rintro ⟨index, inside, rfl⟩
    omega
  · rintro ⟨lower, upper⟩
    exact ⟨register - firstRegister, by omega, by omega⟩

theorem emitCallerPalette_eq (output : SixelOutput) (palette : List RgbColor)
    (firstRegister : Nat) :
    emitCallerPalette output palette firstRegister =
      output.appendAll (registerPieces (callerRegisters palette.length firstRegister)
        fun register => colorPercent (palette.getD (register - firstRegister) {})) := by
  unfold emitCallerPalette
  rw [foldl_append_pieces _ _ (fun index =>
    definitionPieces (index + firstRegister) (colorPercent (palette.getD index {})).red
      (colorPercent (palette.getD index {})).green (colorPercent (palette.getD index {})).blue)]
  · simp [registerPieces, callerRegisters, List.flatMap_map]
  · intro output index _
    rw [define_eq]
    rfl

end Rasterm
