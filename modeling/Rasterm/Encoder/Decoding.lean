import Rasterm.Encoder.Bands

/-!
Contract: a standard decoder reads the encoder's pieces back.

Owns what the palettes, the bands and a whole control string perform on a
decoder, and that every pixel of the raster is painted exactly once.
-/

set_option autoImplicit false

namespace Rasterm

open Decimal Rows Sixel

/-! ### Runs of one colour -/

theorem sixelByte_eq {bits : Nat} (small : bits < 64) :
    sixelByte bits = UInt8.ofNat (0x3f + bits) := by
  rw [sixelByte, Nat.min_eq_left (by omega)]

private theorem performs_runPieces {bits : Nat} (small : bits < 64) (run : Nat) :
    Performs (runPieces (sixelByte bits) run).flatten fun decoder =>
      decoder.paintSixel bits run := by
  rw [sixelByte_eq small]
  unfold runPieces
  split_ifs with one two
  · subst one
    simpa using Performs.sixel small
  · subst two
    have both := (Performs.sixel small).append (Performs.sixel small)
    refine Performs.congr (by simpa using both) ?_
    intro decoder _
    simp only [Function.comp_apply, Decoder.paintSixel]
    exact (Decoder.paintColumns_add decoder _ 1 1).symm
  · have introducer : ascii "!" = [0x21] := by decide
    simpa [introducer] using Performs.repeated small run

private theorem performs_repeatPieces {bits : Nat} (small : bits < 64) (fuel remaining : Nat)
    (enough : remaining ≤ fuel) :
    Performs (repeatPieces (sixelByte bits) fuel remaining).flatten fun decoder =>
      decoder.paintSixel bits remaining := by
  induction fuel generalizing remaining with
  | zero =>
      have none : remaining = 0 := by omega
      subst none
      exact Performs.nil.congr fun decoder _ => (Decoder.paintColumns_zero decoder _).symm
  | succ fuel inductionHypothesis =>
      unfold repeatPieces
      split_ifs with done
      · subst done
        exact Performs.nil.congr fun decoder _ => (Decoder.paintColumns_zero decoder _).symm
      · have progress : 1 ≤ min remaining maximumRepeat := by
          have positive : 0 < maximumRepeat := by decide
          omega
        have first := performs_runPieces small (min remaining maximumRepeat)
        have rest := inductionHypothesis (remaining - min remaining maximumRepeat) (by omega)
        rw [List.flatten_append]
        refine (first.append rest).congr ?_
        intro decoder _
        have split : remaining =
            min remaining maximumRepeat + (remaining - min remaining maximumRepeat) := by omega
        simp only [Function.comp_apply, Decoder.paintSixel]
        conv_rhs => rw [split]
        exact (Decoder.paintColumns_add decoder _ _ _).symm

/-- The run that starts at a column: equal masks, up to the last column. -/
theorem runLength_spec {masks : Nat → Nat} {lastColumn column : Nat} (fuel run : Nat)
    (equal : ∀ offset < run, masks (column + offset) = masks column)
    (inside : column + run ≤ lastColumn + 1) :
    run ≤ runLength masks lastColumn column fuel run ∧
      column + runLength masks lastColumn column fuel run ≤ lastColumn + 1 ∧
      ∀ offset < runLength masks lastColumn column fuel run,
        masks (column + offset) = masks column := by
  induction fuel generalizing run with
  | zero => exact ⟨le_rfl, inside, equal⟩
  | succ fuel inductionHypothesis =>
      unfold runLength
      split_ifs with more
      · have longer : ∀ offset < run + 1, masks (column + offset) = masks column := by
          intro offset below
          rcases Nat.lt_succ_iff_lt_or_eq.mp below with earlier | rfl
          · exact equal offset earlier
          · exact more.2
        obtain ⟨lower, upper, same⟩ := inductionHypothesis (run + 1) longer (by omega)
        exact ⟨by omega, upper, same⟩
      · exact ⟨le_rfl, inside, equal⟩

private theorem performs_columnPieces {masks : Nat → Nat} (small : ∀ x, masks x < 64)
    {lastColumn : Nat} (fuel column : Nat) (enough : lastColumn + 1 - column ≤ fuel) :
    Performs (columnPieces masks lastColumn fuel column).flatten fun decoder =>
      decoder.paintColumns (fun offset => masks (column + offset)) (lastColumn + 1 - column) := by
  induction fuel generalizing column with
  | zero =>
      have none : lastColumn + 1 - column = 0 := by omega
      rw [none]
      exact Performs.nil.congr fun decoder _ => (Decoder.paintColumns_zero decoder _).symm
  | succ fuel inductionHypothesis =>
      unfold columnPieces
      split_ifs with done
      · have none : lastColumn + 1 - column = 0 := by omega
        rw [none]
        exact Performs.nil.congr fun decoder _ => (Decoder.paintColumns_zero decoder _).symm
      · have equalFirst : ∀ offset < 1, masks (column + offset) = masks column := by
          intro offset below
          have zero : offset = 0 := by omega
          rw [zero, Nat.add_zero]
        obtain ⟨lower, upper, same⟩ :=
          @runLength_spec masks lastColumn column (lastColumn + 1 - column) 1 equalFirst
            (by omega)
        simp only
        generalize runLength masks lastColumn column (lastColumn + 1 - column) 1 = run at *
        have first := performs_repeatPieces (small column) run run le_rfl
        have rest := inductionHypothesis (column + run) (by omega)
        rw [List.flatten_append]
        refine (first.append rest).congr ?_
        intro decoder _
        have split : lastColumn + 1 - column = run + (lastColumn + 1 - (column + run)) := by omega
        rw [split, Decoder.paintColumns_add, Function.comp_apply, Decoder.paintSixel,
          decoder.paintColumns_congr fun offset below => (same offset below).symm]
        simp only [Nat.add_assoc]

/-- A colour of a band: select it, skip to its first column, paint to its last one. -/
theorem performs_colorPieces {masks : Nat → Nat} (small : ∀ x, masks x < 64)
    {firstColumn lastColumn : Nat} (order : firstColumn ≤ lastColumn)
    (blank : ∀ x < firstColumn, masks x = 0) (color : Nat) :
    Performs (colorPieces masks firstColumn lastColumn color).flatten fun decoder =>
      { decoder with selected := color }.paintColumns masks (lastColumn + 1) := by
  have hash : ascii "#" = [0x23] := by decide
  have select : Performs (0x23 :: Decoder.parameterBytes [color])
      fun decoder => { decoder with selected := color } :=
    Performs.command (by decide) color [] (fun _ => rfl) fun _ => rfl
  have skip : Performs
      (if firstColumn > 0 then repeatPieces (sixelByte 0) firstColumn firstColumn
        else []).flatten
      fun decoder => decoder.paintSixel 0 firstColumn := by
    split_ifs with some
    · exact performs_repeatPieces (by decide) _ _ le_rfl
    · have none : firstColumn = 0 := by omega
      rw [none]
      exact Performs.nil.congr fun decoder _ => (Decoder.paintColumns_zero decoder _).symm
  have columns := performs_columnPieces small (lastColumn + 1 - firstColumn) firstColumn le_rfl
  have whole := (select.append skip).append columns
  have bytes : (colorPieces masks firstColumn lastColumn color).flatten =
      0x23 :: Decoder.parameterBytes [color] ++
        (if firstColumn > 0 then repeatPieces (sixelByte 0) firstColumn firstColumn
          else []).flatten ++
        (columnPieces masks lastColumn (lastColumn + 1 - firstColumn) firstColumn).flatten := by
    simp [colorPieces, hash, Decoder.parameterBytes]
  rw [bytes]
  refine whole.congr ?_
  intro decoder _
  have split : lastColumn + 1 = firstColumn + (lastColumn + 1 - firstColumn) := by omega
  simp only [Function.comp_apply, Decoder.paintSixel]
  conv_rhs => rw [split, Decoder.paintColumns_add]
  rw [Decoder.paintColumns_congr _ fun offset below => (blank offset below).symm]

/-! ### Definitions -/

private theorem performs_definition (register : Nat) (color : Percent) :
    Performs (definitionPieces register color.red color.green color.blue).flatten fun decoder =>
      { decoder with
        registers := Function.update decoder.registers register (some color) } := by
  have hash : ascii "#" = [0x23] := by decide
  have kind : ascii ";2;" = [0x3b, 0x32, 0x3b] := by decide
  have semicolon : ascii ";" = [0x3b] := by decide
  have two : numeral 2 = [0x32] := by decide
  have bytes : (definitionPieces register color.red color.green color.blue).flatten =
      0x23 :: Decoder.parameterBytes [register, 2, color.red, color.green, color.blue] := by
    simp [definitionPieces, Decoder.parameterBytes, hash, kind, semicolon, two]
  rw [bytes]
  exact Performs.command (by decide) register _ (fun _ => rfl) fun _ => rfl

/-- Registers after a list of definitions. -/
def defineAll (registers : List Nat) (color : Nat → Percent) (before : Registers) : Registers :=
  fun register => if register ∈ registers then some (color register) else before register

private theorem foldl_definitions (registers : List Nat) (color : Nat → Percent)
    (decoder : Decoder) :
    registers.foldl
        (fun decoder register =>
          { decoder with
            registers := Function.update decoder.registers register (some (color register)) })
        decoder =
      { decoder with registers := defineAll registers color decoder.registers } := by
  induction registers generalizing decoder with
  | nil =>
      have same : defineAll [] color decoder.registers = decoder.registers := by
        funext register
        simp [defineAll]
      rw [same]
      rfl
  | cons register registers inductionHypothesis =>
      rw [List.foldl_cons, inductionHypothesis]
      congr 1
      funext other
      simp only [defineAll, List.mem_cons, Function.update_apply]
      by_cases later : other ∈ registers
      · simp [later]
      · by_cases here : other = register
        · subst here
          simp [later]
        · simp [later, here]

/-- A list of definitions sets exactly its registers. -/
theorem performs_registerPieces (registers : List Nat) (color : Nat → Percent) :
    Performs (registerPieces registers color).flatten fun decoder =>
      { decoder with registers := defineAll registers color decoder.registers } := by
  have pieces : (registerPieces registers color).flatten = registers.flatMap fun register =>
      (definitionPieces register (color register).red (color register).green
        (color register).blue).flatten := by
    rw [registerPieces, List.flatMap_def, List.flatMap_def, List.flatten_flatten, List.map_map]
    rfl
  rw [pieces]
  refine (Performs.flatMap fun register _ => performs_definition register (color register)).congr ?_
  intro decoder _
  exact foldl_definitions registers color decoder

theorem performs_raster (width height : Nat) :
    Performs (rasterPieces width height).flatten fun decoder =>
      { decoder with raster := some (width, height) } := by
  have introducer : ascii "\"1;1;" = [0x22, 0x31, 0x3b, 0x31, 0x3b] := by decide
  have semicolon : ascii ";" = [0x3b] := by decide
  have one : numeral 1 = [0x31] := by decide
  have bytes : (rasterPieces width height).flatten =
      0x22 :: Decoder.parameterBytes [1, 1, width, height] := by
    simp [rasterPieces, Decoder.parameterBytes, introducer, semicolon, one]
  rw [bytes]
  exact Performs.command (by decide) 1 _ (fun _ => rfl) fun _ => rfl

/-! ### Bands -/

/-- What painting changes: pixels are added, the registers stay. -/
structure Painted (before after : Decoder) (paints : List Paint) : Prop where
  paints_eq : after.paints = before.paints ++ paints
  registers_eq : after.registers = before.registers
  raster_eq : after.raster = before.raster

theorem Painted.refl (decoder : Decoder) : Painted decoder decoder [] :=
  ⟨by simp, rfl, rfl⟩

theorem Painted.trans {first second third : Decoder} {left right : List Paint}
    (before : Painted first second left) (after : Painted second third right) :
    Painted first third (left ++ right) :=
  ⟨by rw [after.paints_eq, before.paints_eq, List.append_assoc],
    after.registers_eq.trans before.registers_eq, after.raster_eq.trans before.raster_eq⟩

/-- The pixels of one colour of a band. -/
def colorPaints (registers : Registers) (masks : Nat → Nat) (count color bandIndex : Nat) :
    List Paint :=
  (List.range count).flatMap fun x =>
    (List.range 6).flatMap fun row =>
      if (masks x).testBit row then [⟨x, bandIndex * 6 + row, color, registers color⟩] else []

/-- Masks of a band fit in six bits. -/
theorem maskAt_lt (image : Nat → Nat → Nat) (width height band color x : Nat) :
    Scan.maskAt image band (bandPositions width height band) color x < 64 := by
  apply Nat.lt_pow_two_of_testBit (n := 6)
  intro row high
  rw [Bool.eq_false_iff]
  intro set
  obtain ⟨⟨column, y⟩, member, -, -, isRow⟩ := Scan.testBit_maskAt.mp set
  have bounds := mem_bandPositions.mp member
  simp only at isRow
  omega

/-- A colour of a band has an extent; its masks are blank outside. -/
theorem extent_spec {image : Nat → Nat → Nat} {width height band color : Nat}
    (member : color ∈ Scan.seen image (bandPositions width height band)) :
    ∃ first last,
      Scan.extent image (bandPositions width height band) color = some (first, last) ∧
      first ≤ last ∧ last < width ∧
      ∀ x, x < first ∨ last < x →
        Scan.maskAt image band (bandPositions width height band) color x = 0 := by
  obtain ⟨position, scanned, isColor⟩ := Scan.mem_seen.mp member
  obtain ⟨first, last, found, lower, upper⟩ := @Scan.extent_of_mem image _ position scanned
  rw [isColor] at found
  refine ⟨first, last, found, by omega, ?_, ?_⟩
  · obtain ⟨⟨x, y⟩, lastScanned, isLast⟩ := (Scan.extent_attained found).2
    have bound := (mem_bandPositions.mp lastScanned).1
    simp only at isLast
    omega
  · intro x outside
    apply Nat.eq_of_testBit_eq
    intro row
    rw [Nat.zero_testBit, Bool.eq_false_iff]
    intro set
    obtain ⟨other, otherScanned, otherColor, isColumn, -⟩ := Scan.testBit_maskAt.mp set
    obtain ⟨otherFirst, otherLast, otherFound, otherLower, otherUpper⟩ :=
      @Scan.extent_of_mem image _ other otherScanned
    rw [otherColor, found, Option.some.injEq, Prod.mk.injEq] at otherFound
    omega

/-- The pixels of one colour of the image. -/
def imageColorPaints (registers : Registers) (image : Nat → Nat → Nat)
    (width height bandIndex color : Nat) : List Paint :=
  colorPaints registers
    (Scan.maskAt image (bandIndex * 6) (bandPositions width height (bandIndex * 6)) color) width
    color bandIndex

def bandPaints (registers : Registers) (image : Nat → Nat → Nat) (width height bandIndex : Nat) :
    List Paint :=
  (Scan.seen image (bandPositions width height (bandIndex * 6))).flatMap
    (imageColorPaints registers image width height bandIndex)

def imagePaints (registers : Registers) (image : Nat → Nat → Nat) (width height : Nat) :
    List Paint :=
  (List.range ((height + 5) / 6)).flatMap (bandPaints registers image width height)

private theorem colorPaints_extend {masks : Nat → Nat} {last width : Nat} (inside : last < width)
    (blank : ∀ x, last < x → masks x = 0) (registers : Registers) (color bandIndex : Nat) :
    colorPaints registers masks width color bandIndex =
      colorPaints registers masks (last + 1) color bandIndex := by
  have split : width = (last + 1) + (width - (last + 1)) := by omega
  rw [split, colorPaints, List.range_add, List.flatMap_append, ← colorPaints]
  conv_rhs => rw [← List.append_nil (colorPaints registers masks (last + 1) color bandIndex)]
  congr 1
  rw [List.flatMap_eq_nil_iff]
  intro x member
  obtain ⟨offset, -, rfl⟩ := List.mem_map.mp member
  rw [blank _ (by omega)]
  simp

/-- One colour of a band, from column 0 on. -/
private theorem performs_colorStep {image : Nat → Nat → Nat} {width height bandIndex index : Nat}
    (inside : index < (Scan.seen image (bandPositions width height (bandIndex * 6))).length) :
    ∃ effect : Decoder → Decoder,
      Performs (colorStepPieces image width height (bandIndex * 6) index).flatten effect ∧
      ∀ decoder : Decoder, decoder.column = 0 → decoder.band = bandIndex →
        Painted decoder (effect decoder)
          (imageColorPaints decoder.registers image width height bandIndex
            ((Scan.seen image (bandPositions width height (bandIndex * 6))).getD index 0)) ∧
        (effect decoder).band = bandIndex ∧
        (index + 1 < (Scan.seen image (bandPositions width height (bandIndex * 6))).length ∨
            bandIndex * 6 + 6 ≥ height → (effect decoder).column = 0) := by
  set color := (Scan.seen image (bandPositions width height (bandIndex * 6))).getD index 0
    with colorIs
  have member : color ∈ Scan.seen image (bandPositions width height (bandIndex * 6)) := by
    rw [colorIs, List.getD_eq_getElem _ _ inside]
    exact List.getElem_mem inside
  obtain ⟨first, last, extent, order, lastInside, blank⟩ := extent_spec member
  have painted := performs_colorPieces (maskAt_lt image width height (bandIndex * 6) color) order
    (fun x before => blank x (Or.inl before)) color
  have paints : ∀ decoder : Decoder, decoder.column = 0 → decoder.band = bandIndex →
      Painted decoder
        ({ decoder with selected := color }.paintColumns
          (Scan.maskAt image (bandIndex * 6) (bandPositions width height (bandIndex * 6)) color)
          (last + 1))
        (imageColorPaints decoder.registers image width height bandIndex color) := by
    intro decoder atStart inBand
    refine ⟨?_, rfl, rfl⟩
    rw [imageColorPaints, colorPaints_extend lastInside fun x after => blank x (Or.inr after)]
    simp [Decoder.paintColumns, Decoder.columnPaints, colorPaints, atStart, inBand]
  have pieces : colorStepPieces image width height (bandIndex * 6) index =
      colorPieces
          (Scan.maskAt image (bandIndex * 6) (bandPositions width height (bandIndex * 6)) color)
          first last color ++
        (if index + 1 < (Scan.seen image (bandPositions width height (bandIndex * 6))).length ∨
            bandIndex * 6 + 6 ≥ height then [ascii "$"] else []) := by
    simp only [colorStepPieces, ← colorIs, extent, Option.getD_some]
  have dollar : ascii "$" = [0x24] := by decide
  rw [pieces, List.flatten_append]
  split_ifs with returns
  · refine ⟨_, painted.append (by simpa [dollar] using Performs.carriageReturn), ?_⟩
    intro decoder atStart inBand
    have here := paints decoder atStart inBand
    exact ⟨⟨here.paints_eq, here.registers_eq, here.raster_eq⟩, inBand, fun _ => rfl⟩
  · refine ⟨_, painted.append Performs.nil, ?_⟩
    intro decoder atStart inBand
    exact ⟨paints decoder atStart inBand, inBand, fun back => absurd back returns⟩

/-- The first colours of a band: induction over their number. -/
private theorem performs_colorSteps {image : Nat → Nat → Nat} {width height bandIndex : Nat}
    (count : Nat)
    (inside : count ≤ (Scan.seen image (bandPositions width height (bandIndex * 6))).length) :
    ∃ effect : Decoder → Decoder,
      Performs ((List.range count).flatMap
        (colorStepPieces image width height (bandIndex * 6))).flatten effect ∧
      ∀ decoder : Decoder, decoder.column = 0 → decoder.band = bandIndex →
        Painted decoder (effect decoder)
          (((Scan.seen image (bandPositions width height (bandIndex * 6))).take count).flatMap
            (imageColorPaints decoder.registers image width height bandIndex)) ∧
        (effect decoder).band = bandIndex ∧
        (count < (Scan.seen image (bandPositions width height (bandIndex * 6))).length ∨
            bandIndex * 6 + 6 ≥ height → (effect decoder).column = 0) := by
  induction count with
  | zero =>
      refine ⟨id, by simpa using Performs.nil, ?_⟩
      intro decoder atStart inBand
      exact ⟨by simpa using Painted.refl decoder, inBand, fun _ => atStart⟩
  | succ count inductionHypothesis =>
      obtain ⟨before, beforePerforms, beforePaints⟩ := inductionHypothesis (by omega)
      obtain ⟨step, stepPerforms, stepPaints⟩ :=
        @performs_colorStep image width height bandIndex count (by omega)
      refine ⟨step ∘ before, ?_, ?_⟩
      · rw [List.range_succ, List.flatMap_append, List.flatten_append]
        exact beforePerforms.append (by simpa using stepPerforms)
      · intro decoder atStart inBand
        obtain ⟨painted, sameBand, column⟩ := beforePaints decoder atStart inBand
        obtain ⟨more, stillBand, lastColumn⟩ :=
          stepPaints (before decoder) (column (Or.inl (by omega))) sameBand
        refine ⟨?_, stillBand, lastColumn⟩
        have taken : (Scan.seen image (bandPositions width height (bandIndex * 6))).take
              (count + 1) =
            (Scan.seen image (bandPositions width height (bandIndex * 6))).take count ++
              [(Scan.seen image (bandPositions width height (bandIndex * 6))).getD count 0] := by
          rw [List.getD_eq_getElem _ _ (by omega), List.take_concat_get' _ _ (by omega)]
        rw [taken, List.flatMap_append, List.flatMap_singleton]
        rw [painted.registers_eq] at more
        exact painted.trans more

/-- A band paints its pixels and moves on, unless it is the last one. -/
private theorem performs_bandPieces (image : Nat → Nat → Nat) (width height bandIndex : Nat) :
    ∃ effect : Decoder → Decoder,
      Performs (bandPieces image width height (bandIndex * 6)).flatten effect ∧
      ∀ decoder : Decoder, decoder.column = 0 → decoder.band = bandIndex →
        Painted decoder (effect decoder)
          (bandPaints decoder.registers image width height bandIndex) ∧
        (bandIndex * 6 + 6 < height →
          (effect decoder).band = bandIndex + 1 ∧ (effect decoder).column = 0) := by
  obtain ⟨colors, colorsPerform, colorsPaint⟩ :=
    @performs_colorSteps image width height bandIndex _ le_rfl
  rw [bandPieces, List.flatten_append]
  have dash : ascii "-" = [0x2d] := by decide
  split_ifs with more
  · refine ⟨_, colorsPerform.append (by simpa [dash] using Performs.nextBand), ?_⟩
    intro decoder atStart inBand
    obtain ⟨painted, sameBand, -⟩ := colorsPaint decoder atStart inBand
    rw [List.take_length] at painted
    refine ⟨⟨painted.paints_eq, painted.registers_eq, painted.raster_eq⟩, fun _ => ?_⟩
    exact ⟨congrArg (· + 1) sameBand, rfl⟩
  · refine ⟨_, colorsPerform.append Performs.nil, ?_⟩
    intro decoder atStart inBand
    obtain ⟨painted, -, -⟩ := colorsPaint decoder atStart inBand
    rw [List.take_length] at painted
    exact ⟨painted, fun later => absurd later more⟩

/-- All bands, by induction over their number. -/
private theorem performs_bands (image : Nat → Nat → Nat) (width height count : Nat)
    (inside : count ≤ (height + 5) / 6) :
    ∃ effect : Decoder → Decoder,
      Performs ((List.range count).flatMap fun bandIndex =>
        bandPieces image width height (bandIndex * 6)).flatten effect ∧
      ∀ decoder : Decoder, decoder.column = 0 → decoder.band = 0 →
        Painted decoder (effect decoder)
          ((List.range count).flatMap (bandPaints decoder.registers image width height)) ∧
        (count < (height + 5) / 6 →
          (effect decoder).band = count ∧ (effect decoder).column = 0) := by
  induction count with
  | zero =>
      refine ⟨id, by simpa using Performs.nil, ?_⟩
      intro decoder atStart inBand
      exact ⟨by simpa using Painted.refl decoder, fun _ => ⟨inBand, atStart⟩⟩
  | succ count inductionHypothesis =>
      obtain ⟨before, beforePerforms, beforePaints⟩ := inductionHypothesis (by omega)
      obtain ⟨step, stepPerforms, stepPaints⟩ := performs_bandPieces image width height count
      refine ⟨step ∘ before, ?_, ?_⟩
      · rw [List.range_succ, List.flatMap_append, List.flatten_append]
        exact beforePerforms.append (by simpa using stepPerforms)
      · intro decoder atStart inBand
        obtain ⟨painted, position⟩ := beforePaints decoder atStart inBand
        obtain ⟨sameBand, column⟩ := position (by omega)
        obtain ⟨more, moved⟩ := stepPaints (before decoder) column sameBand
        rw [painted.registers_eq] at more
        rw [List.range_succ, List.flatMap_append, List.flatMap_singleton]
        exact ⟨painted.trans more, fun later => moved (by omega)⟩

/-- The bands of an image paint its pixels and nothing else. -/
theorem performs_framePieces (image : Nat → Nat → Nat) (width height : Nat) :
    ∃ effect : Decoder → Decoder,
      Performs (framePieces image width height).flatten effect ∧
      ∀ decoder : Decoder, decoder.column = 0 → decoder.band = 0 →
        Painted decoder (effect decoder)
          (imagePaints decoder.registers image width height) := by
  obtain ⟨effect, performs, paints⟩ := performs_bands image width height _ le_rfl
  exact ⟨effect, performs, fun decoder atStart inBand => (paints decoder atStart inBand).1⟩

/-! ### Every pixel once -/

private theorem filter_colorPaints (registers : Registers) (masks : Nat → Nat)
    (count color bandIndex x y : Nat) :
    (colorPaints registers masks count color bandIndex).filter (Paint.isAt x y) =
      if x < count ∧ bandIndex * 6 ≤ y ∧ y < bandIndex * 6 + 6 ∧
          (masks x).testBit (y - bandIndex * 6) = true then
        [⟨x, y, color, registers color⟩]
      else [] := by
  have cell : ∀ column row : Nat,
      (if (masks column).testBit row then
        [(⟨column, bandIndex * 6 + row, color, registers color⟩ : Paint)] else []).filter
          (Paint.isAt x y) =
      if column = x ∧ bandIndex * 6 + row = y ∧ (masks x).testBit row = true then
        [⟨x, y, color, registers color⟩] else [] := by
    intro column row
    by_cases here : column = x ∧ bandIndex * 6 + row = y
    · obtain ⟨rfl, rfl⟩ := here
      by_cases set : (masks column).testBit row = true <;> simp [set, Paint.isAt]
    · have elsewhere : ¬ (column = x ∧ bandIndex * 6 + row = y ∧
          (masks x).testBit row = true) := fun both => here ⟨both.1, both.2.1⟩
      rw [if_neg elsewhere, List.filter_eq_nil_iff]
      intro paint member
      split_ifs at member
      · rw [List.mem_singleton.mp member]
        simpa [Paint.isAt] using here
      · simp at member
  rw [colorPaints, List.filter_flatMap]
  simp only [List.filter_flatMap, cell]
  split_ifs with painted
  · obtain ⟨inside, lower, upper, set⟩ := painted
    rw [flatMap_eq_of_unique List.nodup_range (List.mem_range.mpr inside),
      flatMap_eq_of_unique List.nodup_range
        (List.mem_range.mpr (by omega : y - bandIndex * 6 < 6))]
    · rw [if_pos ⟨rfl, by omega, set⟩]
    · intro row _ different
      exact if_neg fun both => different (by omega)
    · intro column _ different
      simp [different]
  · rw [List.flatMap_eq_nil_iff]
    intro column inside
    rw [List.flatMap_eq_nil_iff]
    intro row rowInside
    rw [List.mem_range] at inside rowInside
    apply if_neg
    rintro ⟨rfl, rfl, set⟩
    exact painted ⟨inside, by omega, by omega, by rwa [Nat.add_sub_cancel_left]⟩

private theorem filter_imageColorPaints (registers : Registers) (image : Nat → Nat → Nat)
    (width height bandIndex color x y : Nat) :
    (imageColorPaints registers image width height bandIndex color).filter (Paint.isAt x y) =
      if (x, y) ∈ bandPositions width height (bandIndex * 6) ∧ image x y = color then
        [⟨x, y, color, registers color⟩]
      else [] := by
  rw [imageColorPaints, filter_colorPaints]
  congr 1
  rw [mem_bandPositions, Scan.testBit_maskAt, eq_iff_iff]
  constructor
  · rintro ⟨inside, lower, upper, ⟨otherX, otherY⟩, member, isColor, sameX, sameY⟩
    have bounds := mem_bandPositions.mp member
    have isY : otherY = y := by
      simp only at sameY
      omega
    simp only at isColor sameX
    rw [sameX, isY] at isColor
    exact ⟨⟨inside, lower, upper, by omega⟩, isColor⟩
  · rintro ⟨⟨inside, lower, upper, below⟩, isColor⟩
    exact ⟨inside, lower, upper, (x, y), mem_bandPositions.mpr ⟨inside, lower, upper, below⟩,
      isColor, rfl, rfl⟩

private theorem filter_bandPaints (registers : Registers) (image : Nat → Nat → Nat)
    (width height bandIndex x y : Nat) :
    (bandPaints registers image width height bandIndex).filter (Paint.isAt x y) =
      if (x, y) ∈ bandPositions width height (bandIndex * 6) then
        [⟨x, y, image x y, registers (image x y)⟩]
      else [] := by
  rw [bandPaints, List.filter_flatMap]
  simp only [filter_imageColorPaints]
  split_ifs with inside
  · have member : image x y ∈ Scan.seen image (bandPositions width height (bandIndex * 6)) :=
      Scan.mem_seen.mpr ⟨(x, y), inside, rfl⟩
    rw [flatMap_eq_of_unique Scan.nodup_seen member]
    · simp [inside]
    · intro color _ different
      exact if_neg fun both => different both.2.symm
  · simp [inside]

/-- Every pixel of the raster is painted exactly once, nothing is painted outside. -/
theorem filter_imagePaints (registers : Registers) (image : Nat → Nat → Nat)
    (width height x y : Nat) :
    (imagePaints registers image width height).filter (Paint.isAt x y) =
      if x < width ∧ y < height then [⟨x, y, image x y, registers (image x y)⟩] else [] := by
  rw [imagePaints, List.filter_flatMap]
  simp only [filter_bandPaints, mem_bandPositions]
  split_ifs with inside
  · rw [flatMap_eq_of_unique List.nodup_range
      (List.mem_range.mpr (by omega : y / 6 < (height + 5) / 6))]
    · rw [if_pos ⟨inside.1, by omega, by omega, inside.2⟩]
    · intro bandIndex _ different
      exact if_neg fun both => different (by omega)
  · rw [List.flatMap_eq_nil_iff]
    intro bandIndex _
    exact if_neg fun both => inside ⟨both.1, both.2.2.2⟩

end Rasterm
