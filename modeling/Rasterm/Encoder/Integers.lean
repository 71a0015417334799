import Rasterm.Color.ColorConverter
import Rasterm.Damage.DamageTracker
import Rasterm.Encoder.FloydSteinberg
import Rasterm.Frame.Layout

/-!
Contract: the `int` expressions of the pipeline, from an accepted frame to its bands.

Owns, for each routine, the values it evaluates in `int` as relations over the loop variables
the source has there, and which accepted frames keep all of them in range.

A loop that counts by one up to a bound of its own type stays at or below it and is left out, as
is what is computed in `std::size_t` or `std::ptrdiff_t`. The row counter of the encoder's threads
is not such a loop: each thread raises it once past the last row. A whole frame is encoded like
the region that covers it.
-/

set_option autoImplicit false

namespace Rasterm

/-! ### Comparing -/

/-- The first row or column of a tile. -/
def TileStart (bound tile start : Int) : Prop :=
  ∃ index, 0 ≤ index ∧ index < (bound - 1) / tile + 1 ∧ start = index * tile

/-- `DamageTracker::compareAndUpdate`, over frames of one shape. -/
inductive CompareInt (width height pixelBytes : Int) (options : DamageOptions) : Int → Prop where
  | last {bound : Int} (side : bound = width ∨ bound = height) :
      CompareInt width height pixelBytes options (bound - 1)
  | tilesX : CompareInt width height pixelBytes options ((width - 1) / options.tileWidth + 1)
  | tilesY : CompareInt width height pixelBytes options ((height - 1) / options.tileHeight + 1)
  | x {x : Int} (start : TileStart width options.tileWidth x) :
      CompareInt width height pixelBytes options x
  | y {y : Int} (start : TileStart height options.tileHeight y) :
      CompareInt width height pixelBytes options y
  | tileWidth {x : Int} (start : TileStart width options.tileWidth x) :
      CompareInt width height pixelBytes options (width - x)
  | tileHeight {y : Int} (start : TileStart height options.tileHeight y) :
      CompareInt width height pixelBytes options (height - y)
  | row {y row : Int} (start : TileStart height options.tileHeight y) (nonneg : 0 ≤ row)
      (inside : row < min options.tileHeight (height - y)) :
      CompareInt width height pixelBytes options (y + row)
  | columnBytes {x : Int} (start : TileStart width options.tileWidth x) :
      CompareInt width height pixelBytes options (x * pixelBytes)
  /-- The strip from an earlier tile on, made longer. -/
  | strip {first x : Int} (opened : TileStart width options.tileWidth first)
      (start : TileStart width options.tileWidth x) (before : first < x) :
      CompareInt width height pixelBytes options
        (x - first + min options.tileWidth (width - x))
  /-- The merge of strips, which lie inside the frame. -/
  | bottom {strip : DamageRegion} (inside : strip.Inside width height) :
      CompareInt width height pixelBytes options (strip.y + strip.height)
  | merged {upper lower : DamageRegion} (upperInside : upper.Inside width height)
      (lowerInside : lower.Inside width height) (adjacent : upper.y + upper.height = lower.y) :
      CompareInt width height pixelBytes options (upper.height + lower.height)

/-! ### Converting -/

/-- `convertRectangle` in `ColorConverter::toSrgb`, for the frame or a damaged rectangle. -/
inductive ConvertInt (channels : Int) (rectangle : DamageRect) : Int → Prop where
  | bottom : ConvertInt channels rectangle (rectangle.y + rectangle.height)
  | right : ConvertInt channels rectangle (rectangle.x + rectangle.width)
  | base {x : Int} (left : rectangle.x ≤ x) (inside : x < rectangle.x + rectangle.width) :
      ConvertInt channels rectangle (x * channels)
  | channel {x part : Int} (left : rectangle.x ≤ x) (inside : x < rectangle.x + rectangle.width)
      (nonneg : 0 ≤ part) (stored : part < channels) :
      ConvertInt channels rectangle (x * channels + part)

/-! ### Slicing -/

/-- `encodeRegion`; the product is taken for packed frames. -/
inductive SliceInt (pixelBytes : Int) (region : DamageRegion) : Int → Prop where
  | right : SliceInt pixelBytes region (region.x + region.width)
  | bottom : SliceInt pixelBytes region (region.y + region.height)
  | start : SliceInt pixelBytes region (region.x * pixelBytes)

/-! ### Dithering and mapping -/

/-- Arithmetic on channels, the same for each pixel of any frame. -/
inductive ChannelInt : Int → Prop where
  | scaled (channel : UInt8) : ChannelInt (channel.toNat * 31 + 127)
  | lookup {red green blue : Int} (levels : ∀ level ∈ [red, green, blue], 0 ≤ level ∧ level < 32) :
      ChannelInt ((red * 32 + green) * 32 + blue)
  | coarse (channel : UInt8) : ChannelInt (channel.toNat * 5 + 127)
  | quantized {red green blue : Int} (levels : ∀ level ∈ [red, green, blue], 0 ≤ level ∧ level < 6) :
      ChannelInt ((red * 6 + green) * 6 + blue)
  | packed (red green blue : UInt8) :
      ChannelInt (red.toNat * 65536 + green.toNat * 256 + blue.toNat)
  | luminance (red green blue : UInt8) :
      ChannelInt (54 * red.toNat + 183 * green.toNat + 19 * blue.toNat)
  | difference (red green blue otherRed otherGreen otherBlue : UInt8) :
      ChannelInt (((red.toNat : Int) - otherRed.toNat).natAbs +
        ((green.toNat : Int) - otherGreen.toNat).natAbs +
          ((blue.toNat : Int) - otherBlue.toNat).natAbs)
  | percent (channel : UInt8) : ChannelInt (channel.toNat * 100 + 127)
  | register (index : UInt8) {offset : Int} (first : offset = 0 ∨ offset = 1) :
      ChannelInt (index.toNat + offset)

/-- `encodeView` of a packed view, up to the palette indices. -/
inductive PackedInt (width height pixelBytes : Int) : Int → Prop where
  /-- The working copy of the ditherers. -/
  | read {column : Int} (nonneg : 0 ≤ column) (inside : column < width) :
      PackedInt width height pixelBytes (column * pixelBytes)
  | written {column part : Int} (nonneg : 0 ≤ column) (inside : column < width)
      (partNonneg : 0 ≤ part) (partInside : part < 3) :
      PackedInt width height pixelBytes (column * 3 + part)
  | rowBytes : PackedInt width height pixelBytes (width * 3)
  | diffused {levels value : Int} (atLeast : 2 ≤ levels) (atMost : levels ≤ 129)
      (evaluated : FloydSteinbergInt width.toNat height.toNat levels value) :
      PackedInt width height pixelBytes value
  | total : PackedInt width height pixelBytes (width * height)
  | reserved : PackedInt width height pixelBytes (width * height / 3)
  /-- Reads of the working copy, or of the view itself. -/
  | mapped {column sourceStride : Int} (nonneg : 0 ≤ column) (inside : column < width)
      (known : sourceStride = pixelBytes ∨ sourceStride = 3) :
      PackedInt width height pixelBytes (column * sourceStride)
  | lanes {x lanes : Int} (eligible : 64 ≤ width) (wide : lanes = 8 ∨ lanes = 16) (nonneg : 0 ≤ x)
      (inside : x ≤ width) : PackedInt width height pixelBytes (x + lanes)
  | lane {x lane : Int} (xNonneg : 0 ≤ x) (laneNonneg : 0 ≤ lane) (inside : x + lane < width) :
      PackedInt width height pixelBytes (x + lane)
  /-- Sampling of `analyzeFrameFast`. -/
  | nextSampledColumn {round : Nat} (inside : 12 * round < width) :
      PackedInt width height pixelBytes (12 * round + 12)
  | nextSampledRow {round : Nat} (inside : 12 * round < height) :
      PackedInt width height pixelBytes (12 * round + 12)
  | samples {count : Int} (nonneg : 0 ≤ count) (pixels : count ≤ width * height) :
      PackedInt width height pixelBytes count
  /-- `nextRow` of the `EncoderParallelExecutor`, where it is useful: from zero on until every
  thread has drawn a number past the last row. -/
  | nextRow {threads row : Int} (several : 1 < threads) (most : threads ≤ 16)
      (rows : threads * 4 ≤ height) (pixels : 128 * 128 ≤ width * height) (nonneg : 0 ≤ row)
      (drawn : row ≤ height + threads) : PackedInt width height pixelBytes row
  | channel {value : Int} (evaluated : ChannelInt value) : PackedInt width height pixelBytes value

/-! ### Bands -/

/-- `emitIndexedFrame` and what it calls. -/
inductive BandInt (width height : Int) : Int → Prop where
  | next {round : Nat} (inside : 6 * round < height) : BandInt width height (6 * round + 6)
  | rowStart {y : Int} (nonneg : 0 ≤ y) (inside : y < height) : BandInt width height (y * width)
  | index {x y : Int} (yNonneg : 0 ≤ y) (yInside : y < height) (xNonneg : 0 ≤ x)
      (xInside : x < width) : BandInt width height (y * width + x)
  | bit {y band : Int} (nonneg : 0 ≤ band) (start : band ≤ y) (inside : y < height) :
      BandInt width height (y - band)
  | slot {slot : Int} (nonneg : 0 ≤ slot) (listed : slot ≤ 256) : BandInt width height slot
  | run {column run : Int} (columnNonneg : 0 ≤ column) (runNonneg : 0 ≤ run)
      (inside : column + run ≤ width) : BandInt width height (column + run)
  | remaining {count run : Int} (nonneg : 0 ≤ run) (most : run ≤ count) (inside : count ≤ width) :
      BandInt width height (count - run)

/-! ### The pipeline -/

/-- Bytes of a pixel: the frame's own, or three once the engine has unpacked it. -/
inductive Frame.PixelBytes (frame : Frame) : Int → Prop where
  | own : frame.PixelBytes frame.bytesPerPixel
  | unpacked (packed : frame.bytesPerPixel = 2) : frame.PixelBytes 3

/-- The `int` values of the pipeline for a frame and a region of it. -/
inductive Frame.Evaluates (frame : Frame) (region : DamageRegion) : Int → Prop where
  | unpacks {column part : Int} (packed : frame.bytesPerPixel = 2) (nonneg : 0 ≤ column)
      (inside : column < frame.width) (partNonneg : 0 ≤ part) (partInside : part < 3) :
      frame.Evaluates region (column * 3 + part)
  | converts {channels value : Int} (held : frame.PixelBytes channels)
      (bytes : channels = 3 ∨ channels = 4) (evaluated : ConvertInt channels region value) :
      frame.Evaluates region value
  | compares {pixelBytes value : Int} (held : frame.PixelBytes pixelBytes) {options : DamageOptions}
      (tileWidthPos : 1 ≤ options.tileWidth) (tileHeightPos : 1 ≤ options.tileHeight)
      (evaluated : CompareInt frame.width frame.height pixelBytes options value) :
      frame.Evaluates region value
  | slices {pixelBytes value : Int} (held : frame.PixelBytes pixelBytes)
      (evaluated : SliceInt pixelBytes region value) : frame.Evaluates region value
  | maps {pixelBytes value : Int} (packed : frame.isIndexed = false)
      (held : frame.PixelBytes pixelBytes)
      (evaluated : PackedInt region.width region.height pixelBytes value) :
      frame.Evaluates region value
  | registers {value : Int} (evaluated : ChannelInt value) : frame.Evaluates region value
  | bands {value : Int} (evaluated : BandInt region.width region.height value) :
      frame.Evaluates region value

/-- No expression leaves `int` for any region of the frame. -/
def Frame.StaysInInt (frame : Frame) : Prop :=
  ∀ region : DamageRegion, region.Inside frame.width frame.height →
    ∀ value, frame.Evaluates region value → InInt value

/-- The geometry downstream code can count in `int`. -/
def Frame.FitsInt : Frame → Prop
  | packed view =>
      view.width * 3 ≤ intMax ∧
        (Rasterm.bytesPerPixel view.format = 4 → view.width * 4 - 1 ≤ intMax) ∧
          view.height ≤ intMax - 16
  | indexed view => view.height < intMax

/-! ### Ranges -/

theorem inInt_of_nonneg {value : Int} (nonneg : 0 ≤ value) (le : value ≤ intMax) : InInt value := by
  unfold InInt
  unfold intMax at *
  omega

/-- A tile starts inside the frame. -/
theorem tileStart_bounds {bound tile start : Int} (tilePos : 1 ≤ tile)
    (starts : TileStart bound tile start) : 0 ≤ start ∧ start < bound := by
  obtain ⟨index, nonneg, inside, rfl⟩ := starts
  have quotient : index ≤ (bound - 1) / tile := by omega
  have product : index * tile ≤ bound - 1 := (Int.le_ediv_iff_mul_le (by omega)).mp quotient
  exact ⟨mul_nonneg nonneg (by omega), by omega⟩

theorem tiles_bounds {bound tile : Int} (boundPos : 0 < bound) (tilePos : 1 ≤ tile) :
    0 ≤ (bound - 1) / tile + 1 ∧ (bound - 1) / tile + 1 ≤ bound := by
  have nonneg : 0 ≤ (bound - 1) / tile := Int.ediv_nonneg (by omega) (by omega)
  have le : (bound - 1) / tile ≤ bound - 1 := Int.ediv_le_self tile (by omega)
  omega

/-- A cell of a rectangle, counted row by row. -/
theorem cell_bounds {width height x y : Int} (yNonneg : 0 ≤ y) (yInside : y < height)
    (xNonneg : 0 ≤ x) (xInside : x < width) : 0 ≤ y * width + x ∧ y * width + x < width * height := by
  have start : 0 ≤ y * width := mul_nonneg yNonneg (by omega)
  have next : (y + 1) * width ≤ height * width := mul_le_mul_of_nonneg_right (by omega) (by omega)
  rw [add_mul, one_mul, mul_comm height width] at next
  omega

theorem inInt_of_compareInt {width height pixelBytes value : Int} {options : DamageOptions}
    (widthPos : 0 < width) (widthLe : width ≤ intMax) (heightPos : 0 < height)
    (heightLe : height ≤ intMax) (tileWidthPos : 1 ≤ options.tileWidth)
    (tileHeightPos : 1 ≤ options.tileHeight)
    (columns : ∀ x, 0 ≤ x → x < width → InInt (x * pixelBytes))
    (evaluated : CompareInt width height pixelBytes options value) : InInt value := by
  cases evaluated with
  | last side => exact inInt_of_nonneg (by omega) (by omega)
  | tilesX =>
      obtain ⟨nonneg, le⟩ := tiles_bounds widthPos tileWidthPos
      exact inInt_of_nonneg nonneg (by omega)
  | tilesY =>
      obtain ⟨nonneg, le⟩ := tiles_bounds heightPos tileHeightPos
      exact inInt_of_nonneg nonneg (by omega)
  | x start =>
      obtain ⟨nonneg, lt⟩ := tileStart_bounds tileWidthPos start
      exact inInt_of_nonneg nonneg (by omega)
  | y start =>
      obtain ⟨nonneg, lt⟩ := tileStart_bounds tileHeightPos start
      exact inInt_of_nonneg nonneg (by omega)
  | tileWidth start =>
      obtain ⟨nonneg, lt⟩ := tileStart_bounds tileWidthPos start
      exact inInt_of_nonneg (by omega) (by omega)
  | tileHeight start =>
      obtain ⟨nonneg, lt⟩ := tileStart_bounds tileHeightPos start
      exact inInt_of_nonneg (by omega) (by omega)
  | row start rowNonneg inside =>
      obtain ⟨nonneg, lt⟩ := tileStart_bounds tileHeightPos start
      exact inInt_of_nonneg (by omega) (by omega)
  | columnBytes start =>
      obtain ⟨nonneg, lt⟩ := tileStart_bounds tileWidthPos start
      exact columns _ nonneg lt
  | strip opened start before =>
      obtain ⟨firstNonneg, -⟩ := tileStart_bounds tileWidthPos opened
      obtain ⟨nonneg, lt⟩ := tileStart_bounds tileWidthPos start
      exact inInt_of_nonneg (by omega) (by omega)
  | bottom inside =>
      obtain ⟨left, top, wide, high, right, bottom⟩ := inside
      exact inInt_of_nonneg (by omega) (by omega)
  | merged upperInside lowerInside adjacent =>
      obtain ⟨-, upperTop, -, upperHigh, -, upperBottom⟩ := upperInside
      obtain ⟨-, -, -, lowerHigh, -, lowerBottom⟩ := lowerInside
      exact inInt_of_nonneg (by omega) (by omega)

theorem inInt_of_channelInt {value : Int} (evaluated : ChannelInt value) : InInt value := by
  unfold InInt intMax
  cases evaluated with
  | lookup levels | quantized levels =>
      simp only [List.forall_mem_cons, List.not_mem_nil, false_implies, implies_true, and_true]
        at levels
      omega
  | scaled channel | coarse channel | percent channel | register channel first =>
      have bound := channel.toNat_lt
      omega
  | packed red green blue | luminance red green blue =>
      have redLt := red.toNat_lt
      have greenLt := green.toNat_lt
      have blueLt := blue.toNat_lt
      omega
  | difference red green blue otherRed otherGreen otherBlue =>
      have redLt := red.toNat_lt
      have greenLt := green.toNat_lt
      have blueLt := blue.toNat_lt
      have otherRedLt := otherRed.toNat_lt
      have otherGreenLt := otherGreen.toNat_lt
      have otherBlueLt := otherBlue.toNat_lt
      omega

theorem inInt_of_packedInt {width height pixelBytes value : Int} (widthPos : 0 < width)
    (heightPos : 0 < height) (heightLe : height ≤ intMax - 16) (area : width * height ≤ intMax)
    (rowBytes : width * 3 ≤ intMax) (columns : ∀ x, 0 ≤ x → x < width → InInt (x * pixelBytes))
    (evaluated : PackedInt width height pixelBytes value) : InInt value := by
  have areaPos : 0 < width * height := mul_pos widthPos heightPos
  have small : intMax = 2147483647 := rfl
  cases evaluated with
  | read nonneg inside => exact columns _ nonneg inside
  | mapped nonneg inside known =>
      rcases known with rfl | rfl
      · exact columns _ nonneg inside
      · exact inInt_of_nonneg (by omega) (by omega)
  | diffused atLeast atMost evaluated =>
      have widthCast : (width.toNat : Int) = width := by omega
      exact inInt_of_rowBytes atLeast atMost (by omega) (by rwa [widthCast]) evaluated
  | channel evaluated => exact inInt_of_channelInt evaluated
  | _ => exact inInt_of_nonneg (by omega) (by omega)

theorem inInt_of_bandInt {width height value : Int} (widthPos : 0 < width) (widthLe : width ≤ intMax)
    (heightLt : height < intMax) (area : width * height ≤ intMax)
    (evaluated : BandInt width height value) : InInt value := by
  have small : intMax = 2147483647 := rfl
  cases evaluated with
  | rowStart yNonneg yInside =>
      obtain ⟨nonneg, lt⟩ := cell_bounds yNonneg yInside le_rfl widthPos
      exact inInt_of_nonneg (by omega) (by omega)
  | index yNonneg yInside xNonneg xInside =>
      obtain ⟨nonneg, lt⟩ := cell_bounds yNonneg yInside xNonneg xInside
      exact inInt_of_nonneg nonneg (by omega)
  | _ => exact inInt_of_nonneg (by omega) (by omega)

theorem inInt_of_convertInt {width height channels value : Int} {rectangle : DamageRect}
    (inside : rectangle.Inside width height) (widthLe : width ≤ intMax)
    (heightLe : height ≤ intMax)
    (columns : ∀ x part, 0 ≤ x → x < width → 0 ≤ part → part < channels →
      InInt (x * channels + part))
    (bytes : channels = 3 ∨ channels = 4) (evaluated : ConvertInt channels rectangle value) :
    InInt value := by
  obtain ⟨left, top, wide, high, right, bottom⟩ := inside
  cases evaluated with
  | bottom => exact inInt_of_nonneg (by omega) (by omega)
  | right => exact inInt_of_nonneg (by omega) (by omega)
  | base before after =>
      rw [← Int.add_zero (_ * channels)]
      exact columns _ 0 (by omega) (by omega) le_rfl (by omega)
  | channel before after nonneg stored =>
      exact columns _ _ (by omega) (by omega) nonneg stored

theorem inInt_of_sliceInt {width height pixelBytes value : Int} {region : DamageRegion}
    (inside : region.Inside width height) (widthLe : width ≤ intMax)
    (heightLe : height ≤ intMax) (columns : ∀ x, 0 ≤ x → x < width → InInt (x * pixelBytes))
    (evaluated : SliceInt pixelBytes region value) : InInt value := by
  obtain ⟨left, top, wide, high, right, bottom⟩ := inside
  cases evaluated with
  | right => exact inInt_of_nonneg (by omega) (by omega)
  | bottom => exact inInt_of_nonneg (by omega) (by omega)
  | start => exact columns _ left (by omega)

/-! ### Accepted frames -/

namespace Frame

variable {frame : Frame}

/-- The area of a region is that of a part of the frame. -/
theorem area_le_of_inside {region : DamageRegion} (inside : region.Inside frame.width frame.height)
    (area : frame.width * frame.height ≤ intMax) : region.width * region.height ≤ intMax := by
  obtain ⟨left, top, wide, high, right, bottom⟩ := inside
  have part : region.width * region.height ≤ frame.width * frame.height :=
    Int.mul_le_mul (by omega) (by omega) high.le (by omega)
  exact part.trans area

theorem bytesPerPixel_cases (format : PixelFormat) :
    Rasterm.bytesPerPixel format = 0 ∨ Rasterm.bytesPerPixel format = 2 ∨
      Rasterm.bytesPerPixel format = 3 ∨ Rasterm.bytesPerPixel format = 4 := by
  cases format <;> simp [Rasterm.bytesPerPixel]

/-- A pixel takes one byte or more. -/
theorem PixelBytes.pos (geometry : frame.Geometry) {pixelBytes : Int}
    (held : frame.PixelBytes pixelBytes) : 0 < pixelBytes := by
  cases held with
  | own => exact Int.ofNat_lt.mpr geometry.bytesPerPixel_pos
  | unpacked => decide

/-- Each offset into a row of a frame that fits. -/
theorem FitsInt.offset (fits : frame.FitsInt) (geometry : frame.Geometry) {pixelBytes : Int}
    (held : frame.PixelBytes pixelBytes) {x part : Int} (nonneg : 0 ≤ x) (inside : x < frame.width)
    (partNonneg : 0 ≤ part) (partInside : part < pixelBytes) : InInt (x * pixelBytes + part) := by
  have widthLe :=
    (sides_le_of_area_le geometry.width_pos geometry.height_pos geometry.area_le).1
  cases frame with
  | packed view =>
      obtain ⟨triple, fourfold, -⟩ := fits
      have inside : x < view.width := inside
      cases held with
      | own =>
          have held : (packed view).bytesPerPixel = Rasterm.bytesPerPixel view.format := rfl
          rw [held] at partInside ⊢
          rcases bytesPerPixel_cases view.format with bytes | bytes | bytes | bytes <;>
            rw [bytes] at partInside ⊢
          · omega
          · exact inInt_of_nonneg (by omega) (by omega)
          · exact inInt_of_nonneg (by omega) (by omega)
          · have last := fourfold bytes
            exact inInt_of_nonneg (by omega) (by omega)
      | unpacked => exact inInt_of_nonneg (by omega) (by omega)
  | indexed view =>
      cases held with
      | own =>
          have single : (indexed view).bytesPerPixel = 1 := rfl
          rw [single] at partInside ⊢
          exact inInt_of_nonneg (by omega) (by omega)
      | unpacked two => exact absurd two (show ¬ 1 = 2 by decide)

theorem FitsInt.start (fits : frame.FitsInt) (geometry : frame.Geometry) {pixelBytes : Int}
    (held : frame.PixelBytes pixelBytes) {x : Int} (nonneg : 0 ≤ x) (inside : x < frame.width) :
    InInt (x * pixelBytes) := by
  rw [← Int.add_zero (x * pixelBytes)]
  exact fits.offset geometry held nonneg inside le_rfl (held.pos geometry)

theorem FitsInt.height_lt (fits : frame.FitsInt) : frame.height < intMax := by
  cases frame with
  | packed view =>
      obtain ⟨-, -, height⟩ := fits
      have same : (packed view).height = view.height := rfl
      omega
  | indexed view => exact fits

theorem FitsInt.packed_bounds (fits : frame.FitsInt) (packed : frame.isIndexed = false) :
    frame.width * 3 ≤ intMax ∧ frame.height ≤ intMax - 16 := by
  cases frame with
  | packed view => exact ⟨fits.1, fits.2.2⟩
  | indexed view => exact absurd packed (show ¬ true = false by decide)

/-- A frame that fits keeps every expression in range. -/
theorem FitsInt.staysInInt (fits : frame.FitsInt) (geometry : frame.Geometry) :
    frame.StaysInInt := by
  intro region inside value evaluated
  obtain ⟨widthLe, heightLe⟩ :=
    sides_le_of_area_le geometry.width_pos geometry.height_pos geometry.area_le
  have heightLt := fits.height_lt
  have area := area_le_of_inside inside geometry.area_le
  obtain ⟨left, top, wide, high, right, bottom⟩ := id inside
  cases evaluated with
  | unpacks two nonneg columnInside partNonneg partInside =>
      exact fits.offset geometry (.unpacked two) nonneg columnInside partNonneg partInside
  | converts held bytes evaluated =>
      exact inInt_of_convertInt inside widthLe heightLe
        (fun x part => fits.offset geometry held) bytes evaluated
  | compares held tileWidthPos tileHeightPos evaluated =>
      exact inInt_of_compareInt geometry.width_pos widthLe geometry.height_pos heightLe tileWidthPos
        tileHeightPos (fun x => fits.start geometry held) evaluated
  | slices held evaluated =>
      exact inInt_of_sliceInt inside widthLe heightLe (fun x => fits.start geometry held) evaluated
  | maps packed held evaluated =>
      obtain ⟨triple, heightLe'⟩ := fits.packed_bounds packed
      refine inInt_of_packedInt wide high (by omega) area (by omega) ?_ evaluated
      intro x nonneg xInside
      exact fits.start geometry held nonneg (by omega)
  | registers evaluated => exact inInt_of_channelInt evaluated
  | bands evaluated =>
      exact inInt_of_bandInt wide (by omega) (by omega) area evaluated

/-- The region that covers a frame. -/
theorem Geometry.whole (geometry : frame.Geometry) :
    DamageRect.Inside ⟨0, 0, frame.width, frame.height⟩ frame.width frame.height :=
  ⟨le_rfl, le_rfl, geometry.width_pos, geometry.height_pos, (zero_add _).le, (zero_add _).le⟩

/-- Each part of the condition is asked for by an expression that is evaluated. -/
theorem StaysInInt.fitsInt (stays : frame.StaysInInt) (geometry : frame.Geometry) :
    frame.FitsInt := by
  have whole := stays _ geometry.whole
  have small : intMax = 2147483647 := rfl
  cases frame with
  | packed view =>
      have heightPos : 0 < view.height := geometry.height_pos
      have widthPos : 0 < view.width := geometry.width_pos
      refine ⟨?_, ?_, ?_⟩
      · exact (whole _ (.maps rfl .own .rowBytes)).2
      · intro four
        have last : DamageRect.Inside ⟨view.width - 1, 0, 1, 1⟩ view.width view.height :=
          ⟨show 0 ≤ view.width - 1 by omega, le_rfl, Int.one_pos, Int.one_pos,
            show view.width - 1 + 1 ≤ view.width by omega, show 0 + 1 ≤ view.height by omega⟩
        have sliced := (stays _ last _ (.slices .own .start)).2
        have bytes : ((packed view).bytesPerPixel : Int) = 4 := congrArg Nat.cast four
        dsimp only at sliced
        rw [bytes] at sliced
        omega
      · -- sixteen threads, and the last of them past the last row
        by_contra tall
        have pixels : 128 * 128 ≤ view.width * view.height := by
          have single : 1 * view.height ≤ view.width * view.height :=
            mul_le_mul_of_nonneg_right widthPos heightPos.le
          omega
        have drawn := (whole _ (.maps rfl .own (.nextRow (by decide : (1 : Int) < 16) le_rfl
          (show 16 * 4 ≤ view.height by omega) pixels (show 0 ≤ view.height + 16 by omega)
          le_rfl))).2
        omega
  | indexed view =>
      by_contra tall
      have sides := sides_le_of_area_le geometry.width_pos geometry.height_pos geometry.area_le
      have heightLe : view.height ≤ intMax := sides.2
      have tall : ¬ view.height < intMax := tall
      have started : 6 * (((view.height - 1) / 6).toNat : Int) < view.height := by omega
      have next := (whole _ (.bands (.next started))).2
      omega

end Frame

/-- Exactly the accepted frames that fit keep every `int` expression of the pipeline in range. -/
theorem staysInInt_iff {frame : Frame} (valid : frame.isValid = true) :
    frame.StaysInInt ↔ frame.FitsInt :=
  ⟨fun stays => stays.fitsInt (Frame.geometry_of_isValid valid),
    fun fits => fits.staysInInt (Frame.geometry_of_isValid valid)⟩

theorem staysInInt_iff_stripes :
    (Frame.indexed IndexedFrameView.stripes).StaysInInt ↔
      (Frame.indexed IndexedFrameView.stripes).FitsInt :=
  staysInInt_iff (by decide +kernel)

/-- One row of four-byte pixels, one more than `int` can count the bytes of. -/
def Frame.wideRow : Frame :=
  packed { data := some fun _ => 0, width := 536870913, height := 1, stride := 2147483652,
           format := .rgba32 }

/-- The last pixel of the row is a region whose offset leaves `int`. -/
theorem overflow_of_lastPixel : Frame.wideRow.isValid = true ∧ ¬ Frame.wideRow.StaysInInt := by
  refine ⟨by decide +kernel, fun stays => ?_⟩
  have last : DamageRect.Inside ⟨536870912, 0, 1, 1⟩ Frame.wideRow.width Frame.wideRow.height :=
    ⟨by decide, by decide, by decide, by decide, by decide, by decide⟩
  have sliced := stays _ last (536870912 * 4) (.slices .own .start)
  exact absurd sliced.2 (by decide)

end Rasterm
