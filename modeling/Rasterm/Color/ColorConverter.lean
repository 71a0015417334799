import Rasterm.Encoder.Host
import Rasterm.Frame.View
import Rasterm.Library.Canvas

/-!
Contract: `ColorConverter`: the pixels of the last converted frame, updated inside
the supplied damage while the next frame is compatible with them.

Owns the cache key, the conversion of rectangles and what every pixel of the frame
handed on is. The conversion of one pixel belongs to the host.
-/

set_option autoImplicit false

namespace Rasterm

def sameColor (left right : ColorMetadata) : Bool :=
  left.primaries == right.primaries && left.transfer == right.transfer &&
    left.matrix == right.matrix && left.range == right.range &&
    left.referenceWhiteNits.equals right.referenceWhiteNits &&
    left.masteringPeakNits.equals right.masteringPeakNits

theorem eq_of_sameColor {left right : ColorMetadata} (same : sameColor left right = true) :
    left = right := by
  cases left
  cases right
  simp only [sameColor, Bool.and_eq_true, beq_iff_eq] at same
  obtain ⟨⟨⟨⟨⟨primaries, transfer⟩, matrix⟩, range⟩, white⟩, peak⟩ := same
  have whiteEq := FloatValue.eq_of_equals white
  have peakEq := FloatValue.eq_of_equals peak
  simp only [primaries, transfer, matrix, range, whiteEq, peakEq]

def alreadySrgb (color : ColorMetadata) : Bool :=
  color.transfer == .srgb && color.primaries == .bt709 && color.range == .full

structure ColorConverter where
  pixels : Memory := fun _ => 0
  /-- `pixels.size()`. -/
  size : Nat := 0
  previousColor : ColorMetadata := {}
  previousToneMap : ToneMapOperator := .none
  previousOutputPeakNits : FloatValue := .finite 0
  previousWidth : Int := 0
  previousHeight : Int := 0
  previousFormat : PixelFormat := .rgb24
  previousDamageSupplied : Bool := false
  hasConvertedFrame : Bool := false

namespace ColorConverter

def reset (converter : ColorConverter) : ColorConverter :=
  { converter with hasConvertedFrame := false, previousWidth := 0, previousHeight := 0 }

/-- Bytes in one row of the cache. -/
def rowBytes (width : Int) (format : PixelFormat) : Nat := width.toNat * bytesPerPixel format

def compatibleCache (converter : ColorConverter) (frame : FrameView) (options : ColorOptions) :
    Bool :=
  converter.hasConvertedFrame && converter.previousWidth == frame.width &&
    converter.previousHeight == frame.height && converter.previousFormat == frame.format &&
    sameColor converter.previousColor frame.metadata.color &&
    converter.previousToneMap == options.toneMap &&
    converter.previousOutputPeakNits.equals options.outputPeakNits &&
    converter.previousDamageSupplied == frame.metadata.damage.supplied &&
    converter.size == rowBytes frame.width frame.format * frame.height.toNat

/-- The bytes one converted pixel is stored as. -/
def convertedPixel (host : Host) (frame : FrameView) (options : ColorOptions) (x y : Nat) :
    List UInt8 :=
  let rgb := frame.format == .rgb24 || frame.format == .rgba32
  let source := frame.pixel x y
  let converted := host.convertPixel frame.metadata.color options
    ⟨source (if rgb then 0 else 2), source 1, source (if rgb then 2 else 0)⟩
  [if rgb then converted.red else converted.blue, converted.green,
    if rgb then converted.blue else converted.red] ++
    if bytesPerPixel frame.format = 4 then [source 3] else []

def convertRectangle (host : Host) (frame : FrameView) (options : ColorOptions) (pixels : Memory)
    (area : DamageRect) : Memory :=
  Canvas.fill (convertedPixel host frame options) (rowBytes frame.width frame.format)
    (bytesPerPixel frame.format) area.x.toNat area.y.toNat area.width.toNat area.height.toNat pixels

/-- The cached pixels are kept outside the supplied damage. -/
def reuses (converter : ColorConverter) (frame : FrameView) (options : ColorOptions) : Bool :=
  converter.compatibleCache frame options && frame.metadata.damage.supplied

/-- The rectangles converted for a frame. -/
def convertedAreas (converter : ColorConverter) (frame : FrameView) (options : ColorOptions) :
    List DamageRect :=
  if converter.reuses frame options then frame.metadata.damage.rects
  else [⟨0, 0, frame.width, frame.height⟩]

/-- Nothing is converted for this frame. -/
def bypasses (options : ColorOptions) (color : ColorMetadata) : Bool :=
  !options.convertToSrgb || alreadySrgb color

def toSrgb (host : Host) (converter : ColorConverter) (frame : FrameView)
    (options : ColorOptions) : ColorConverter × FrameView :=
  let color := frame.metadata.color
  if bypasses options color then (converter.reset, frame)
  else
    let stride := rowBytes frame.width frame.format
    let pixels := (converter.convertedAreas frame options).foldl
      (convertRectangle host frame options) converter.pixels
    ({ pixels := pixels
       size := stride * frame.height.toNat
       previousColor := color
       previousToneMap := options.toneMap
       previousOutputPeakNits := options.outputPeakNits
       previousWidth := frame.width
       previousHeight := frame.height
       previousFormat := frame.format
       previousDamageSupplied := frame.metadata.damage.supplied
       hasConvertedFrame := true },
      { frame with
        data := some pixels
        stride := stride
        metadata := { frame.metadata with color := {} } })

/-! ### What a conversion leaves in the cache -/

/-- Three or four bytes a pixel, one of them per channel. -/
def ByteChannels (format : PixelFormat) : Prop := bytesPerPixel format = 3 ∨ bytesPerPixel format = 4

/-- The colour the cache holds for a pixel. -/
def cachedColor (converter : ColorConverter) (x y : Nat) : PixelChannels :=
  readPixel (converter.pixels.advance (Canvas.place
      (rowBytes converter.previousWidth converter.previousFormat)
      (bytesPerPixel converter.previousFormat) x y))
    (pixelLayout converter.previousFormat)

/-- One pixel converted in full. -/
def convertedColor (host : Host) (frame : FrameView) (options : ColorOptions) (x y : Nat) :
    PixelChannels :=
  host.convertPixel frame.metadata.color options (frame.channels x y)

section Conversion

variable {host : Host} {converter : ColorConverter} {frame : FrameView} {options : ColorOptions}
  {x y : Nat}

theorem length_convertedPixel (stored : ByteChannels frame.format) (x y : Nat) :
    (convertedPixel host frame options x y).length = bytesPerPixel frame.format := by
  rcases stored with three | four
  · simp [convertedPixel, three]
  · simp [convertedPixel, four]

/-- A stored pixel reads back as the converted colour. -/
theorem readPixel_convertedPixel (stored : ByteChannels frame.format) (x y : Nat) :
    readPixel (fun index => (convertedPixel host frame options x y).getD index 0)
        (pixelLayout frame.format) = convertedColor host frame options x y := by
  unfold ByteChannels at stored
  cases format : frame.format <;>
    simp_all [convertedPixel, convertedColor, FrameView.channels, readPixel, pixelLayout,
      bytesPerPixel]

theorem fits_rowBytes (geometry : frame.Geometry) :
    Canvas.Fits (rowBytes frame.width frame.format) (bytesPerPixel frame.format)
      frame.width.toNat where
  cell_pos := Nat.pos_of_ne_zero geometry.format_listed
  row_le := Nat.le_refl _

/-- The bytes of a pixel after some rectangles were converted. -/
theorem foldl_convertRectangle (geometry : frame.Geometry)
    (stored : ByteChannels frame.format) (xInside : x < frame.width.toNat) {index : Nat}
    (indexInside : index < bytesPerPixel frame.format) (areas : List DamageRect)
    (inside : ∀ area ∈ areas, area.Inside frame.width frame.height) (pixels : Memory) :
    let slot := Canvas.place (rowBytes frame.width frame.format) (bytesPerPixel frame.format) x y +
      index
    areas.foldl (convertRectangle host frame options) pixels slot =
      if Covers areas x y then (convertedPixel host frame options x y).getD index 0
      else pixels slot := by
  intro slot
  induction areas generalizing pixels with
  | nil => rw [if_neg (not_covers_nil _ _), List.foldl_nil]
  | cons area areas inductionHypothesis =>
      have here := inside area List.mem_cons_self
      obtain ⟨xNonneg, yNonneg, widthPos, heightPos, rightLe, bottomLe⟩ := here
      have found : (convertedPixel host frame options x y)[index]? =
          some ((convertedPixel host frame options x y).getD index 0) := by
        rw [List.getD_eq_getElem?_getD, List.getElem?_eq_getElem]
        · rfl
        · rw [length_convertedPixel stored]
          exact indexInside
      have written : convertRectangle host frame options pixels area slot =
          if area.Contains x y then (convertedPixel host frame options x y).getD index 0
          else pixels slot := by
        rw [convertRectangle, Canvas.fill_apply (fits_rowBytes geometry)
          (length_convertedPixel stored) (by omega) xInside indexInside found]
        by_cases contained : area.Contains x y
        · rw [if_pos contained, if_pos]
          unfold DamageRect.Contains at contained
          omega
        · rw [if_neg contained, if_neg]
          unfold DamageRect.Contains at contained
          omega
      rw [List.foldl_cons, inductionHypothesis fun other member =>
        inside other (List.mem_cons_of_mem _ member), written]
      by_cases later : Covers areas x y
      · rw [if_pos later, if_pos]
        obtain ⟨region, member, contains⟩ := later
        exact ⟨region, List.mem_cons_of_mem _ member, contains⟩
      · rw [if_neg later]
        by_cases contained : area.Contains x y
        · rw [if_pos contained, if_pos ⟨area, List.mem_cons_self, contained⟩]
        · rw [if_neg contained, if_neg]
          rintro ⟨region, member, contains⟩
          rcases List.mem_cons.mp member with same | after
          · exact contained (same ▸ contains)
          · exact later ⟨region, after, contains⟩

theorem toSrgb_of_bypasses (bypassed : bypasses options frame.metadata.color = true) :
    converter.toSrgb host frame options = (converter.reset, frame) :=
  if_pos bypassed

theorem toSrgb_of_converts (converts : bypasses options frame.metadata.color = false) :
    converter.toSrgb host frame options =
      let pixels := (converter.convertedAreas frame options).foldl
        (convertRectangle host frame options) converter.pixels
      ({ pixels := pixels
         size := rowBytes frame.width frame.format * frame.height.toNat
         previousColor := frame.metadata.color
         previousToneMap := options.toneMap
         previousOutputPeakNits := options.outputPeakNits
         previousWidth := frame.width
         previousHeight := frame.height
         previousFormat := frame.format
         previousDamageSupplied := frame.metadata.damage.supplied
         hasConvertedFrame := true },
        { frame with
          data := some pixels
          stride := rowBytes frame.width frame.format
          metadata := { frame.metadata with color := {} } }) :=
  if_neg (Bool.eq_false_iff.mp converts)

/-- The frame handed on reads its colours from the cache. -/
theorem channels_toSrgb (converts : bypasses options frame.metadata.color = false) (x y : Nat) :
    (converter.toSrgb host frame options).2.channels x y =
      (converter.toSrgb host frame options).1.cachedColor x y := by
  rw [toSrgb_of_converts converts]
  rfl

theorem eq_of_reuses (reused : converter.reuses frame options = true) :
    converter.hasConvertedFrame = true ∧ converter.previousWidth = frame.width ∧
      converter.previousHeight = frame.height ∧ converter.previousFormat = frame.format ∧
      converter.previousColor = frame.metadata.color := by
  simp only [reuses, compatibleCache, Bool.and_eq_true, beq_iff_eq] at reused
  rcases reused with ⟨⟨⟨⟨⟨⟨⟨⟨⟨converted, width⟩, height⟩, format⟩, color⟩, -⟩, -⟩, -⟩, -⟩, -⟩
  exact ⟨converted, width, height, format, eq_of_sameColor color⟩

/-- Pixels outside the supplied damage keep what the cache held; all others are
converted. -/
theorem cachedColor_toSrgb (geometry : frame.Geometry) (stored : ByteChannels frame.format)
    (converts : bypasses options frame.metadata.color = false) (xInside : x < frame.width.toNat)
    (yInside : y < frame.height.toNat) :
    (converter.toSrgb host frame options).1.cachedColor x y =
      if converter.reuses frame options = true ∧ ¬ Covers frame.metadata.damage.rects x y then
        converter.cachedColor x y
      else convertedColor host frame options x y := by
  have inside : ∀ area ∈ converter.convertedAreas frame options,
      area.Inside frame.width frame.height := by
    unfold convertedAreas
    split_ifs
    · exact DamageView.inside_of_isValidFor geometry.damage_valid
    · intro area member
      rw [List.mem_singleton.mp member]
      exact ⟨Int.le_refl _, Int.le_refl _, geometry.width_pos, geometry.height_pos, by simp,
        by simp⟩
  have bytes : ∀ index < bytesPerPixel frame.format,
      (converter.toSrgb host frame options).1.pixels.advance
          (Canvas.place (rowBytes frame.width frame.format) (bytesPerPixel frame.format) x y)
          index =
        if Covers (converter.convertedAreas frame options) x y then
          (convertedPixel host frame options x y).getD index 0
        else converter.pixels.advance
          (Canvas.place (rowBytes frame.width frame.format) (bytesPerPixel frame.format) x y)
          index := by
    intro index indexInside
    rw [toSrgb_of_converts converts]
    exact foldl_convertRectangle geometry stored xInside indexInside _ inside _
  have shape : (converter.toSrgb host frame options).1.previousWidth = frame.width ∧
      (converter.toSrgb host frame options).1.previousFormat = frame.format := by
    rw [toSrgb_of_converts converts]
    exact ⟨rfl, rfl⟩
  have stride := pixelStride_pixelLayout geometry.format_listed
  by_cases covered : Covers (converter.convertedAreas frame options) x y
  · have fresh : ¬ (converter.reuses frame options = true ∧
        ¬ Covers frame.metadata.damage.rects x y) := by
      rintro ⟨reused, uncovered⟩
      rw [convertedAreas, if_pos reused] at covered
      exact uncovered covered
    rw [if_neg fresh, ← readPixel_convertedPixel stored, cachedColor, shape.1, shape.2]
    apply readPixel_congr
    intro index indexInside
    rw [bytes index (stride ▸ indexInside), if_pos covered]
  · have reused : converter.reuses frame options = true := by
      by_contra missed
      apply covered
      rw [convertedAreas, if_neg missed]
      refine ⟨_, List.mem_singleton_self _, ?_⟩
      simp only [DamageRect.Contains]
      omega
    have uncovered : ¬ Covers frame.metadata.damage.rects x y := by
      rw [convertedAreas, if_pos reused] at covered
      exact covered
    rcases eq_of_reuses reused with ⟨-, width, -, format, -⟩
    rw [if_pos ⟨reused, uncovered⟩, cachedColor, cachedColor, shape.1, shape.2, width, format]
    apply readPixel_congr
    intro index indexInside
    rw [bytes index (stride ▸ indexInside), if_neg covered]

end Conversion

end ColorConverter

end Rasterm
