import Rasterm.Encoder.Host
import Rasterm.Frame.View
import Rasterm.Library.UnorderedMap

/-!
Contract: the palettes of the encoder: sampling of a frame (`FastColorAnalyzer`),
the content-adaptive mapper (`FastAdaptiveColorMapper`) and the fixed table
(`FastColorMapper`).

Both mappers carry what their tables promise: a colour number they hand out is
at least 1 and below `nextColorNum`, once there is a palette at all. Entries of
a presized vector from `nextColorNum` on are never read, so the palettes are
kept as the lists of their assigned entries.
-/

set_option autoImplicit false

namespace Rasterm

/-! ### Sampling -/

structure FastColorAnalyzer where
  colorFreq : UnorderedMap UInt32 Nat := {}
  luminanceHistogram : Histogram := {}

namespace FastColorAnalyzer

def sampleStep : Nat := 12

def luminance (channels : PixelChannels) : Nat :=
  (54 * channels.red.toNat + 183 * channels.green.toNat + 19 * channels.blue.toNat) / 256

def sample (analyzer : FastColorAnalyzer) (channels : PixelChannels) : FastColorAnalyzer :=
  let bin := min (luminance channels / 16) 15
  { colorFreq := analyzer.colorFreq.alter (packRgb channels.red channels.green channels.blue) 0
      (· + 1)
    luminanceHistogram :=
      { bins := analyzer.luminanceHistogram.bins.modify bin (· + 1)
        samples := analyzer.luminanceHistogram.samples + 1 } }

/-- The pixels `analyzeFrameFast` samples: every twelfth one of every twelfth row. -/
def samples (frame : FrameView) : List PixelChannels :=
  (List.range ((frame.height.toNat + (sampleStep - 1)) / sampleStep)).flatMap fun row =>
    (List.range ((frame.width.toNat + (sampleStep - 1)) / sampleStep)).map fun column =>
      frame.channels (column * sampleStep) (row * sampleStep)

def analyzeFrameFast (analyzer : FastColorAnalyzer) (frame : FrameView) : FastColorAnalyzer :=
  (samples frame).foldl sample { colorFreq := analyzer.colorFreq.clear }

/-- Descending by frequency, then by colour: `std::greater` on the pairs. -/
def moreFrequent (left right : Nat × UInt32) : Prop :=
  right.1 < left.1 ∨ (left.1 = right.1 ∧ right.2 ≤ left.2)

instance : DecidableRel moreFrequent := fun left right => by
  unfold moreFrequent
  infer_instance

instance : Std.Total moreFrequent where
  total left right := by
    unfold moreFrequent
    rcases Nat.lt_trichotomy left.1 right.1 with lower | equal | higher
    · exact Or.inr (Or.inl lower)
    · rcases UInt32.le_total left.2 right.2 with below | above
      · exact Or.inr (Or.inr ⟨equal.symm, below⟩)
      · exact Or.inl (Or.inr ⟨equal, above⟩)
    · exact Or.inl (Or.inl higher)

instance : IsTrans (Nat × UInt32) moreFrequent where
  trans left middle right := by
    rintro (first | ⟨firstEqual, first⟩) (second | ⟨secondEqual, second⟩)
    · exact Or.inl (by omega)
    · exact Or.inl (by omega)
    · exact Or.inl (by omega)
    · exact Or.inr ⟨by omega, UInt32.le_trans second first⟩

instance : Std.Antisymm moreFrequent where
  antisymm left right := by
    rintro (first | ⟨firstEqual, first⟩) (second | ⟨secondEqual, second⟩)
    · omega
    · omega
    · omega
    · exact Prod.ext firstEqual (UInt32.le_antisymm second first)

def getMostFrequentColors (host : Host) (analyzer : FastColorAnalyzer) (maxColors : Nat) :
    List UInt32 :=
  let frequencies := (host.iterate analyzer.colorFreq.touched analyzer.colorFreq.entries).map
    fun entry => (entry.2, entry.1)
  ((frequencies.insertionSort moreFrequent).take maxColors).map Prod.snd

/-- The map's iteration order, and so its history, cannot be observed. -/
theorem getMostFrequentColors_congr (host : Host) {left right : FastColorAnalyzer}
    (same : left.colorFreq.entries = right.colorFreq.entries) (maxColors : Nat) :
    left.getMostFrequentColors host maxColors = right.getMostFrequentColors host maxColors := by
  unfold getMostFrequentColors
  have arrangement :
      (host.iterate left.colorFreq.touched left.colorFreq.entries).Perm
        (host.iterate right.colorFreq.touched right.colorFreq.entries) := by
    rw [same]
    exact (host.iterate_perm _ _).trans (host.iterate_perm _ _).symm
  have sorted := @insertionSort_eq_of_perm (Nat × UInt32) moreFrequent _ _ _ _ _ _
    (arrangement.map fun entry => (entry.2, entry.1))
  simp only [sorted]

theorem foldl_sample_congr (colors : List PixelChannels) {left right : FastColorAnalyzer}
    (sameColors : left.colorFreq.entries = right.colorFreq.entries)
    (sameHistogram : left.luminanceHistogram = right.luminanceHistogram) :
    (colors.foldl sample left).colorFreq.entries = (colors.foldl sample right).colorFreq.entries ∧
      (colors.foldl sample left).luminanceHistogram =
        (colors.foldl sample right).luminanceHistogram := by
  induction colors generalizing left right with
  | nil => exact ⟨sameColors, sameHistogram⟩
  | cons color colors inductionHypothesis =>
      apply inductionHypothesis
      · exact UnorderedMap.entries_alter_congr _ _ _ sameColors
      · simp [sample, sameHistogram]

/-- An analysis depends on the frame alone, up to the hidden history of the map. -/
theorem analyzeFrameFast_congr (left right : FastColorAnalyzer) (frame : FrameView) :
    (left.analyzeFrameFast frame).colorFreq.entries =
        (right.analyzeFrameFast frame).colorFreq.entries ∧
      (left.analyzeFrameFast frame).luminanceHistogram =
        (right.analyzeFrameFast frame).luminanceHistogram :=
  foldl_sample_congr (samples frame) rfl rfl

end FastColorAnalyzer

/-! ### Nearest colours -/

def doubleMax : Rat := 2 ^ 1024 - 2 ^ 971

/-- The search loop of both tables: the first entry from 1 on with least distance. -/
def nearestColor (distance : UInt32 → Rat) (palette : List UInt32) : Nat :=
  ((List.range palette.length).drop 1).foldl
    (fun (best : Nat × Rat) color =>
      if distance (palette.getD color 0) < best.2 then (color, distance (palette.getD color 0))
      else best)
    (1, doubleMax) |>.1

private theorem search_mem (distance : UInt32 → Rat) (palette : List UInt32) (colors : List Nat)
    (start : Nat × Rat) :
    (colors.foldl
        (fun (best : Nat × Rat) color =>
          if distance (palette.getD color 0) < best.2 then
            (color, distance (palette.getD color 0))
          else best)
        start).1 ∈ start.1 :: colors := by
  induction colors generalizing start with
  | nil => simp
  | cons color colors inductionHypothesis =>
      rw [List.foldl_cons]
      have found := inductionHypothesis
        (if distance (palette.getD color 0) < start.2 then
          (color, distance (palette.getD color 0))
        else start)
      rcases List.mem_cons.mp found with kept | later
      · rw [kept]
        split_ifs <;> simp
      · exact List.mem_cons_of_mem _ (List.mem_cons_of_mem _ later)

/-- The search returns an existing entry other than entry 0. -/
theorem nearestColor_bounds (distance : UInt32 → Rat) {palette : List UInt32}
    (nonempty : 2 ≤ palette.length) :
    1 ≤ nearestColor distance palette ∧ nearestColor distance palette < palette.length := by
  have found := search_mem distance palette ((List.range palette.length).drop 1) (1, doubleMax)
  rcases List.mem_cons.mp found with first | later
  · exact ⟨first.ge, first.trans_lt nonempty⟩
  · change nearestColor distance palette ∈ _ at later
    obtain ⟨index, inside, value⟩ := List.getElem_of_mem later
    simp only [List.length_drop, List.length_range] at inside
    simp only [List.getElem_drop, List.getElem_range] at value
    omega

/-! ### The content-adaptive mapper -/

structure FastAdaptiveColorMapper where
  palette : List UInt32 := [0]
  rgbToColorNum : UnorderedMap UInt32 Nat := {}
  quantizedLookup : Nat → Int := fun _ => -1
  maxColors : Nat
  previousHistogram : Histogram := {}
  hasHistogram : Bool := false

namespace FastAdaptiveColorMapper

/-- Assigned entries, entry 0 included. -/
def nextColorNum (mapper : FastAdaptiveColorMapper) : Nat := mapper.palette.length

def q6 (channel : UInt8) : Nat := (channel.toNat * 5 + 127) / 255

def quantizedIndex (red green blue : UInt8) : Nat := (q6 red * 6 + q6 green) * 6 + q6 blue

/-- Add one sampled colour, unless the palette is full. -/
def addFrequentColor (mapper : FastAdaptiveColorMapper) (rgb : UInt32) :
    FastAdaptiveColorMapper :=
  if mapper.nextColorNum ≥ mapper.maxColors then mapper
  else
    let slot := quantizedIndex (rgb >>> 16).toUInt8 (rgb >>> 8).toUInt8 rgb.toUInt8
    { mapper with
      palette := mapper.palette ++ [rgb]
      rgbToColorNum := mapper.rgbToColorNum.insert rgb mapper.nextColorNum
      quantizedLookup :=
        if mapper.quantizedLookup slot = -1 then
          Function.update mapper.quantizedLookup slot mapper.nextColorNum
        else mapper.quantizedLookup }

/-- The grey cube corner that slot `(qr * 6 + qg) * 6 + qb` stands for. -/
def slotColor (slot : Nat) : UInt32 :=
  packRgb (UInt8.ofNat (slot / 36 * 51)) (UInt8.ofNat (slot / 6 % 6 * 51))
    (UInt8.ofNat (slot % 6 * 51))

def buildOptimalPalette (host : Host) (mapper : FastAdaptiveColorMapper)
    (analyzer : FastColorAnalyzer) : FastAdaptiveColorMapper :=
  let cleared : FastAdaptiveColorMapper :=
    { mapper with
      palette := [0]
      rgbToColorNum := mapper.rgbToColorNum.clear
      quantizedLookup := fun _ => -1 }
  let filled := (analyzer.getMostFrequentColors host (min 128 (mapper.maxColors - 1))).foldl
    addFrequentColor cleared
  { filled with
    quantizedLookup := fun slot =>
      if slot < 216 then nearestColor (host.adaptiveDistance (slotColor slot)) filled.palette
      else filled.quantizedLookup slot
    previousHistogram := analyzer.luminanceHistogram
    hasHistogram := true }

/-- Sum of the absolute channel differences to a palette entry. -/
def channelDifference (red green blue : UInt8) (rgb : UInt32) : Int :=
  |(red.toNat : Int) - ((rgb >>> 16) &&& 0xff).toNat| +
    |(green.toNat : Int) - ((rgb >>> 8) &&& 0xff).toNat| +
    |(blue.toNat : Int) - (rgb &&& 0xff).toNat|

/-- The fallback search over at most 32 entries, left once a match is close. -/
def searchColors (mapper : FastAdaptiveColorMapper) (red green blue : UInt8) : Nat :=
  (((List.range (min 32 mapper.nextColorNum)).drop 1).foldl
    (fun (best : Nat × Int) color =>
      if best.2 > 256 ∧
          channelDifference red green blue (mapper.palette.getD color 0) < best.2 then
        (color, channelDifference red green blue (mapper.palette.getD color 0))
      else best)
    (1, intMax)).1

def getColorNumberReadOnly (mapper : FastAdaptiveColorMapper) (red green blue : UInt8) : Nat :=
  match mapper.rgbToColorNum.find? (packRgb red green blue) with
  | some colorNumber => colorNumber
  | none =>
      if mapper.quantizedLookup (quantizedIndex red green blue) ≠ -1 then
        (mapper.quantizedLookup (quantizedIndex red green blue)).toNat
      else mapper.searchColors red green blue

end FastAdaptiveColorMapper

/-! ### The fixed table -/

structure FastColorMapper where
  colorNumToRgb : List UInt32
  rgbLookup32 : Nat → Nat
  colorUsed : Nat → Bool := fun _ => false
  usedColorCount : Nat := 0
  two_le : 2 ≤ colorNumToRgb.length
  le_256 : colorNumToRgb.length ≤ 256
  lookup_pos : ∀ index, 1 ≤ rgbLookup32 index
  lookup_lt : ∀ index, rgbLookup32 index < colorNumToRgb.length

namespace FastColorMapper

def nextColorNum (mapper : FastColorMapper) : Nat := mapper.colorNumToRgb.length

/-- The byte table beside the 32-bit one. -/
def rgbLookup (mapper : FastColorMapper) (index : Nat) : UInt8 :=
  UInt8.ofNat (mapper.rgbLookup32 index)

theorem toNat_rgbLookup (mapper : FastColorMapper) (index : Nat) :
    (mapper.rgbLookup index).toNat = mapper.rgbLookup32 index := by
  rw [rgbLookup, UInt8.toNat_ofNat']
  exact Nat.mod_eq_of_lt ((mapper.lookup_lt index).trans_le mapper.le_256)

/-- `(lr * 32 + lg) * 32 + lb` for the three channels cut to 32 levels. -/
def lookupIndex (channels : PixelChannels) : Nat :=
  ((channels.red.toNat * 31 + 127) / 255 * 32 + (channels.green.toNat * 31 + 127) / 255) * 32 +
    (channels.blue.toNat * 31 + 127) / 255

def appendColor (maxColors : Nat) (colors : List UInt32) (rgb : UInt32) : List UInt32 :=
  if rgb ∉ colors.drop 1 ∧ colors.length < maxColors then colors ++ [rgb] else colors

def grayscale : List UInt32 :=
  (List.range 24).map fun level =>
    let value := UInt8.ofNat ((level * 255 + 11) / 23)
    packRgb value value value

def saturations : List Rat := [22 / 100, 55 / 100, 1]

def lightnesses : List Rat := [18 / 100, 35 / 100, 50 / 100, 70 / 100, 85 / 100]

def hueColors (host : Host) : List UInt32 :=
  (List.range 12).flatMap fun step =>
    saturations.flatMap fun saturation =>
      lightnesses.map fun lightness => host.hslColor (step * 30) saturation lightness

def fixedColors (host : Host) (maxColors : Nat) : List UInt32 :=
  (grayscale ++ hueColors host).foldl (appendColor maxColors) [0]

/-- The colour at the centre of one cell of the 32-level cube. -/
def cellColor (index : Nat) : UInt32 :=
  let channel (level : Nat) := UInt8.ofNat ((level * 255 + 15) / 31)
  packRgb (channel (index / 1024)) (channel (index / 32 % 32)) (channel (index % 32))

theorem length_appendColor (maxColors : Nat) (colors : List UInt32) (rgb : UInt32) :
    colors.length ≤ (appendColor maxColors colors rgb).length ∧
      (appendColor maxColors colors rgb).length ≤ max maxColors colors.length := by
  unfold appendColor
  split_ifs with added
  · have room := added.2
    simp only [List.length_append, List.length_singleton]
    omega
  · omega

theorem length_foldl_appendColor (maxColors : Nat) (added colors : List UInt32) :
    colors.length ≤ (added.foldl (appendColor maxColors) colors).length ∧
      (added.foldl (appendColor maxColors) colors).length ≤ max maxColors colors.length := by
  induction added generalizing colors with
  | nil => simp
  | cons rgb added inductionHypothesis =>
      have first := length_appendColor maxColors colors rgb
      have rest := inductionHypothesis (appendColor maxColors colors rgb)
      rw [List.foldl_cons]
      omega

theorem two_le_fixedColors (host : Host) {maxColors : Nat} (room : 2 ≤ maxColors) :
    2 ≤ (fixedColors host maxColors).length := by
  have blackFirst : grayscale = 0 :: grayscale.tail := by decide
  have split : grayscale ++ hueColors host = 0 :: (grayscale.tail ++ hueColors host) := by
    conv_lhs => rw [blackFirst]
    rfl
  have black : appendColor maxColors [0] 0 = [0, 0] := by
    simp only [appendColor, List.drop_one, List.tail_cons, List.not_mem_nil, not_false_eq_true,
      List.length_singleton, true_and]
    rw [if_pos (by omega)]
    rfl
  rw [fixedColors, split, List.foldl_cons, black]
  exact (length_foldl_appendColor maxColors _ [0, 0]).1

/-- Built for at least 2 and at most 256 colours, as the encoder clamps them. -/
def build (host : Host) (maxColors : Nat) (room : 2 ≤ maxColors) (bound : maxColors ≤ 256) :
    FastColorMapper :=
  let colors := fixedColors host maxColors
  { colorNumToRgb := colors
    rgbLookup32 := fun index => nearestColor (host.fixedDistance (cellColor index)) colors
    two_le := two_le_fixedColors host room
    le_256 := by
      have length := (length_foldl_appendColor maxColors (grayscale ++ hueColors host) [0]).2
      simp only [colors, fixedColors]
      simp only [List.length_singleton] at length
      omega
    lookup_pos := fun _ => (nearestColor_bounds _ (two_le_fixedColors host room)).1
    lookup_lt := fun _ => (nearestColor_bounds _ (two_le_fixedColors host room)).2 }

def reset (mapper : FastColorMapper) : FastColorMapper :=
  { mapper with colorUsed := fun _ => false, usedColorCount := 0 }

def markUsed (mapper : FastColorMapper) (color : Nat) : FastColorMapper :=
  if mapper.colorUsed color then mapper
  else
    { mapper with
      colorUsed := Function.update mapper.colorUsed color true
      usedColorCount := mapper.usedColorCount + 1 }

/-- Marking the colours of some pixels changes the marks alone. -/
theorem foldl_markUsed (mapper : FastColorMapper) (pixels : List UInt8) :
    (pixels.foldl (fun mapper color => mapper.markUsed color.toNat) mapper).colorNumToRgb =
        mapper.colorNumToRgb ∧
      (pixels.foldl (fun mapper color => mapper.markUsed color.toNat) mapper).rgbLookup32 =
        mapper.rgbLookup32 ∧
      ∀ register,
        (pixels.foldl (fun mapper color => mapper.markUsed color.toNat) mapper).colorUsed register =
            true ↔
          mapper.colorUsed register = true ∨ ∃ color ∈ pixels, color.toNat = register := by
  induction pixels generalizing mapper with
  | nil => simp
  | cons color pixels inductionHypothesis =>
      obtain ⟨table, lookup, used⟩ := inductionHypothesis (mapper.markUsed color.toNat)
      rw [List.foldl_cons]
      have marked : ∀ register, (mapper.markUsed color.toNat).colorUsed register = true ↔
          mapper.colorUsed register = true ∨ color.toNat = register := by
        intro register
        unfold markUsed
        split_ifs with already
        · constructor
          · exact Or.inl
          · rintro (known | rfl)
            · exact known
            · exact already
        · by_cases here : register = color.toNat
          · simp [here]
          · simp [Function.update_of_ne here, Ne.symm here]
      refine ⟨table.trans ?_, lookup.trans ?_, ?_⟩
      · unfold markUsed
        split_ifs <;> rfl
      · unfold markUsed
        split_ifs <;> rfl
      · intro register
        rw [used, marked]
        simp only [List.mem_cons, exists_eq_or_imp, or_assoc]

end FastColorMapper

end Rasterm
