import Rasterm.Encoder.Regional
import Rasterm.Library.Ranking

/-!
Contract: which colours the adaptive palette of a view holds, and which of them a colour is
shown as.

Owns that the palette is the list of the most frequent sampled colours, that each of these keeps
its own register, and that any other colour gets the palette colour nearest to its corner of the
6-level cube.

Does not own which view the palette of an encoder was built from.
-/

set_option autoImplicit false

namespace Rasterm

open Ranking

/-! ### Sampled colours -/

namespace FastColorAnalyzer

/-- The colours `analyzeFrameFast` counts. -/
def sampledColors (view : FrameView) : List UInt32 :=
  (samples view).map fun channels => packRgb channels.red channels.green channels.blue

/-- Sampled more often, or as often and the larger number. -/
def Precedes (view : FrameView) (left right : UInt32) : Prop :=
  moreFrequent ((sampledColors view).count left, left) ((sampledColors view).count right, right)

instance (view : FrameView) : DecidableRel (Precedes view) := fun left right => by
  unfold Precedes
  infer_instance

instance (view : FrameView) : Std.Total (Precedes view) where
  total left right := @Std.Total.total _ moreFrequent _
    ((sampledColors view).count left, left) ((sampledColors view).count right, right)

instance (view : FrameView) : IsTrans UInt32 (Precedes view) where
  trans _ _ _ first second := @IsTrans.trans _ moreFrequent _ _ _ _ first second

/-- The most frequent colours, in order. -/
def frequent (view : FrameView) (limit : Nat) : List UInt32 :=
  ((sampledColors view).dedup.insertionSort (Precedes view)).take limit

theorem best_frequent (view : FrameView) (limit : Nat) :
    Best (Precedes view) limit (sampledColors view).dedup (frequent view limit) :=
  best_take_insertionSort (List.nodup_dedup _) limit

theorem colorFreq_foldl_sample (colors : List PixelChannels) (analyzer : FastColorAnalyzer) :
    (colors.foldl sample analyzer).colorFreq = colors.foldl
      (fun map channels => map.alter (packRgb channels.red channels.green channels.blue) 0 (· + 1))
      analyzer.colorFreq := by
  induction colors generalizing analyzer with
  | nil => rfl
  | cons color colors inductionHypothesis => exact inductionHypothesis (analyzer.sample color)

/-- Every sampled colour is counted. -/
theorem counts_analyzeFrameFast (analyzer : FastColorAnalyzer) (view : FrameView) :
    Counts (analyzer.analyzeFrameFast view).colorFreq (sampledColors view) := by
  let count : UnorderedMap UInt32 Nat → PixelChannels → UnorderedMap UInt32 Nat :=
    fun map channels => map.alter (packRgb channels.red channels.green channels.blue) 0 (· + 1)
  have counted := @counts_foldl UInt32 _ PixelChannels
    (fun channels => packRgb channels.red channels.green channels.blue) count (fun _ _ => rfl)
    (samples view) analyzer.colorFreq
  rw [analyzeFrameFast, colorFreq_foldl_sample, sampledColors]
  exact counted

/-- `getMostFrequentColors`, whatever order the map iterates in. -/
theorem getMostFrequentColors_eq (host : Host) (analyzer : FastColorAnalyzer) (view : FrameView)
    (limit : Nat) :
    (analyzer.analyzeFrameFast view).getMostFrequentColors host limit = frequent view limit := by
  let pairOf : UInt32 → Nat × UInt32 := fun color => ((sampledColors view).count color, color)
  have counts := counts_analyzeFrameFast analyzer view
  have arrangement :
      ((host.iterate (analyzer.analyzeFrameFast view).colorFreq.touched
          (analyzer.analyzeFrameFast view).colorFreq.entries).map
        fun entry => (entry.2, entry.1)).Perm ((sampledColors view).dedup.map pairOf) := by
    have entries := ((host.iterate_perm (analyzer.analyzeFrameFast view).colorFreq.touched
      (analyzer.analyzeFrameFast view).colorFreq.entries).trans counts.entries_perm).map
      fun entry : UInt32 × Nat => (entry.2, entry.1)
    rw [List.map_map] at entries
    exact entries
  have sorted := @insertionSort_eq_of_perm (Nat × UInt32) moreFrequent _ _ _ _ _ _ arrangement
  have pairs := List.map_insertionSort (Precedes view) moreFrequent pairOf
    (sampledColors view).dedup fun _ _ _ _ => Iff.rfl
  rw [getMostFrequentColors]
  simp only [sorted, ← pairs]
  rw [frequent, ← List.map_take, List.map_map]
  exact List.map_id _

theorem frequent_ne_nil {view : FrameView} (width : 0 < view.width) (height : 0 < view.height)
    {limit : Nat} (room : 1 ≤ limit) : frequent view limit ≠ [] := by
  rw [← getMostFrequentColors_eq Host.plain {} view limit]
  exact getMostFrequentColors_ne_nil Host.plain
    (analyzeFrameFast_entries_ne_nil {} width height) room

end FastColorAnalyzer

/-! ### The nearest palette colour -/

/-- What a palette makes of a colour: one of its own it shows as it is, for any other it takes
the first of those at the least distance. Distances from the largest double on are not told
apart. -/
structure Approximates (distance : UInt32 → Rat) (palette : List UInt32) (color shown : UInt32) :
    Prop where
  exact : color ∈ palette → shown = color
  nearest : color ∉ palette → ∃ before after, palette = before ++ shown :: after ∧
    (∀ other ∈ before, distance other < doubleMax → distance shown < distance other) ∧
    ∀ other ∈ after, distance other < doubleMax → distance shown ≤ distance other

/-- The search loop of both tables. -/
theorem nearestColor_spec (distance : UInt32 → Rat) {colors : List UInt32}
    (nonempty : colors ≠ []) :
    ∃ before after,
      colors = before ++ (0 :: colors).getD (nearestColor distance (0 :: colors)) 0 :: after ∧
      (∀ other ∈ before, distance other < doubleMax →
        distance ((0 :: colors).getD (nearestColor distance (0 :: colors)) 0) < distance other) ∧
      ∀ other ∈ after, distance other < doubleMax →
        distance ((0 :: colors).getD (nearestColor distance (0 :: colors)) 0) ≤ distance other := by
  let entry : Nat → UInt32 := fun index => (0 :: colors).getD index 0
  have indices : (List.range (0 :: colors).length).drop 1 =
      (List.range colors.length).map (· + 1) := by
    rw [List.length_cons, List.range_succ_eq_map, List.drop_one, List.tail_cons]
  have entries : ((List.range colors.length).map (· + 1)).map entry = colors := by
    rw [List.map_map]
    apply List.ext_getElem
    · simp
    · intro index first second
      rw [List.getElem_map, List.getElem_range]
      exact List.getD_eq_getElem colors 0 second
  have found : nearestColor distance (0 :: colors) =
      (((List.range colors.length).map (· + 1)).foldl
        (keepLeast fun index => distance (entry index)) (1, doubleMax)).1 := by
    rw [← indices]
    rfl
  rcases foldl_keepLeast (fun index => distance (entry index))
    ((List.range colors.length).map (· + 1)) (1, doubleMax) with ⟨stays, above⟩ |
      ⟨before, index, after, split, ends, -, earlier, later⟩
  · -- all distances are out of range, and the search stays at register 1
    rw [stays] at found
    obtain ⟨first, rest, rfl⟩ := List.exists_cons_of_ne_nil nonempty
    refine ⟨[], rest, by rw [found]; rfl, fun _ member => absurd member List.not_mem_nil, ?_⟩
    intro other member small
    obtain ⟨place, placed, rfl⟩ : ∃ place ∈ (List.range (first :: rest).length).map (· + 1),
        entry place = other := by
      have all : other ∈ first :: rest := List.mem_cons_of_mem _ member
      rw [← entries] at all
      exact List.mem_map.mp all
    exact absurd small (not_lt.mpr (above place placed))
  · rw [ends] at found
    refine ⟨before.map entry, after.map entry, ?_, ?_, ?_⟩
    · conv_lhs => rw [← entries, split, List.map_append, List.map_cons]
      rw [found]
    · intro other member _
      obtain ⟨place, placed, rfl⟩ := List.mem_map.mp member
      rw [found]
      exact earlier place placed
    · intro other member _
      obtain ⟨place, placed, rfl⟩ := List.mem_map.mp member
      rw [found]
      exact later place placed

/-! ### The mapper -/

namespace FastAdaptiveColorMapper

/-- With room, a colour is added at the end. -/
theorem addFrequentColor_of_room {mapper : FastAdaptiveColorMapper} {color : UInt32}
    (room : mapper.nextColorNum < mapper.maxColors) :
    (mapper.addFrequentColor color).palette = mapper.palette ++ [color] ∧
      (mapper.addFrequentColor color).nextColorNum = mapper.nextColorNum + 1 ∧
      (mapper.addFrequentColor color).maxColors = mapper.maxColors ∧
      (mapper.addFrequentColor color).rgbToColorNum =
        mapper.rgbToColorNum.insert color mapper.nextColorNum := by
  rw [addFrequentColor, if_neg (Nat.not_le_of_lt room)]
  exact ⟨rfl, List.length_append, rfl, rfl⟩

/-- Colours added one by one, as long as there is room for all. -/
theorem palette_foldl_addFrequentColor (colors : List UInt32) {mapper : FastAdaptiveColorMapper}
    (room : mapper.nextColorNum + colors.length ≤ mapper.maxColors) :
    (colors.foldl addFrequentColor mapper).palette = mapper.palette ++ colors := by
  induction colors generalizing mapper with
  | nil => exact (List.append_nil _).symm
  | cons color colors inductionHypothesis =>
      rw [List.length_cons] at room
      obtain ⟨added, next, sameMax, -⟩ := @addFrequentColor_of_room mapper color (by omega)
      rw [List.foldl_cons, inductionHypothesis (by rw [next, sameMax]; omega), added,
        List.append_assoc, List.singleton_append]

/-- The register a colour was added with is found again. -/
theorem find?_foldl_addFrequentColor (colors : List UInt32) (distinct : colors.Nodup)
    {mapper : FastAdaptiveColorMapper}
    (room : mapper.nextColorNum + colors.length ≤ mapper.maxColors) (color : UInt32) :
    (colors.foldl addFrequentColor mapper).rgbToColorNum.find? color =
      if color ∈ colors then some (mapper.nextColorNum + colors.idxOf color)
      else mapper.rgbToColorNum.find? color := by
  induction colors generalizing mapper with
  | nil => rfl
  | cons first colors inductionHypothesis =>
      rw [List.length_cons] at room
      obtain ⟨-, next, sameMax, inserted⟩ := @addFrequentColor_of_room mapper first (by omega)
      obtain ⟨fresh, distinctRest⟩ := List.nodup_cons.mp distinct
      rw [List.foldl_cons, inductionHypothesis distinctRest (by rw [next, sameMax]; omega), next,
        inserted, UnorderedMap.find?_insert]
      by_cases same : color = first
      · subst same
        rw [if_neg fresh, if_pos rfl, if_pos List.mem_cons_self, List.idxOf_cons_self, Nat.add_zero]
      · rw [if_neg same]
        by_cases member : color ∈ colors
        · rw [if_pos member, if_pos (List.mem_cons_of_mem _ member),
            List.idxOf_cons_ne _ (Ne.symm same)]
          congr 1
          omega
        · rw [if_neg member, if_neg (by simp [same, member])]

end FastAdaptiveColorMapper

namespace LogicalFrame

open FastColorAnalyzer FastAdaptiveColorMapper

/-- The colours an adaptive palette with the given number of registers holds. -/
def paletteColors (slots : Nat) (view : FrameView) : List UInt32 :=
  frequent view (min 128 (slots - 1))

variable {host : Host} {slots : Nat} {view : FrameView}

/-- The mapper before the search for nearest colours. -/
private theorem filled_paletteOf (host : Host) (slots : Nat) (view : FrameView) :
    ((({} : FastColorAnalyzer).analyzeFrameFast view).getMostFrequentColors host
        (min 128 (slots - 1))).foldl addFrequentColor { maxColors := slots } =
      (paletteColors slots view).foldl addFrequentColor { maxColors := slots } := by
  rw [getMostFrequentColors_eq, paletteColors]

private theorem room_paletteColors (room : 2 ≤ slots) :
    ({ maxColors := slots } : FastAdaptiveColorMapper).nextColorNum +
      (paletteColors slots view).length ≤ slots := by
  have size := (best_frequent view (min 128 (slots - 1))).length_eq
  have one : ({ maxColors := slots } : FastAdaptiveColorMapper).nextColorNum = 1 := rfl
  rw [one, paletteColors, size]
  omega

/-- The register table: black, then the most frequent colours. -/
theorem palette_paletteOf (host : Host) (room : 2 ≤ slots) (view : FrameView) :
    (paletteOf host slots view).palette = 0 :: paletteColors slots view := by
  have filled := @palette_foldl_addFrequentColor (paletteColors slots view)
    { maxColors := slots } (room_paletteColors room)
  rw [← filled_paletteOf host] at filled
  exact filled

/-- A colour is shown as the colour of the register it is given. -/
theorem approximates_paletteOf (host : Host) (room : 2 ≤ slots) (width : 0 < view.width)
    (height : 0 < view.height) (channels : PixelChannels) :
    Approximates
      (host.adaptiveDistance
        (slotColor (quantizedIndex channels.red channels.green channels.blue)))
      (paletteColors slots view) (packRgb channels.red channels.green channels.blue)
      ((0 :: paletteColors slots view).getD
        ((paletteOf host slots view).getColorNumberReadOnly channels.red channels.green
          channels.blue) 0) := by
  have distinct : (paletteColors slots view).Nodup := (best_frequent view _).nodup
  have cached : (paletteOf host slots view).rgbToColorNum.find?
      (packRgb channels.red channels.green channels.blue) =
      if packRgb channels.red channels.green channels.blue ∈ paletteColors slots view then
        some (1 + (paletteColors slots view).idxOf
          (packRgb channels.red channels.green channels.blue))
      else none := by
    have found := @find?_foldl_addFrequentColor (paletteColors slots view) distinct
      { maxColors := slots } (room_paletteColors room)
      (packRgb channels.red channels.green channels.blue)
    rw [← filled_paletteOf host] at found
    exact found
  constructor
  · intro member
    rw [if_pos member] at cached
    rw [getColorNumberReadOnly, cached]
    dsimp only
    rw [Nat.add_comm, List.getD_cons_succ,
      List.getD_eq_getElem _ _ (List.idxOf_lt_length_of_mem member)]
    exact List.getElem_idxOf _
  · intro absent
    have nonempty : paletteColors slots view ≠ [] :=
      frequent_ne_nil width height (by omega)
    have looked : (paletteOf host slots view).quantizedLookup
        (quantizedIndex channels.red channels.green channels.blue) =
        nearestColor (host.adaptiveDistance
          (slotColor (quantizedIndex channels.red channels.green channels.blue)))
          (0 :: paletteColors slots view) := by
      rw [← palette_paletteOf host room view]
      exact if_pos (quantizedIndex_lt _ _ _)
    rw [if_neg absent] at cached
    rw [getColorNumberReadOnly, cached]
    dsimp only
    rw [looked, if_pos (by omega), Int.toNat_natCast]
    exact nearestColor_spec _ nonempty

end LogicalFrame

end Rasterm
