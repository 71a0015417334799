import Rasterm.Encoder.Host
import Rasterm.Frame.View
import Mathlib.Tactic.Ring

/-!
Contract: `DamageTracker`: comparing a frame with the copy of the one before, tile
by tile.

Owns the copy, the shape test that makes it comparable, and the two row comparisons,
which agree.
Does not own what the scan and the merge find: that is `Rasterm.Damage.Tiles`.
-/

set_option autoImplicit false

namespace Rasterm

open Rows

structure DamageOptions where
  tileWidth : Int := 40
  tileHeight : Int := 20
  fullFrameThreshold : Rat := 9 / 20
deriving Repr

structure DamageResult where
  isFullFrame : Bool := true
  hasChanges : Bool := true
  regions : List DamageRegion := []

structure DamageTracker where
  options : DamageOptions
  previousFrame : List UInt8 := []
  previousPalette : List RgbColor := []
  previousWidth : Int := 0
  previousHeight : Int := 0
  previousBytesPerPixel : Nat := 0
  previousFormatTag : Int := -1

/-! ### Comparing bytes -/

def memcmpEqual (current previous : Memory) (bytes : Nat) : Bool :=
  (List.range bytes).all fun index => current index == previous index

/-- Blocks of 16 bytes where the processor has them, then the rest. -/
def rowsEqual (host : Host) (current previous : Memory) (bytes : Nat) : Bool :=
  if host.hasSse2 then
    let blocks := bytes / 16
    ((List.range blocks).all fun block =>
      memcmpEqual (current.advance (16 * block)) (previous.advance (16 * block)) 16) &&
    (16 * blocks == bytes ||
      memcmpEqual (current.advance (16 * blocks)) (previous.advance (16 * blocks))
        (bytes - 16 * blocks))
  else memcmpEqual current previous bytes

theorem memcmpEqual_iff {current previous : Memory} {bytes : Nat} :
    memcmpEqual current previous bytes = true ↔
      ∀ index < bytes, current index = previous index := by
  simp [memcmpEqual, List.all_eq_true]

theorem rowsEqual_iff (host : Host) {current previous : Memory} {bytes : Nat} :
    rowsEqual host current previous bytes = true ↔
      ∀ index < bytes, current index = previous index := by
  unfold rowsEqual
  cases host.hasSse2 with
  | false => exact memcmpEqual_iff
  | true =>
      simp only [if_true, Bool.and_eq_true, Bool.or_eq_true, beq_iff_eq, List.all_eq_true,
        List.mem_range, memcmpEqual_iff, Memory.advance]
      constructor
      · intro blocks index inside
        by_cases whole : index / 16 < bytes / 16
        · have same := blocks.1 (index / 16) whole (index % 16) (Nat.mod_lt _ (by decide))
          rwa [Nat.div_add_mod] at same
        · rcases blocks.2 with all | rest
          · omega
          · have same := rest (index - 16 * (bytes / 16)) (by omega)
            rwa [Nat.add_sub_cancel' (by omega)] at same
      · intro same
        refine ⟨?_, Or.inr ?_⟩
        · intro block _ index _
          exact same _ (by omega)
        · intro index _
          exact same _ (by omega)

/-! ### Tiles -/

/-- The rectangles found so far, the strip being extended, and the changed area. -/
structure TileScan where
  regions : List DamageRegion := []
  active : DamageRegion := {}
  changedPixels : Nat := 0

/-- A finished strip is kept. -/
def TileScan.close (scan : TileScan) : TileScan :=
  if scan.active.isValid then
    { scan with regions := scan.regions ++ [scan.active], active := {} }
  else scan

/-- The strip being extended, if there is one. -/
def TileScan.openStrip (scan : TileScan) : List DamageRegion :=
  if scan.active.isValid then [scan.active] else []

theorem TileScan.close_spec (scan : TileScan) :
    scan.close.regions = scan.regions ++ scan.openStrip ∧ scan.close.active.isValid = false ∧
      scan.close.changedPixels = scan.changedPixels := by
  simp only [TileScan.close, TileScan.openStrip]
  by_cases valid : scan.active.isValid = true
  · simp only [if_pos valid]
    exact ⟨trivial, rfl, trivial⟩
  · simp only [if_neg valid, List.append_nil, true_and, and_true]
    simpa using valid

namespace DamageTracker

/-- The constructor. -/
def create (options : DamageOptions) : DamageTracker where
  options :=
    { tileWidth := max 1 options.tileWidth
      tileHeight := max 1 options.tileHeight
      fullFrameThreshold := max 0 (min 1 options.fullFrameThreshold) }

def hasSameShape (tracker : DamageTracker) (frame : Frame) : Bool :=
  frame.width == tracker.previousWidth && frame.height == tracker.previousHeight &&
    frame.bytesPerPixel == tracker.previousBytesPerPixel &&
    frame.formatTag == tracker.previousFormatTag &&
    tracker.previousFrame.length == frame.width.toNat * frame.height.toNat * frame.bytesPerPixel &&
    tracker.previousPalette == frame.paletteEntries

/-- The rows of a frame without their padding. -/
def copyFrame (tracker : DamageTracker) (frame : Frame) : DamageTracker :=
  { tracker with
    previousFrame := packRows frame.bytes frame.stride.toNat
      (frame.width.toNat * frame.bytesPerPixel) frame.height.toNat
    previousPalette := frame.paletteEntries
    previousWidth := frame.width
    previousHeight := frame.height
    previousBytesPerPixel := frame.bytesPerPixel
    previousFormatTag := frame.formatTag }

def reset (tracker : DamageTracker) : DamageTracker :=
  { tracker with
    previousFrame := []
    previousPalette := []
    previousWidth := 0
    previousHeight := 0
    previousBytesPerPixel := 0
    previousFormatTag := -1 }

/-- Some row of the tile differs from the copy. -/
def tileChanged (host : Host) (tracker : DamageTracker) (frame : Frame)
    (x y tileWidth tileHeight : Nat) : Bool :=
  (List.range tileHeight).any fun row =>
    let current := frame.bytes.advance ((y + row) * frame.stride.toNat + x * frame.bytesPerPixel)
    let previous := Memory.advance (fun offset => tracker.previousFrame.getD offset 0)
      (((y + row) * frame.width.toNat + x) * frame.bytesPerPixel)
    !rowsEqual host current previous (tileWidth * frame.bytesPerPixel)

/-- The body of the loop over the tiles of one row of tiles. -/
def scanTile (host : Host) (tracker : DamageTracker) (frame : Frame) (tileY : Nat)
    (scan : TileScan) (tileX : Nat) : TileScan :=
  let y := tileY * tracker.options.tileHeight.toNat
  let tileHeight := min tracker.options.tileHeight.toNat (frame.height.toNat - y)
  let x := tileX * tracker.options.tileWidth.toNat
  let tileWidth := min tracker.options.tileWidth.toNat (frame.width.toNat - x)
  if !tracker.tileChanged host frame x y tileWidth tileHeight then scan.close
  else
    { scan with
      changedPixels := scan.changedPixels + tileWidth * tileHeight
      active :=
        if scan.active.isValid then { scan.active with width := scan.active.width + tileWidth }
        else ⟨x, y, tileWidth, tileHeight⟩ }

def tilesX (tracker : DamageTracker) (frame : Frame) : Nat :=
  (frame.width.toNat - 1) / tracker.options.tileWidth.toNat + 1

def tilesY (tracker : DamageTracker) (frame : Frame) : Nat :=
  (frame.height.toNat - 1) / tracker.options.tileHeight.toNat + 1

def scanRow (host : Host) (tracker : DamageTracker) (frame : Frame) (scan : TileScan)
    (tileY : Nat) : TileScan :=
  ((List.range (tracker.tilesX frame)).foldl (tracker.scanTile host frame tileY)
    { scan with active := {} }).close

def scanTiles (host : Host) (tracker : DamageTracker) (frame : Frame) : TileScan :=
  (List.range (tracker.tilesY frame)).foldl (tracker.scanRow host frame) {}

/-- The inner loop of the merge: strips below with the same columns are absorbed. -/
def absorbStrips (top : DamageRegion) : List DamageRegion → DamageRegion × List DamageRegion
  | [] => (top, [])
  | next :: others =>
      if top.x = next.x ∧ top.width = next.width ∧ top.y + top.height = next.y then
        absorbStrips { top with height := top.height + next.height } others
      else
        let absorbed := absorbStrips top others
        (absorbed.1, next :: absorbed.2)

/-- The outer loop; it visits no more strips than there were. -/
def mergeStrips : Nat → List DamageRegion → List DamageRegion
  | 0, regions => regions
  | _, [] => []
  | rounds + 1, top :: others =>
      let absorbed := absorbStrips top others
      absorbed.1 :: mergeStrips rounds absorbed.2

def compareAndUpdate (host : Host) (tracker : DamageTracker) (frame : Frame) :
    DamageTracker × DamageResult :=
  if !frame.isValid then (tracker, { isFullFrame := false, hasChanges := false })
  else if !tracker.hasSameShape frame then (tracker.copyFrame frame, {})
  else
    let scan := tracker.scanTiles host frame
    let updated := tracker.copyFrame frame
    if scan.regions.isEmpty then (updated, { isFullFrame := false, hasChanges := false })
    else if host.changedRatioReaches scan.changedPixels (frame.width.toNat * frame.height.toNat)
        tracker.options.fullFrameThreshold then
      (updated, {})
    else
      (updated,
        { isFullFrame := false
          regions := mergeStrips scan.regions.length scan.regions })

@[simp] theorem options_compareAndUpdate (host : Host) (tracker : DamageTracker) (frame : Frame) :
    (tracker.compareAndUpdate host frame).1.options = tracker.options := by
  simp only [compareAndUpdate]
  split_ifs <;> rfl

end DamageTracker

end Rasterm
