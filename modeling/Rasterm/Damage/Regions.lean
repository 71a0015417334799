import Rasterm.Encoder.Host

/-!
Contract: the rectangles of a damaged frame: growing them to terminal cells,
merging them, and deciding between a full frame and a list of patches.

Owns the law every operation obeys: rectangles stay inside the frame and on cell
boundaries, and no covered pixel is lost.
-/

set_option autoImplicit false

namespace Rasterm

/-! ### Operations -/

def alignToTerminalCells (region : DamageRegion) (frameWidth frameHeight : Int)
    (cells : TerminalCellPixels) : DamageRegion :=
  let x := region.x / cells.cellWidth * cells.cellWidth
  let y := region.y / cells.cellHeight * cells.cellHeight
  let right := region.x + region.width
  let bottom := region.y + region.height
  let alignedRight := (right + cells.cellWidth - 1) / cells.cellWidth * cells.cellWidth
  let alignedBottom := (bottom + cells.cellHeight - 1) / cells.cellHeight * cells.cellHeight
  let clippedRight := min frameWidth alignedRight
  let clippedBottom := min frameHeight alignedBottom
  ⟨x, y, clippedRight - x, clippedBottom - y⟩

def DamageRect.area (region : DamageRegion) : Int := region.width * region.height

/-- The smallest rectangle around two. -/
def DamageRect.bounding (left right : DamageRegion) : DamageRegion :=
  let x1 := min left.x right.x
  let y1 := min left.y right.y
  let x2 := max (left.x + left.width) (right.x + right.width)
  let y2 := max (left.y + left.height) (right.y + right.height)
  ⟨x1, y1, x2 - x1, y2 - y1⟩

/-- Two rectangles become one when their bounds hold nothing else. -/
def mergeWithoutInflation (left right : DamageRegion) : Option DamageRegion :=
  let overlapWidth := max 0
    (min (left.x + left.width) (right.x + right.width) - max left.x right.x)
  let overlapHeight := max 0
    (min (left.y + left.height) (right.y + right.height) - max left.y right.y)
  let unionArea := left.area + right.area - overlapWidth * overlapHeight
  let bounds := left.bounding right
  if bounds.area ≠ unionArea then none else some bounds

/-- Merge a rectangle with the first of a list that it can be merged with, which is erased. -/
def mergeInto (left : DamageRegion) : List DamageRegion → Option (DamageRegion × List DamageRegion)
  | [] => none
  | right :: others =>
      match mergeWithoutInflation left right with
      | some bounds => some (bounds, others)
      | none => (mergeInto left others).map fun merged => (merged.1, right :: merged.2)

/-- One round of `normalizeDamage`: the first pair that can be merged. -/
def mergeFirst : List DamageRegion → Option (List DamageRegion)
  | [] => none
  | first :: others =>
      match mergeInto first others with
      | some (bounds, rest) => some (bounds :: rest)
      | none => (mergeFirst others).map (first :: ·)

/-- The `while (merged)` loop; every round has one rectangle less. -/
def mergeAll : Nat → List DamageRegion → List DamageRegion
  | 0, regions => regions
  | rounds + 1, regions =>
      match mergeFirst regions with
      | some merged => mergeAll rounds merged
      | none => regions

def normalizeDamage (host : Host) (regions : List DamageRegion) : List DamageRegion :=
  host.sortRegions (mergeAll regions.length regions)

def canPresentWithoutBottomScroll (regions : List DamageRegion) (frameHeight : Int) : Bool :=
  regions.all fun region => region.y + region.height ≠ frameHeight

/-- The extra area worth painting to save separate patches. -/
def boundsAllowance (cells : TerminalCellPixels) (patches : Nat) (changedArea : Int) : Int :=
  let cursorAndFrameCost := cells.cellWidth * cells.cellHeight * 2 * (patches - 1)
  let proportionalAllowance := changedArea / (if patches ≥ 8 then 4 else 8)
  max cursorAndFrameCost proportionalAllowance

/-- The patches to present, and whether the whole frame is presented instead. -/
def planDamagePresentation (host : Host) (regions : List DamageRegion)
    (frameWidth frameHeight : Int) (cells : TerminalCellPixels) (fullFrameThreshold : Rat) :
    List DamageRegion × Bool :=
  if regions.isEmpty then (regions, false)
  else
    let normalized := normalizeDamage host regions
    let changedArea := (normalized.map DamageRect.area).sum
    let bounds := normalized.foldl DamageRect.bounding (normalized.headD {})
    let frameArea := frameWidth * frameHeight
    if host.areaReaches changedArea frameArea fullFrameThreshold then (normalized, true)
    else if normalized.length = 1 then (normalized, false)
    else if bounds.area ≤ changedArea + boundsAllowance cells normalized.length changedArea then
      ([bounds], host.areaReaches bounds.area frameArea fullFrameThreshold)
    else (normalized, false)

/-! ### Rectangles on cell boundaries -/

/-- A cell has a positive size. -/
def TerminalCellPixels.Positive (cells : TerminalCellPixels) : Prop :=
  0 < cells.cellWidth ∧ 0 < cells.cellHeight

/-- Inside the frame, with the upper left corner on a cell boundary. -/
structure DamageRect.Placed (region : DamageRegion) (cells : TerminalCellPixels)
    (frameWidth frameHeight : Int) : Prop where
  inside : region.Inside frameWidth frameHeight
  column : cells.cellWidth ∣ region.x
  row : cells.cellHeight ∣ region.y

variable {cells : TerminalCellPixels} {frameWidth frameHeight : Int}

/-- Growing a rectangle to cells loses none of its pixels. -/
theorem placed_alignToTerminalCells (positive : cells.Positive) {region : DamageRegion}
    (inside : region.Inside frameWidth frameHeight) :
    (alignToTerminalCells region frameWidth frameHeight cells).Placed cells frameWidth
        frameHeight ∧
      ∀ x y, region.Contains x y →
        (alignToTerminalCells region frameWidth frameHeight cells).Contains x y := by
  obtain ⟨cellWidth, cellHeight⟩ := positive
  obtain ⟨xNonneg, yNonneg, widthPos, heightPos, rightLe, bottomLe⟩ := inside
  have left := Int.ediv_mul_le region.x (ne_of_gt cellWidth)
  have top := Int.ediv_mul_le region.y (ne_of_gt cellHeight)
  have leftNonneg : 0 ≤ region.x / cells.cellWidth * cells.cellWidth :=
    Int.mul_nonneg (Int.ediv_nonneg xNonneg cellWidth.le) cellWidth.le
  have topNonneg : 0 ≤ region.y / cells.cellHeight * cells.cellHeight :=
    Int.mul_nonneg (Int.ediv_nonneg yNonneg cellHeight.le) cellHeight.le
  have right := Int.lt_ediv_add_one_mul_self (region.x + region.width + cells.cellWidth - 1)
    cellWidth
  have bottom := Int.lt_ediv_add_one_mul_self (region.y + region.height + cells.cellHeight - 1)
    cellHeight
  rw [Int.add_mul, Int.one_mul] at right bottom
  refine ⟨⟨⟨leftNonneg, topNonneg, ?_, ?_, ?_, ?_⟩, Int.dvd_mul_left _ _, Int.dvd_mul_left _ _⟩,
    ?_⟩
  · simp only [alignToTerminalCells]
    omega
  · simp only [alignToTerminalCells]
    omega
  · simp only [alignToTerminalCells]
    omega
  · simp only [alignToTerminalCells]
    omega
  · intro x y contained
    simp only [DamageRect.Contains, alignToTerminalCells] at contained ⊢
    omega

theorem DamageRect.Placed.bounding {left right : DamageRegion}
    (first : left.Placed cells frameWidth frameHeight)
    (second : right.Placed cells frameWidth frameHeight) :
    (left.bounding right).Placed cells frameWidth frameHeight := by
  obtain ⟨⟨xLeft, yLeft, widthLeft, heightLeft, rightLeft, bottomLeft⟩, columnLeft, rowLeft⟩ := first
  obtain ⟨⟨xRight, yRight, widthRight, heightRight, rightRight, bottomRight⟩, columnRight,
    rowRight⟩ := second
  refine ⟨⟨?_, ?_, ?_, ?_, ?_, ?_⟩, ?_, ?_⟩ <;> simp only [DamageRect.bounding]
  · omega
  · omega
  · omega
  · omega
  · omega
  · omega
  · rw [Int.min_def]
    split_ifs
    · exact columnLeft
    · exact columnRight
  · rw [Int.min_def]
    split_ifs
    · exact rowLeft
    · exact rowRight

theorem DamageRect.contains_bounding {left right : DamageRegion} {x y : Int}
    (contained : left.Contains x y ∨ right.Contains x y) : (left.bounding right).Contains x y := by
  simp only [DamageRect.Contains, DamageRect.bounding] at contained ⊢
  omega

def AllPlaced (cells : TerminalCellPixels) (frameWidth frameHeight : Int)
    (regions : List DamageRegion) : Prop :=
  ∀ region ∈ regions, region.Placed cells frameWidth frameHeight

/-- Rectangles stay placed, no covered pixel is lost. -/
structure Coarsens (cells : TerminalCellPixels) (frameWidth frameHeight : Int)
    (before after : List DamageRegion) : Prop where
  placed : AllPlaced cells frameWidth frameHeight before →
    AllPlaced cells frameWidth frameHeight after
  covers : AllPlaced cells frameWidth frameHeight before →
    ∀ x y, Covers before x y → Covers after x y

/-- What merging does to a list: every rectangle is joined from some of the list, and no covered
pixel is lost. -/
structure Joins (before after : List DamageRegion) : Prop where
  closed : ∀ Holds : DamageRegion → Prop,
    (∀ left right, Holds left → Holds right → Holds (left.bounding right)) →
    (∀ region ∈ before, Holds region) → ∀ region ∈ after, Holds region
  covers : ∀ x y, Covers before x y → Covers after x y

namespace Joins

theorem refl (regions : List DamageRegion) : Joins regions regions :=
  ⟨fun _ _ all => all, fun _ _ covered => covered⟩

theorem trans {first second third : List DamageRegion} (head : Joins first second)
    (tail : Joins second third) : Joins first third :=
  ⟨fun Holds bounding all => tail.closed Holds bounding (head.closed Holds bounding all),
    fun x y covered => tail.covers x y (head.covers x y covered)⟩

theorem of_perm {before after : List DamageRegion} (perm : after.Perm before) :
    Joins before after := by
  constructor
  · intro Holds _ all region member
    exact all region (perm.mem_iff.mp member)
  · intro x y
    simp only [Covers, perm.mem_iff, imp_self]

/-- Two rectangles replaced by their bounds. -/
theorem bound (left right : DamageRegion) (others : List DamageRegion) :
    Joins (left :: right :: others) (left.bounding right :: others) := by
  constructor
  · intro Holds bounding all
    rw [List.forall_mem_cons, List.forall_mem_cons] at all
    rw [List.forall_mem_cons]
    exact ⟨bounding left right all.1 all.2.1, all.2.2⟩
  · intro x y covered
    rw [covers_cons, covers_cons, ← or_assoc] at covered
    rw [covers_cons]
    exact covered.imp_left DamageRect.contains_bounding

/-- Joined rectangles stay on cell boundaries inside the frame. -/
theorem coarsens {before after : List DamageRegion} (joins : Joins before after) :
    Coarsens cells frameWidth frameHeight before after :=
  ⟨joins.closed _ fun _ _ first second => first.bounding second, fun _ => joins.covers⟩

end Joins

/-! ### Merging -/

theorem bounding_of_mergeWithoutInflation {left right bounds : DamageRegion}
    (merged : mergeWithoutInflation left right = some bounds) : bounds = left.bounding right := by
  simp only [mergeWithoutInflation] at merged
  split_ifs at merged
  exact (Option.some.inj merged).symm

theorem perm_of_mergeInto {left bounds : DamageRegion} {others rest : List DamageRegion}
    (merged : mergeInto left others = some (bounds, rest)) :
    ∃ right, mergeWithoutInflation left right = some bounds ∧ others.Perm (right :: rest) := by
  induction others generalizing rest with
  | nil => cases merged
  | cons right others inductionHypothesis =>
      rw [mergeInto] at merged
      split at merged
      · rename_i found
        simp only [Option.some.injEq, Prod.mk.injEq] at merged
        obtain ⟨rfl, rfl⟩ := merged
        exact ⟨right, found, List.Perm.refl _⟩
      · simp only [Option.map_eq_some_iff, Prod.mk.injEq] at merged
        obtain ⟨⟨inner, kept⟩, found, rfl, rfl⟩ := merged
        obtain ⟨partner, mergeable, perm⟩ := inductionHypothesis found
        exact ⟨partner, mergeable, (perm.cons right).trans (List.Perm.swap partner right kept)⟩

/-- What one round does: two of the rectangles are replaced by their bounds. -/
theorem perm_of_mergeFirst {regions merged : List DamageRegion}
    (found : mergeFirst regions = some merged) :
    ∃ left right bounds others, mergeWithoutInflation left right = some bounds ∧
      regions.Perm (left :: right :: others) ∧ merged.Perm (bounds :: others) := by
  induction regions generalizing merged with
  | nil => cases found
  | cons first others inductionHypothesis =>
      rw [mergeFirst] at found
      split at found
      · rename_i bounds rest mergedInto
        rw [← Option.some.inj found]
        obtain ⟨right, mergeable, perm⟩ := perm_of_mergeInto mergedInto
        exact ⟨first, right, bounds, rest, mergeable, perm.cons first, List.Perm.refl _⟩
      · simp only [Option.map_eq_some_iff] at found
        obtain ⟨rest, later, rfl⟩ := found
        obtain ⟨left, right, bounds, kept, mergeable, before, after⟩ := inductionHypothesis later
        refine ⟨left, right, bounds, first :: kept, mergeable, ?_, ?_⟩
        · exact (before.cons first).trans
            ((List.Perm.swap left first _).trans ((List.Perm.swap right first kept).cons left))
        · exact (after.cons first).trans (List.Perm.swap bounds first kept)

theorem joins_mergeFirst {regions merged : List DamageRegion}
    (found : mergeFirst regions = some merged) :
    Joins regions merged ∧
      merged.length + 1 = regions.length := by
  obtain ⟨left, right, bounds, others, mergeable, before, after⟩ := perm_of_mergeFirst found
  rw [bounding_of_mergeWithoutInflation mergeable] at after
  constructor
  · exact (Joins.of_perm before.symm).trans ((Joins.bound left right others).trans
      (Joins.of_perm after))
  · rw [before.length_eq, after.length_eq, List.length_cons, List.length_cons, List.length_cons]

theorem joins_mergeAll (rounds : Nat) (regions : List DamageRegion) :
    Joins regions (mergeAll rounds regions) := by
  induction rounds generalizing regions with
  | zero => exact Joins.refl regions
  | succ rounds inductionHypothesis =>
      rw [mergeAll]
      split
      · rename_i merged found
        exact (joins_mergeFirst found).1.trans (inductionHypothesis merged)
      · exact Joins.refl regions

theorem joins_normalizeDamage (host : Host) (regions : List DamageRegion) :
    Joins regions (normalizeDamage host regions) :=
  (joins_mergeAll _ regions).trans (Joins.of_perm (host.sortRegions_perm _))

theorem normalizeDamage_ne_nil (host : Host) {regions : List DamageRegion} (nonempty : regions ≠ []) :
    normalizeDamage host regions ≠ [] := by
  have mergedOnce : ∀ {before after : List DamageRegion}, mergeFirst before = some after →
      after ≠ [] := by
    intro before after found empty
    obtain ⟨_, _, bounds, others, -, -, perm⟩ := perm_of_mergeFirst found
    rw [empty] at perm
    exact List.cons_ne_nil bounds others perm.nil_eq.symm
  have merged : ∀ rounds, ∀ before : List DamageRegion, before ≠ [] →
      mergeAll rounds before ≠ [] := by
    intro rounds
    induction rounds with
    | zero => exact fun _ nonempty => nonempty
    | succ rounds inductionHypothesis =>
        intro before nonempty
        rw [mergeAll]
        split
        · rename_i after found
          exact inductionHypothesis after (mergedOnce found)
        · exact nonempty
  intro empty
  have sorted := host.sortRegions_perm (mergeAll regions.length regions)
  rw [show host.sortRegions (mergeAll regions.length regions) = [] from empty] at sorted
  exact merged _ _ nonempty sorted.nil_eq.symm

/-! ### Planning -/

private theorem bounding_self (region : DamageRegion) : region.bounding region = region := by
  cases region
  simp only [DamageRect.bounding, DamageRect.mk.injEq]
  omega

theorem joins_bounds (first : DamageRegion) (regions : List DamageRegion) :
    Joins (first :: regions)
      [regions.foldl DamageRect.bounding first] := by
  induction regions generalizing first with
  | nil => exact Joins.refl [first]
  | cons region regions inductionHypothesis =>
      exact (Joins.bound first region regions).trans (inductionHypothesis _)

/-- Whatever is planned covers what was damaged. -/
theorem joins_planDamagePresentation (host : Host) (regions : List DamageRegion)
    (threshold : Rat) :
    Joins regions
      (planDamagePresentation host regions frameWidth frameHeight cells threshold).1 := by
  have normalized := joins_normalizeDamage host regions
  unfold planDamagePresentation
  by_cases empty : regions.isEmpty = true
  · rw [if_pos empty]
    exact Joins.refl regions
  · rw [if_neg empty]
    have nonempty := normalizeDamage_ne_nil host (List.isEmpty_iff.not.mp empty)
    cases found : normalizeDamage host regions with
    | nil => exact absurd found nonempty
    | cons first others =>
        rw [found] at normalized
        have bounded := normalized.trans
          (joins_bounds first others)
        simp only [List.headD_cons, List.foldl_cons, bounding_self]
        split
        · exact normalized
        · split
          · exact normalized
          · split
            · exact bounded
            · exact normalized

end Rasterm
