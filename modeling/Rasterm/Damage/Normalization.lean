import Rasterm.Library.Grid
import Rasterm.Damage.Regions

/-!
Contract: merging loses no pixel, adds none, and stops only when nothing is left
to merge.

The code compares areas; the law is about pixels. Counting the points of boxes
connects the two, and the loop inherits exactness from the one merge it repeats.
-/

set_option autoImplicit false

namespace Rasterm

variable {frameWidth frameHeight : Int}

/-! ### One merge -/

namespace DamageRect

/-- The pixels a rectangle covers, as a finite set. -/
def pixels (region : DamageRegion) : Finset (Int × Int) :=
  Grid.box region.x (region.x + region.width) region.y (region.y + region.height)

theorem mem_pixels {region : DamageRegion} {x y : Int} :
    (x, y) ∈ region.pixels ↔ region.Contains x y := by
  rw [pixels, Grid.mem_box, Contains, and_assoc]

theorem pixels_eq_iff {region : DamageRegion} {points : Finset (Int × Int)} :
    points = region.pixels ↔ ∀ x y, region.Contains x y ↔ (x, y) ∈ points := by
  rw [Finset.ext_iff]
  constructor
  · intro same x y
    rw [same, mem_pixels]
  · intro same point
    rw [← same, ← mem_pixels]

variable {left right : DamageRegion}

theorem pixels_bounding (left right : DamageRegion) :
    (left.bounding right).pixels =
      Grid.box (min left.x right.x) (max (left.x + left.width) (right.x + right.width))
        (min left.y right.y) (max (left.y + left.height) (right.y + right.height)) := by
  simp only [pixels, bounding, add_sub_cancel]

theorem Inside.card_pixels (inside : left.Inside frameWidth frameHeight) :
    (left.pixels.card : Int) = left.area := by
  rw [pixels, Grid.card_box, add_sub_cancel_left, add_sub_cancel_left,
    max_eq_right inside.width_pos.le, max_eq_right inside.height_pos.le, area]

theorem Inside.bounding (first : left.Inside frameWidth frameHeight)
    (second : right.Inside frameWidth frameHeight) :
    (left.bounding right).Inside frameWidth frameHeight := by
  obtain ⟨xLeft, yLeft, widthLeft, heightLeft, rightLeft, bottomLeft⟩ := first
  obtain ⟨xRight, yRight, widthRight, heightRight, rightRight, bottomRight⟩ := second
  constructor <;> simp only [DamageRect.bounding] <;> omega

end DamageRect

/-- Whether one rectangle covers exactly the pixels of two. -/
def DamageRect.Unites (region left right : DamageRegion) : Prop :=
  ∀ x y, region.Contains x y ↔ left.Contains x y ∨ right.Contains x y

theorem DamageRect.unites_iff_pixels {region left right : DamageRegion} :
    region.Unites left right ↔ left.pixels ∪ right.pixels = region.pixels := by
  simp only [DamageRect.pixels_eq_iff, Finset.mem_union, DamageRect.mem_pixels, DamageRect.Unites]

/-- The area identity of the code decides whether the bounds hold nothing else. -/
theorem mergeWithoutInflation_eq_some_iff {left right bounds : DamageRegion}
    (first : left.Inside frameWidth frameHeight) (second : right.Inside frameWidth frameHeight) :
    mergeWithoutInflation left right = some bounds ↔
      bounds = left.bounding right ∧ (left.bounding right).Unites left right := by
  have leftPart : left.pixels ⊆ (left.bounding right).pixels := by
    rw [DamageRect.pixels_bounding]
    exact Grid.box_subset_bounds
  have rightPart : right.pixels ⊆ (left.bounding right).pixels := by
    rw [DamageRect.pixels_bounding, min_comm, max_comm, min_comm left.y, max_comm (left.y + _)]
    exact Grid.box_subset_bounds
  have counted := Grid.union_eq_iff_card leftPart rightPart
  have overlap : ((left.pixels ∩ right.pixels).card : Int) =
      max 0 (min (left.x + left.width) (right.x + right.width) - max left.x right.x) *
        max 0 (min (left.y + left.height) (right.y + right.height) - max left.y right.y) := by
    rw [DamageRect.pixels, DamageRect.pixels, Grid.box_inter_box, Grid.card_box]
  rw [first.card_pixels, second.card_pixels, (first.bounding second).card_pixels, overlap,
    ← DamageRect.unites_iff_pixels] at counted
  rw [counted, mergeWithoutInflation]
  split_ifs with inflated
  · exact ⟨fun none => absurd none (by simp), fun both => absurd both.2 inflated⟩
  · rw [Option.some.injEq, eq_comm]
    exact ⟨fun same => ⟨same, not_not.mp inflated⟩, fun both => both.1⟩

/-- Only the bounds of two rectangles can be their union. -/
theorem unites_bounding {left right region : DamageRegion}
    (first : left.Inside frameWidth frameHeight) (second : right.Inside frameWidth frameHeight)
    (unites : region.Unites left right) : (left.bounding right).Unites left right := by
  rw [DamageRect.unites_iff_pixels] at unites ⊢
  rw [DamageRect.pixels_bounding]
  have widthFirst := first.width_pos
  have heightFirst := first.height_pos
  have widthSecond := second.width_pos
  have heightSecond := second.height_pos
  exact Grid.union_eq_bounds (by omega) (by omega) (by omega) (by omega) unites

/-- Merging two rectangles decides whether their union is a rectangle, and gives it. -/
structure MergesExactly (left right : DamageRegion) : Prop where
  succeeds : (∃ bounds, mergeWithoutInflation left right = some bounds) ↔
    ∃ region : DamageRegion, region.Unites left right
  replaced : ∀ bounds, mergeWithoutInflation left right = some bounds →
    bounds.Unites left right

theorem mergesExactly {left right : DamageRegion} (first : left.Inside frameWidth frameHeight)
    (second : right.Inside frameWidth frameHeight) : MergesExactly left right := by
  constructor
  · constructor
    · rintro ⟨bounds, merged⟩
      exact ⟨_, ((mergeWithoutInflation_eq_some_iff first second).mp merged).2⟩
    · rintro ⟨region, unites⟩
      exact ⟨_, (mergeWithoutInflation_eq_some_iff first second).mpr
        ⟨rfl, unites_bounding first second unites⟩⟩
  · intro bounds merged
    obtain ⟨same, unites⟩ := (mergeWithoutInflation_eq_some_iff first second).mp merged
    rw [same]
    exact unites

/-! ### The loop -/

def AllInside (frameWidth frameHeight : Int) (regions : List DamageRegion) : Prop :=
  ∀ region ∈ regions, region.Inside frameWidth frameHeight

/-- Both lists cover the same pixels. -/
def SameCover (before after : List DamageRegion) : Prop :=
  ∀ x y, Covers after x y ↔ Covers before x y

namespace SameCover

theorem refl (regions : List DamageRegion) : SameCover regions regions := fun _ _ => Iff.rfl

theorem trans {first second third : List DamageRegion} (head : SameCover first second)
    (tail : SameCover second third) : SameCover first third :=
  fun x y => (tail x y).trans (head x y)

theorem of_perm {before after : List DamageRegion} (perm : after.Perm before) :
    SameCover before after := by
  intro x y
  simp only [Covers, perm.mem_iff]

theorem unite {left right bounds : DamageRegion} (unites : bounds.Unites left right)
    (others : List DamageRegion) : SameCover (left :: right :: others) (bounds :: others) := by
  intro x y
  rw [covers_cons, covers_cons, covers_cons, unites, or_assoc]

end SameCover

theorem Joins.allInside {before after : List DamageRegion} (joins : Joins before after)
    (inside : AllInside frameWidth frameHeight before) :
    AllInside frameWidth frameHeight after :=
  joins.closed _ (fun _ _ first second => first.bounding second) inside

theorem sameCover_mergeFirst {regions merged : List DamageRegion}
    (inside : AllInside frameWidth frameHeight regions)
    (found : mergeFirst regions = some merged) : SameCover regions merged := by
  obtain ⟨left, right, bounds, others, mergeable, before, after⟩ := perm_of_mergeFirst found
  have leftInside := inside left (before.mem_iff.mpr List.mem_cons_self)
  have rightInside :=
    inside right (before.mem_iff.mpr (List.mem_cons_of_mem left List.mem_cons_self))
  have unites := (mergesExactly leftInside rightInside).replaced _ mergeable
  exact (SameCover.of_perm before.symm).trans ((SameCover.unite unites others).trans
    (SameCover.of_perm after))

/-- The loop keeps the pixels and never makes the list longer. -/
theorem sameCover_mergeAll (rounds : Nat) {regions : List DamageRegion}
    (inside : AllInside frameWidth frameHeight regions) :
    SameCover regions (mergeAll rounds regions) ∧
      (mergeAll rounds regions).length ≤ regions.length := by
  induction rounds generalizing regions with
  | zero => exact ⟨SameCover.refl regions, le_refl _⟩
  | succ rounds inductionHypothesis =>
      rw [mergeAll]
      split
      · rename_i merged found
        obtain ⟨joins, shorter⟩ := joins_mergeFirst found
        obtain ⟨same, length⟩ := inductionHypothesis (joins.allInside inside)
        exact ⟨(sameCover_mergeFirst inside found).trans same, by omega⟩
      · exact ⟨SameCover.refl regions, le_refl _⟩

/-! ### Nothing left to merge -/

/-- Neither of two rectangles can be merged into the other. -/
def Unmergeable (left right : DamageRegion) : Prop :=
  mergeWithoutInflation left right = none ∧ mergeWithoutInflation right left = none

theorem Unmergeable.symm {left right : DamageRegion} (apart : Unmergeable left right) :
    Unmergeable right left :=
  ⟨apart.2, apart.1⟩

/-- Merging does not care which rectangle comes first. -/
theorem mergeWithoutInflation_comm (left right : DamageRegion) :
    mergeWithoutInflation left right = mergeWithoutInflation right left := by
  have sameBounds : left.bounding right = right.bounding left := by
    simp only [DamageRect.bounding, min_comm left.x, min_comm left.y,
      max_comm (left.x + left.width), max_comm (left.y + left.height)]
  simp only [mergeWithoutInflation, sameBounds, min_comm (left.x + left.width),
    min_comm (left.y + left.height), max_comm left.x, max_comm left.y, add_comm left.area]

theorem unmergeable_of_none {left right : DamageRegion}
    (none : mergeWithoutInflation left right = none) : Unmergeable left right :=
  ⟨none, mergeWithoutInflation_comm left right ▸ none⟩

theorem unmergeable_of_mergeInto {left : DamageRegion} {others : List DamageRegion}
    (searched : mergeInto left others = none) : ∀ right ∈ others, Unmergeable left right := by
  induction others with
  | nil => exact fun _ member => absurd member List.not_mem_nil
  | cons right others inductionHypothesis =>
      rw [mergeInto] at searched
      split at searched
      · cases searched
      · rename_i failed
        rw [List.forall_mem_cons]
        exact ⟨unmergeable_of_none failed,
          inductionHypothesis (Option.map_eq_none_iff.mp searched)⟩

/-- A round that finds nothing has compared every pair. -/
theorem unmergeable_of_mergeFirst {regions : List DamageRegion}
    (searched : mergeFirst regions = none) : regions.Pairwise Unmergeable := by
  induction regions with
  | nil => exact List.Pairwise.nil
  | cons first others inductionHypothesis =>
      rw [mergeFirst] at searched
      split at searched
      · cases searched
      · rename_i failed
        exact List.pairwise_cons.mpr ⟨unmergeable_of_mergeInto failed,
          inductionHypothesis (Option.map_eq_none_iff.mp searched)⟩

/-! ### The normalized list -/

/-- The `while (merged)` loop runs from one list to another and stops there. -/
inductive LoopEnds : List DamageRegion → List DamageRegion → Prop
  | stop {regions : List DamageRegion} (nothing : mergeFirst regions = none) :
      LoopEnds regions regions
  | round {regions merged final : List DamageRegion} (found : mergeFirst regions = some merged)
      (rest : LoopEnds merged final) : LoopEnds regions final

/-- Every round takes a rectangle away, so there are at most as many rounds as rectangles. -/
theorem loopEnds_mergeAll {rounds : Nat} {regions : List DamageRegion}
    (enough : regions.length ≤ rounds) : LoopEnds regions (mergeAll rounds regions) := by
  induction rounds generalizing regions with
  | zero =>
      rw [List.eq_nil_of_length_eq_zero (Nat.le_zero.mp enough)]
      exact LoopEnds.stop rfl
  | succ rounds inductionHypothesis =>
      rw [mergeAll]
      split
      · rename_i merged found
        obtain ⟨-, length⟩ := joins_mergeFirst found
        exact LoopEnds.round found (inductionHypothesis (by omega))
      · rename_i nothing
        exact LoopEnds.stop nothing

theorem LoopEnds.mergeFirst_eq_none {regions final : List DamageRegion}
    (ends : LoopEnds regions final) : mergeFirst final = none := by
  induction ends with
  | stop nothing => exact nothing
  | round _ _ inductionHypothesis => exact inductionHypothesis

/-- What `normalizeDamage` promises about its result. -/
structure Normalizes (frameWidth frameHeight : Int) (before after : List DamageRegion) : Prop where
  inside : AllInside frameWidth frameHeight after
  shorter : after.length ≤ before.length
  sameCover : SameCover before after
  sorted : after.Pairwise DamageRect.Precedes
  merged : after.Pairwise Unmergeable

theorem normalizes_normalizeDamage (host : Host) {regions : List DamageRegion}
    (inside : AllInside frameWidth frameHeight regions) :
    Normalizes frameWidth frameHeight regions (normalizeDamage host regions) := by
  have perm := host.sortRegions_perm (mergeAll regions.length regions)
  obtain ⟨same, shorter⟩ := sameCover_mergeAll regions.length inside
  have finished := (loopEnds_mergeAll (le_refl regions.length)).mergeFirst_eq_none
  exact {
    inside := (joins_normalizeDamage host regions).allInside inside
    shorter := perm.length_eq.trans_le shorter
    sameCover := same.trans (SameCover.of_perm perm)
    sorted := host.sortRegions_sorted _
    merged := (perm.pairwise_iff Unmergeable.symm).mpr (unmergeable_of_mergeFirst finished) }

/-- **Normalization is lossless and complete.** Two rectangles merge exactly when their union is a
rectangle, into that rectangle; and any list ends up sorted, fully merged and covering what it
covered. -/
theorem normalization_lossless (host : Host) {left right : DamageRegion}
    {regions : List DamageRegion} (leftInside : left.Inside frameWidth frameHeight)
    (rightInside : right.Inside frameWidth frameHeight)
    (inside : AllInside frameWidth frameHeight regions) :
    MergesExactly left right ∧
      ∃ final, LoopEnds regions final ∧ normalizeDamage host regions = host.sortRegions final ∧
        Normalizes frameWidth frameHeight regions (normalizeDamage host regions) :=
  ⟨mergesExactly leftInside rightInside, _, loopEnds_mergeAll (le_refl regions.length), rfl,
    normalizes_normalizeDamage host inside⟩

/-- Two halves of a row, one of them twice, over a row that they do not reach the end of. -/
theorem normalization_lossless_rows :
    normalizeDamage Host.plain [⟨0, 1, 3, 1⟩, ⟨2, 0, 2, 1⟩, ⟨0, 0, 2, 1⟩, ⟨2, 0, 2, 1⟩] =
        [⟨0, 0, 4, 1⟩, ⟨0, 1, 3, 1⟩] ∧
      MergesExactly ⟨2, 0, 2, 1⟩ ⟨0, 0, 2, 1⟩ ∧
      ∃ final, LoopEnds [⟨0, 1, 3, 1⟩, ⟨2, 0, 2, 1⟩, ⟨0, 0, 2, 1⟩, ⟨2, 0, 2, 1⟩] final ∧
        normalizeDamage Host.plain [⟨0, 1, 3, 1⟩, ⟨2, 0, 2, 1⟩, ⟨0, 0, 2, 1⟩, ⟨2, 0, 2, 1⟩] =
          Host.plain.sortRegions final ∧
        Normalizes 4 2 [⟨0, 1, 3, 1⟩, ⟨2, 0, 2, 1⟩, ⟨0, 0, 2, 1⟩, ⟨2, 0, 2, 1⟩]
          (normalizeDamage Host.plain
            [⟨0, 1, 3, 1⟩, ⟨2, 0, 2, 1⟩, ⟨0, 0, 2, 1⟩, ⟨2, 0, 2, 1⟩]) := by
  refine ⟨by decide, normalization_lossless Host.plain ?_ ?_ ?_⟩
  · exact ⟨by decide, by decide, by decide, by decide, by decide, by decide⟩
  · exact ⟨by decide, by decide, by decide, by decide, by decide, by decide⟩
  · intro region member
    rw [← DamageView.rectangleIsValidFor_iff]
    revert region
    decide

end Rasterm
