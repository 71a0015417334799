import Mathlib.Data.Finset.Prod
import Mathlib.Data.Int.Interval
import Mathlib.Order.Interval.Finset.Basic
import Mathlib.Tactic.Common

/-!
Contract: rectangles of grid points as finite sets.

Owns when two rectangles fill their bounds, counted by points, and why a union
of two rectangles that is a rectangle at all is their bounds.

Does not own any order in which rectangles are merged.
-/

set_option autoImplicit false

namespace Grid

section Counting

variable {Point : Type} [DecidableEq Point]

/-- Two parts fill a whole exactly when the points add up. -/
theorem union_eq_iff_card {left right whole : Finset Point} (leftPart : left ⊆ whole)
    (rightPart : right ⊆ whole) :
    left ∪ right = whole ↔
      (whole.card : Int) = left.card + right.card - (left ∩ right).card := by
  have counted := Finset.card_union_add_card_inter left right
  constructor
  · intro fills
    rw [fills] at counted
    omega
  · intro adds
    apply Finset.eq_of_subset_of_card_le (Finset.union_subset leftPart rightPart)
    omega

end Counting

section Boxes

variable {Column Row : Type} [LinearOrder Column] [LocallyFiniteOrder Column]
  [LinearOrder Row] [LocallyFiniteOrder Row]

/-- The grid points from `left` up to `right` and from `top` down to `bottom`. -/
def box (left right : Column) (top bottom : Row) : Finset (Column × Row) :=
  Finset.Ico left right ×ˢ Finset.Ico top bottom

variable {left right left' right' : Column} {top bottom top' bottom' : Row}

@[simp] theorem mem_box {point : Column × Row} :
    point ∈ box left right top bottom ↔
      (left ≤ point.1 ∧ point.1 < right) ∧ top ≤ point.2 ∧ point.2 < bottom := by
  simp [box]

theorem box_inter_box :
    box left right top bottom ∩ box left' right' top' bottom' =
      box (max left left') (min right right') (max top top') (min bottom bottom') := by
  rw [box, box, box, Finset.product_inter_product, Finset.Ico_inter_Ico, Finset.Ico_inter_Ico]

/-- The bounds of two boxes hold both. -/
theorem box_subset_bounds :
    box left right top bottom ⊆
      box (min left left') (max right right') (min top top') (max bottom bottom') := by
  intro point member
  rw [mem_box] at member ⊢
  exact ⟨⟨min_le_of_left_le member.1.1, lt_max_of_lt_left member.1.2⟩,
    min_le_of_left_le member.2.1, lt_max_of_lt_left member.2.2⟩

end Boxes

section Integers

variable {left right top bottom : Int}

theorem card_box :
    ((box left right top bottom).card : Int) = max 0 (right - left) * max 0 (bottom - top) := by
  rw [box, Finset.card_product, Int.card_Ico, Int.card_Ico, Nat.cast_mul, Int.toNat_eq_max,
    Int.toNat_eq_max, max_comm, max_comm (bottom - top)]

/-- A box that holds another one reaches as far in all four directions. -/
theorem extends_of_box_subset {left' right' top' bottom' : Int} (width : left < right)
    (height : top < bottom)
    (inside : box left right top bottom ⊆ box left' right' top' bottom') :
    left' ≤ left ∧ right ≤ right' ∧ top' ≤ top ∧ bottom ≤ bottom' := by
  have first := inside (show ((left, top) : Int × Int) ∈ box left right top bottom by
    rw [mem_box]
    exact ⟨⟨le_refl _, width⟩, le_refl _, height⟩)
  have last := inside (show ((right - 1, bottom - 1) : Int × Int) ∈ box left right top bottom by
    rw [mem_box]
    omega)
  rw [mem_box] at first last
  omega

/-- A union of two boxes that is a box is their bounds. -/
theorem union_eq_bounds {left' right' top' bottom' leftWhole rightWhole topWhole bottomWhole : Int}
    (width : left < right) (height : top < bottom) (width' : left' < right')
    (height' : top' < bottom')
    (fills : box left right top bottom ∪ box left' right' top' bottom' =
      box leftWhole rightWhole topWhole bottomWhole) :
    box left right top bottom ∪ box left' right' top' bottom' =
      box (min left left') (max right right') (min top top') (max bottom bottom') := by
  apply Finset.Subset.antisymm
  · apply Finset.union_subset box_subset_bounds
    rw [min_comm left, max_comm right, min_comm top, max_comm bottom]
    exact box_subset_bounds
  · have first := extends_of_box_subset width height
      (fills ▸ Finset.subset_union_left)
    have second := extends_of_box_subset width' height'
      (fills ▸ Finset.subset_union_right)
    rw [fills]
    intro point member
    rw [mem_box] at member ⊢
    omega

end Integers

end Grid
