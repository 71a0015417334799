import Mathlib.Algebra.Order.Floor.Ring
import Mathlib.Tactic.Linarith
import Mathlib.Tactic.NormNum

/-!
Contract: lengths scaled to a bound, rounded, and placed in its middle.

Owns:
- rounding to the nearest integer with halves away from zero;
- the scales that make one length meet its bound, as a minimum or a maximum of ratios;
- spans of a line: inside a bound, covering it, and in its middle.

Does not own rectangles, or any policy that chooses a scale.
-/

set_option autoImplicit false

universe u

namespace Fitting

/-! ### Rounding -/

section Rounding

variable {K : Type u} [Field K] [LinearOrder K] [FloorRing K]

/-- The nearest integer, halves away from zero. -/
def roundHalfAway (value : K) : ℤ :=
  if 0 ≤ value then ⌊value + 1 / 2⌋ else -⌊-value + 1 / 2⌋

theorem roundHalfAway_of_nonneg {value : K} (nonneg : 0 ≤ value) :
    roundHalfAway value = ⌊value + 1 / 2⌋ :=
  if_pos nonneg

variable [IsStrictOrderedRing K]

theorem roundHalfAway_nonneg {value : K} (nonneg : 0 ≤ value) : 0 ≤ roundHalfAway value := by
  rw [roundHalfAway_of_nonneg nonneg]
  exact Int.floor_nonneg.mpr (by linarith)

theorem floor_half : ⌊(1 / 2 : K)⌋ = 0 :=
  Int.floor_eq_zero_iff.mpr ⟨by norm_num, by norm_num⟩

theorem roundHalfAway_neg (value : K) : roundHalfAway (-value) = -roundHalfAway value := by
  unfold roundHalfAway
  rcases lt_trichotomy value 0 with negative | rfl | positive
  · rw [if_pos (by linarith), if_neg (not_le.mpr negative), neg_neg]
  · rw [neg_zero, if_pos le_rfl, if_pos le_rfl, zero_add, floor_half, neg_zero]
  · rw [if_neg (by linarith), if_pos positive.le, neg_neg]

theorem roundHalfAway_mono {left right : K} (le : left ≤ right) :
    roundHalfAway left ≤ roundHalfAway right := by
  have upper : ∀ left right : K, 0 ≤ left → left ≤ right →
      roundHalfAway left ≤ roundHalfAway right := by
    intro left right nonneg le
    rw [roundHalfAway_of_nonneg nonneg, roundHalfAway_of_nonneg (nonneg.trans le)]
    exact Int.floor_mono (add_le_add_left le _)
  rcases le_total 0 left with nonneg | nonpos
  · exact upper left right nonneg le
  · rcases le_total 0 right with rightNonneg | rightNonpos
    · have above := roundHalfAway_nonneg rightNonneg
      have below := roundHalfAway_nonneg (neg_nonneg.mpr nonpos)
      rw [roundHalfAway_neg] at below
      omega
    · have mirrored := upper (-right) (-left) (neg_nonneg.mpr rightNonpos) (neg_le_neg le)
      rw [roundHalfAway_neg, roundHalfAway_neg] at mirrored
      omega

@[simp] theorem roundHalfAway_intCast (value : ℤ) : roundHalfAway (value : K) = value := by
  have upper : ∀ value : ℤ, 0 ≤ value → roundHalfAway (value : K) = value := by
    intro value nonneg
    rw [roundHalfAway_of_nonneg (by exact_mod_cast nonneg), Int.floor_intCast_add,
      floor_half, add_zero]
  rcases le_total 0 value with nonneg | nonpos
  · exact upper value nonneg
  · have mirrored := upper (-value) (by omega)
    rw [Int.cast_neg, roundHalfAway_neg] at mirrored
    omega

theorem roundHalfAway_le {value : K} {bound : ℤ} (le : value ≤ bound) :
    roundHalfAway value ≤ bound := by
  rw [← roundHalfAway_intCast (K := K) bound]
  exact roundHalfAway_mono le

theorem le_roundHalfAway {value : K} {bound : ℤ} (le : (bound : K) ≤ value) :
    bound ≤ roundHalfAway value := by
  rw [← roundHalfAway_intCast (K := K) bound]
  exact roundHalfAway_mono le

end Rounding

/-! ### Ratios -/

section Ratios

variable {K : Type u} [Field K] [LinearOrder K] {length bound otherLength otherBound : K}

/-- The smaller ratio makes a length meet its bound. -/
theorem min_ratio_meets (positive : 0 < length) (otherPositive : 0 < otherLength) :
    length * min (bound / length) (otherBound / otherLength) = bound ∨
      otherLength * min (bound / length) (otherBound / otherLength) = otherBound := by
  rcases min_choice (bound / length) (otherBound / otherLength) with first | second
  · exact Or.inl (by rw [first, mul_div_cancel₀ bound positive.ne'])
  · exact Or.inr (by rw [second, mul_div_cancel₀ otherBound otherPositive.ne'])

variable [IsStrictOrderedRing K]

/-- Scaled by the smaller ratio no length passes its bound. -/
theorem mul_min_ratio_le (positive : 0 < length) (other : K) :
    length * min (bound / length) other ≤ bound := by
  calc length * min (bound / length) other ≤ length * (bound / length) :=
        mul_le_mul_of_nonneg_left (min_le_left _ _) positive.le
    _ = bound := mul_div_cancel₀ bound positive.ne'

/-- Scaled by the larger ratio every length reaches its bound. -/
theorem le_mul_max_ratio (positive : 0 < length) (other : K) :
    bound ≤ length * max (bound / length) other := by
  calc bound = length * (bound / length) := (mul_div_cancel₀ bound positive.ne').symm
    _ ≤ length * max (bound / length) other :=
        mul_le_mul_of_nonneg_left (le_max_left _ _) positive.le

end Ratios

/-! ### Spans -/

/-- A stretch of a line. -/
structure Span where
  start : Int
  length : Int
deriving DecidableEq, Repr

namespace Span

/-- All of it is between zero and the bound. -/
def Inside (span : Span) (bound : Int) : Prop := 0 ≤ span.start ∧ span.start + span.length ≤ bound

/-- All between zero and the bound is in it. -/
def Covers (span : Span) (bound : Int) : Prop := span.start ≤ 0 ∧ bound ≤ span.start + span.length

/-- The margins on its two sides, which may be negative, differ by at most one. -/
def Centred (span : Span) (bound : Int) : Prop :=
  |(bound - (span.start + span.length)) - span.start| ≤ 1

/-- Half the margin in front of it, in the division of the language. -/
def centred (bound length : Int) : Span := ⟨(bound - length).tdiv 2, length⟩

theorem centred_inside {bound length : Int} (fits : length ≤ bound) :
    (centred bound length).Inside bound := by
  have half : (bound - length).tdiv 2 = (bound - length) / 2 :=
    Int.tdiv_eq_ediv_of_nonneg (by omega)
  unfold centred Inside
  rw [half]
  dsimp only
  omega

theorem centred_covers {bound length : Int} (reaches : bound ≤ length) :
    (centred bound length).Covers bound := by
  have half : (bound - length).tdiv 2 = -((length - bound) / 2) := by
    rw [← Int.tdiv_eq_ediv_of_nonneg (by omega), ← Int.neg_tdiv, Int.neg_sub]
  unfold centred Covers
  rw [half]
  dsimp only
  omega

theorem centred_centred {bound length : Int} (fits : length ≤ bound) :
    (centred bound length).Centred bound := by
  have half : (bound - length).tdiv 2 = (bound - length) / 2 :=
    Int.tdiv_eq_ediv_of_nonneg (by omega)
  unfold centred Centred
  rw [half, abs_le]
  dsimp only
  omega

end Span

end Fitting
