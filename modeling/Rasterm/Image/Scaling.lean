import Mathlib.Data.Rat.Floor
import Rasterm.Frame.Checked
import Rasterm.Library.Fitting

/-!
Contract: `calculateScaleLayout`, from two extents and a policy to the rectangles of a
scaled image.

Owns the layout over exact rationals with every `int` expression checked against its type,
what each policy promises of the rectangles, and when the layout is empty.

Does not own the resampling, or the rounding of `double`: the values the source tests for
finiteness are finite here.
-/

set_option autoImplicit false

namespace Rasterm

open Checked Fitting

structure Extent where
  width : Int := 0
  height : Int := 0
deriving DecidableEq, Repr

inductive ScalePolicy where
  | fit | fill | stretch | integerScale | crop | noScale
  | unlisted (value : Int)
deriving DecidableEq, Repr

structure Rect where
  x : Int := 0
  y : Int := 0
  width : Int := 0
  height : Int := 0
deriving DecidableEq, Repr

structure ScaleLayout where
  source : Rect := {}
  destination : Rect := {}
  canvas : Extent := {}
deriving DecidableEq, Repr

/-! ### The layout -/

def ScalePolicy.isListed : ScalePolicy → Bool
  | unlisted _ => false
  | _ => true

def ScalePolicy.scale (policy : ScalePolicy) (source bounds : Extent) : ℚ :=
  let columns : ℚ := bounds.width / source.width
  let rows : ℚ := bounds.height / source.height
  match policy with
  | fit => min columns rows
  | fill => max columns rows
  | integerScale => max 1 ⌊min columns rows⌋
  | _ => 1

/-- `(bound - length) / 2`. -/
def halfMargin (bound length : Int) : Except Fault Int := do
  let margin ← intRange.eval (bound - length)
  intRange.eval (margin.tdiv 2)

/-- `std::max(1, static_cast<int>(std::lround(value)))`. -/
def roundedSide (value : ℚ) : Except Fault Int := do
  let rounded ← intRange.eval (roundHalfAway value)
  return max 1 rounded

def calculateScaleLayout (source bounds : Extent) (policy : ScalePolicy) :
    Except Fault ScaleLayout :=
  if source.width ≤ 0 ∨ source.height ≤ 0 ∨ bounds.width ≤ 0 ∨ bounds.height ≤ 0 then .ok {}
  else if !policy.isListed then .ok {}
  else
    let result : ScaleLayout := { source := ⟨0, 0, source.width, source.height⟩, canvas := bounds }
    if policy = .stretch then
      .ok { result with destination := ⟨0, 0, bounds.width, bounds.height⟩ }
    else
      let scale := policy.scale source bounds
      let scaledWidthValue := source.width * scale
      let scaledHeightValue := source.height * scale
      if scaledWidthValue > intMax ∨ scaledHeightValue > intMax then .ok {}
      else do
        let scaledWidth ← roundedSide scaledWidthValue
        let scaledHeight ← roundedSide scaledHeightValue
        let destinationX ← halfMargin bounds.width scaledWidth
        let destinationY ← halfMargin bounds.height scaledHeight
        if policy = .crop ∨ policy = .noScale then
          let width := min source.width bounds.width
          let height := min source.height bounds.height
          if policy = .crop then
            let x ← halfMargin bounds.width width
            let y ← halfMargin bounds.height height
            let sourceX ← halfMargin source.width width
            let sourceY ← halfMargin source.height height
            return { result with
              source := ⟨sourceX, sourceY, width, height⟩
              destination := ⟨x, y, width, height⟩ }
          else
            return { result with
              source := ⟨0, 0, width, height⟩
              destination := ⟨0, 0, width, height⟩ }
        else
          return { result with
            destination := ⟨destinationX, destinationY, scaledWidth, scaledHeight⟩ }

/-! ### What a policy promises -/

/-- An extent of positive sides of type `int`. -/
structure Extent.Positive (extent : Extent) : Prop where
  width_pos : 0 < extent.width
  width_le : extent.width ≤ intMax
  height_pos : 0 < extent.height
  height_le : extent.height ≤ intMax

namespace Rect

def columns (rectangle : Rect) : Span := ⟨rectangle.x, rectangle.width⟩

def rows (rectangle : Rect) : Span := ⟨rectangle.y, rectangle.height⟩

/-- A rectangle of at least one pixel, all of it inside. -/
structure Inside (rectangle : Rect) (extent : Extent) : Prop where
  width_pos : 0 < rectangle.width
  height_pos : 0 < rectangle.height
  columns : rectangle.columns.Inside extent.width
  rows : rectangle.rows.Inside extent.height

def Covers (rectangle : Rect) (extent : Extent) : Prop :=
  rectangle.columns.Covers extent.width ∧ rectangle.rows.Covers extent.height

def Centred (rectangle : Rect) (extent : Extent) : Prop :=
  rectangle.columns.Centred extent.width ∧ rectangle.rows.Centred extent.height

end Rect

namespace ScaleLayout

/-- One integer factor for both sides. -/
def Multiplies (layout : ScaleLayout) (source : Extent) : Prop :=
  ∃ factor : Int, 1 ≤ factor ∧ layout.destination.width = factor * source.width ∧
    layout.destination.height = factor * source.height

/-- Pixels are taken over as they are. -/
structure Cuts (layout : ScaleLayout) (source bounds : Extent) : Prop where
  width : layout.source.width = layout.destination.width
  height : layout.source.height = layout.destination.height
  source : layout.source.Inside source
  destination : layout.destination.Inside bounds

/-- What the destination of each policy is to the canvas. -/
def Keeps (layout : ScaleLayout) (source bounds : Extent) : ScalePolicy → Prop
  | .fit =>
      layout.destination.Inside bounds ∧ layout.destination.Centred bounds ∧
        (layout.destination.width = bounds.width ∨ layout.destination.height = bounds.height)
  | .fill => layout.destination.Covers bounds
  | .integerScale =>
      layout.Multiplies source ∧
        (source.width ≤ bounds.width → source.height ≤ bounds.height →
          layout.destination.Inside bounds)
  | .crop | .noScale => layout.Cuts source bounds
  | .stretch => layout.destination = ⟨0, 0, bounds.width, bounds.height⟩
  | .unlisted _ => False

end ScaleLayout

/-! ### Sides and margins -/

/-- A scaled side. -/
def scaledSide (value : ℚ) : Int := max 1 (roundHalfAway value)

theorem one_le_scaledSide (value : ℚ) : 1 ≤ scaledSide value := le_max_left _ _

theorem scaledSide_le {value : ℚ} {bound : Int} (positive : 0 < bound) (le : value ≤ bound) :
    scaledSide value ≤ bound :=
  max_le positive (roundHalfAway_le le)

theorem le_scaledSide {value : ℚ} {bound : Int} (le : (bound : ℚ) ≤ value) :
    bound ≤ scaledSide value :=
  (le_roundHalfAway le).trans (le_max_right _ _)

theorem scaledSide_intCast {side : Int} (positive : 0 < side) : scaledSide (side : ℚ) = side := by
  unfold scaledSide
  rw [roundHalfAway_intCast]
  exact max_eq_right positive

theorem roundedSide_eq {value : ℚ} (nonneg : 0 ≤ value) (le : value ≤ intMax) :
    roundedSide value = .ok (scaledSide value) := by
  have holds : intRange.Holds (roundHalfAway value) :=
    intRange_holds (roundHalfAway_nonneg nonneg) (roundHalfAway_le le)
  unfold roundedSide
  rw [Range.eval_bind holds]
  rfl

theorem tdiv_two_holds {value : Int} (holds : intRange.Holds value) :
    intRange.Holds (value.tdiv 2) := by
  obtain ⟨above, below⟩ := holds
  rcases le_total 0 value with nonneg | nonpos
  · rw [Int.tdiv_eq_ediv_of_nonneg nonneg]
    exact intRange_holds (by omega) (le_trans (by omega) below)
  · have half : value.tdiv 2 = -(-value / 2) := by
      rw [← Int.tdiv_eq_ediv_of_nonneg (by omega), Int.neg_tdiv, neg_neg]
    rw [half]
    have least : intRange.least ≤ value := above
    refine ⟨le_trans least (by omega), le_trans (b := 0) (by omega) (by decide)⟩

theorem halfMargin_eq {bound length : Int} (boundNonneg : 0 ≤ bound) (boundLe : bound ≤ intMax)
    (lengthNonneg : 0 ≤ length) (lengthLe : length ≤ intMax) :
    halfMargin bound length = .ok (Span.centred bound length).start := by
  have holds : intRange.Holds (bound - length) := by
    constructor
    · show -intMax - 1 ≤ bound - length
      omega
    · show bound - length ≤ intMax
      omega
  unfold halfMargin
  rw [Range.eval_bind holds, Range.eval_of_holds (tdiv_two_holds holds)]
  rfl

/-! ### The layout of each policy -/

section Layouts

variable {source bounds : Extent}

/-- The guard of positive sides lets positive extents pass. -/
theorem not_refused (sourcePositive : source.Positive) (boundsPositive : bounds.Positive) :
    ¬ (source.width ≤ 0 ∨ source.height ≤ 0 ∨ bounds.width ≤ 0 ∨ bounds.height ≤ 0) := by
  have sourceWidth := sourcePositive.width_pos
  have sourceHeight := sourcePositive.height_pos
  have boundsWidth := boundsPositive.width_pos
  have boundsHeight := boundsPositive.height_pos
  omega

/-- The destination of a scaled image, in the middle of the canvas. -/
def resized (source bounds : Extent) (scale : ℚ) : ScaleLayout :=
  let width := scaledSide (source.width * scale)
  let height := scaledSide (source.height * scale)
  { source := ⟨0, 0, source.width, source.height⟩
    destination :=
      ⟨(Span.centred bounds.width width).start, (Span.centred bounds.height height).start,
        width, height⟩
    canvas := bounds }

/-- The part two extents have in common, from the middle of both or from their corners. -/
def cut (source bounds : Extent) (centred : Bool) : ScaleLayout :=
  let width := min source.width bounds.width
  let height := min source.height bounds.height
  let place (extent : Extent) : Rect :=
    if centred then
      ⟨(Span.centred extent.width width).start, (Span.centred extent.height height).start,
        width, height⟩
    else ⟨0, 0, width, height⟩
  { source := place source, destination := place bounds, canvas := bounds }

theorem calculateScaleLayout_unlisted (sourcePositive : source.Positive)
    (boundsPositive : bounds.Positive) (value : Int) :
    calculateScaleLayout source bounds (.unlisted value) = .ok {} := by
  unfold calculateScaleLayout
  rw [if_neg (not_refused sourcePositive boundsPositive)]
  rfl

theorem calculateScaleLayout_stretch (sourcePositive : source.Positive)
    (boundsPositive : bounds.Positive) :
    calculateScaleLayout source bounds .stretch = .ok
      { source := ⟨0, 0, source.width, source.height⟩
        destination := ⟨0, 0, bounds.width, bounds.height⟩
        canvas := bounds } := by
  unfold calculateScaleLayout
  rw [if_neg (not_refused sourcePositive boundsPositive)]
  rfl

/-- A layout with a side that no `int` holds is empty. -/
theorem calculateScaleLayout_tooLarge (sourcePositive : source.Positive)
    (boundsPositive : bounds.Positive) {policy : ScalePolicy} (unstretched : policy ≠ .stretch)
    (large : source.width * policy.scale source bounds > intMax ∨
      source.height * policy.scale source bounds > intMax) :
    calculateScaleLayout source bounds policy = .ok {} := by
  unfold calculateScaleLayout
  rw [if_neg (not_refused sourcePositive boundsPositive)]
  dsimp only
  rw [if_neg unstretched, if_pos large]
  exact ite_self _

variable {policy : ScalePolicy}

theorem calculateScaleLayout_resized (sourcePositive : source.Positive)
    (boundsPositive : bounds.Positive) (listed : policy.isListed = true)
    (unstretched : policy ≠ .stretch) (uncut : ¬ (policy = .crop ∨ policy = .noScale))
    (nonneg : 0 ≤ policy.scale source bounds)
    (widthLe : source.width * policy.scale source bounds ≤ intMax)
    (heightLe : source.height * policy.scale source bounds ≤ intMax) :
    calculateScaleLayout source bounds policy =
      .ok (resized source bounds (policy.scale source bounds)) := by
  have widthNonneg : 0 ≤ source.width * policy.scale source bounds :=
    mul_nonneg (by exact_mod_cast sourcePositive.width_pos.le) nonneg
  have heightNonneg : 0 ≤ source.height * policy.scale source bounds :=
    mul_nonneg (by exact_mod_cast sourcePositive.height_pos.le) nonneg
  have sideLe : ∀ {value : ℚ}, value ≤ intMax → scaledSide value ≤ intMax :=
    fun le => scaledSide_le (by decide) le
  have sideNonneg : ∀ value : ℚ, 0 ≤ scaledSide value :=
    fun value => zero_le_one.trans (one_le_scaledSide value)
  unfold calculateScaleLayout
  rw [if_neg (not_refused sourcePositive boundsPositive), listed]
  dsimp only
  rw [if_neg (by decide), if_neg unstretched, if_neg (not_or.mpr ⟨not_lt.mpr widthLe,
    not_lt.mpr heightLe⟩), roundedSide_eq widthNonneg widthLe, ok_bind,
    roundedSide_eq heightNonneg heightLe, ok_bind,
    halfMargin_eq boundsPositive.width_pos.le boundsPositive.width_le (sideNonneg _)
      (sideLe widthLe), ok_bind,
    halfMargin_eq boundsPositive.height_pos.le boundsPositive.height_le (sideNonneg _)
      (sideLe heightLe), ok_bind, if_neg uncut]
  rfl

theorem calculateScaleLayout_cut (sourcePositive : source.Positive)
    (boundsPositive : bounds.Positive) (cuts : policy = .crop ∨ policy = .noScale) :
    calculateScaleLayout source bounds policy =
      .ok (cut source bounds (policy = .crop)) := by
  have unstretched : policy ≠ .stretch := by rcases cuts with rfl | rfl <;> decide
  have listed : policy.isListed = true := by rcases cuts with rfl | rfl <;> rfl
  have scale : policy.scale source bounds = 1 := by rcases cuts with rfl | rfl <;> rfl
  have widthPos := sourcePositive.width_pos
  have widthLe := sourcePositive.width_le
  have heightPos := sourcePositive.height_pos
  have heightLe := sourcePositive.height_le
  have boundsWidthPos := boundsPositive.width_pos
  have boundsWidthLe := boundsPositive.width_le
  have boundsHeightPos := boundsPositive.height_pos
  have boundsHeightLe := boundsPositive.height_le
  have fits : ¬ ((source.width : ℚ) > intMax ∨ (source.height : ℚ) > intMax) := by
    rw [not_or, not_lt, not_lt]
    exact ⟨by exact_mod_cast widthLe, by exact_mod_cast heightLe⟩
  unfold calculateScaleLayout
  rw [if_neg (not_refused sourcePositive boundsPositive), listed]
  dsimp only
  rw [if_neg (by decide), if_neg unstretched, scale, mul_one, mul_one, if_neg fits,
    roundedSide_eq (by exact_mod_cast widthPos.le) (by exact_mod_cast widthLe), ok_bind,
    roundedSide_eq (by exact_mod_cast heightPos.le) (by exact_mod_cast heightLe), ok_bind,
    scaledSide_intCast widthPos, scaledSide_intCast heightPos,
    halfMargin_eq boundsWidthPos.le boundsWidthLe widthPos.le widthLe, ok_bind,
    halfMargin_eq boundsHeightPos.le boundsHeightLe heightPos.le heightLe, ok_bind, if_pos cuts]
  have widthMin : 0 ≤ min source.width bounds.width ∧ min source.width bounds.width ≤ intMax := by
    omega
  have heightMin :
      0 ≤ min source.height bounds.height ∧ min source.height bounds.height ≤ intMax := by
    omega
  rcases cuts with rfl | rfl
  · rw [if_pos rfl, halfMargin_eq boundsWidthPos.le boundsWidthLe widthMin.1 widthMin.2, ok_bind,
      halfMargin_eq boundsHeightPos.le boundsHeightLe heightMin.1 heightMin.2, ok_bind,
      halfMargin_eq widthPos.le widthLe widthMin.1 widthMin.2, ok_bind,
      halfMargin_eq heightPos.le heightLe heightMin.1 heightMin.2, ok_bind]
    rfl
  · rw [if_neg (by decide)]
    rfl

/-! ### Scales -/

theorem cast_pos (positive : source.Positive) :
    (0 : ℚ) < source.width ∧ (0 : ℚ) < source.height :=
  ⟨by exact_mod_cast positive.width_pos, by exact_mod_cast positive.height_pos⟩

theorem fit_scale_le (sourcePositive : source.Positive) (bounds : Extent) :
    source.width * ScalePolicy.fit.scale source bounds ≤ bounds.width ∧
      source.height * ScalePolicy.fit.scale source bounds ≤ bounds.height := by
  obtain ⟨widthPos, heightPos⟩ := cast_pos sourcePositive
  refine ⟨mul_min_ratio_le widthPos _, ?_⟩
  unfold ScalePolicy.scale
  dsimp only
  rw [min_comm]
  exact mul_min_ratio_le heightPos _

theorem le_fill_scale (sourcePositive : source.Positive) (bounds : Extent) :
    bounds.width ≤ source.width * ScalePolicy.fill.scale source bounds ∧
      bounds.height ≤ source.height * ScalePolicy.fill.scale source bounds := by
  obtain ⟨widthPos, heightPos⟩ := cast_pos sourcePositive
  refine ⟨le_mul_max_ratio widthPos _, ?_⟩
  unfold ScalePolicy.scale
  dsimp only
  rw [max_comm]
  exact le_mul_max_ratio heightPos _

theorem ratios_pos (sourcePositive : source.Positive) (boundsPositive : bounds.Positive) :
    (0 : ℚ) < bounds.width / source.width ∧ (0 : ℚ) < bounds.height / source.height := by
  obtain ⟨widthPos, heightPos⟩ := cast_pos sourcePositive
  obtain ⟨boundsWidthPos, boundsHeightPos⟩ := cast_pos boundsPositive
  exact ⟨div_pos boundsWidthPos widthPos, div_pos boundsHeightPos heightPos⟩

/-- The integer factor, and that it passes the bounds only where the source itself does. -/
theorem integerScale_scale (sourcePositive : source.Positive) (bounds : Extent) :
    ∃ factor : Int, 1 ≤ factor ∧ ScalePolicy.integerScale.scale source bounds = factor ∧
      (factor = 1 ∨
        (source.width * factor ≤ bounds.width ∧ source.height * factor ≤ bounds.height)) := by
  let ratio : ℚ := min (bounds.width / source.width) (bounds.height / source.height)
  have fits := fit_scale_le sourcePositive bounds
  obtain ⟨widthPos, heightPos⟩ := cast_pos sourcePositive
  refine ⟨max 1 ⌊ratio⌋, le_max_left _ _, ?_, ?_⟩
  · show max 1 (⌊ratio⌋ : ℚ) = ((max 1 ⌊ratio⌋ : Int) : ℚ)
    rw [Int.cast_max, Int.cast_one]
  · rcases le_total ⌊ratio⌋ 1 with small | large
    · exact Or.inl (max_eq_left small)
    · right
      have floorLe : (⌊ratio⌋ : ℚ) ≤ ratio := Int.floor_le ratio
      have width := (mul_le_mul_of_nonneg_left floorLe widthPos.le).trans fits.1
      have height := (mul_le_mul_of_nonneg_left floorLe heightPos.le).trans fits.2
      rw [max_eq_right large]
      exact ⟨by exact_mod_cast width, by exact_mod_cast height⟩

/-! ### The promises kept -/

theorem sides_inside (sourcePositive : source.Positive) :
    (⟨0, 0, source.width, source.height⟩ : Rect).Inside source where
  width_pos := sourcePositive.width_pos
  height_pos := sourcePositive.height_pos
  columns := ⟨le_rfl, by simp [Rect.columns]⟩
  rows := ⟨le_rfl, by simp [Rect.rows]⟩

theorem resized_inside (boundsPositive : bounds.Positive) {scale : ℚ}
    (widthLe : source.width * scale ≤ bounds.width)
    (heightLe : source.height * scale ≤ bounds.height) :
    (resized source bounds scale).destination.Inside bounds where
  width_pos := one_le_scaledSide _
  height_pos := one_le_scaledSide _
  columns := Span.centred_inside (scaledSide_le boundsPositive.width_pos widthLe)
  rows := Span.centred_inside (scaledSide_le boundsPositive.height_pos heightLe)

theorem resized_keeps_fit (sourcePositive : source.Positive) (boundsPositive : bounds.Positive) :
    (resized source bounds (ScalePolicy.fit.scale source bounds)).Keeps source bounds .fit := by
  obtain ⟨widthLe, heightLe⟩ := fit_scale_le sourcePositive bounds
  obtain ⟨widthPos, heightPos⟩ := cast_pos sourcePositive
  have centredColumns :=
    Span.centred_centred (scaledSide_le boundsPositive.width_pos widthLe)
  have centredRows :=
    Span.centred_centred (scaledSide_le boundsPositive.height_pos heightLe)
  refine ⟨resized_inside boundsPositive widthLe heightLe, ⟨centredColumns, centredRows⟩, ?_⟩
  have meets : source.width * ScalePolicy.fit.scale source bounds = bounds.width ∨
      source.height * ScalePolicy.fit.scale source bounds = bounds.height :=
    min_ratio_meets widthPos heightPos
  rcases meets with width | height
  · left
    exact (congrArg scaledSide width).trans (scaledSide_intCast boundsPositive.width_pos)
  · right
    exact (congrArg scaledSide height).trans (scaledSide_intCast boundsPositive.height_pos)

theorem resized_keeps_fill (sourcePositive : source.Positive) :
    (resized source bounds (ScalePolicy.fill.scale source bounds)).Keeps source bounds .fill := by
  obtain ⟨widthLe, heightLe⟩ := le_fill_scale sourcePositive bounds
  exact ⟨Span.centred_covers (le_scaledSide widthLe), Span.centred_covers (le_scaledSide heightLe)⟩

theorem resized_keeps_integerScale (sourcePositive : source.Positive)
    (boundsPositive : bounds.Positive) :
    (resized source bounds (ScalePolicy.integerScale.scale source bounds)).Keeps source bounds
      .integerScale := by
  obtain ⟨factor, positive, scale, within⟩ := integerScale_scale sourcePositive bounds
  have sideEq : ∀ {side : Int}, 0 < side → scaledSide (side * (factor : ℚ)) = factor * side := by
    intro side sidePos
    rw [← Int.cast_mul, scaledSide_intCast (mul_pos sidePos positive), mul_comm]
  rw [scale]
  refine ⟨⟨factor, positive, sideEq sourcePositive.width_pos, sideEq sourcePositive.height_pos⟩,
    ?_⟩
  intro widthFits heightFits
  have fits : source.width * factor ≤ bounds.width ∧ source.height * factor ≤ bounds.height := by
    rcases within with rfl | within
    · exact ⟨by omega, by omega⟩
    · exact within
  exact resized_inside boundsPositive (by exact_mod_cast fits.1) (by exact_mod_cast fits.2)

theorem cut_cuts (sourcePositive : source.Positive) (boundsPositive : bounds.Positive)
    (centred : Bool) : (cut source bounds centred).Cuts source bounds := by
  have widthPos := lt_min sourcePositive.width_pos boundsPositive.width_pos
  have heightPos := lt_min sourcePositive.height_pos boundsPositive.height_pos
  cases centred with
  | true =>
      exact
        { width := rfl
          height := rfl
          source := ⟨widthPos, heightPos, Span.centred_inside (min_le_left _ _),
            Span.centred_inside (min_le_left _ _)⟩
          destination := ⟨widthPos, heightPos, Span.centred_inside (min_le_right _ _),
            Span.centred_inside (min_le_right _ _)⟩ }
  | false =>
      have corner : ∀ {length bound : Int}, length ≤ bound → (⟨0, length⟩ : Span).Inside bound :=
        fun le => ⟨le_rfl, (zero_add _).trans_le le⟩
      exact
        { width := rfl
          height := rfl
          source := ⟨widthPos, heightPos, corner (min_le_left _ _), corner (min_le_left _ _)⟩
          destination :=
            ⟨widthPos, heightPos, corner (min_le_right _ _), corner (min_le_right _ _)⟩ }

/-- The only policy whose sides can leave `int` is `Fill`. -/
def TooLarge (policy : ScalePolicy) (source bounds : Extent) : Prop :=
  policy = .fill ∧ (source.width * policy.scale source bounds > intMax ∨
    source.height * policy.scale source bounds > intMax)

theorem calculateScaleLayout_keeps (sourcePositive : source.Positive)
    (boundsPositive : bounds.Positive) (listed : policy.isListed = true)
    (fits : ¬ TooLarge policy source bounds) :
    ∃ layout, calculateScaleLayout source bounds policy = .ok layout ∧ layout.canvas = bounds ∧
      layout.source.Inside source ∧ layout.Keeps source bounds policy := by
  have boundsWidthLe : (bounds.width : ℚ) ≤ intMax := by exact_mod_cast boundsPositive.width_le
  have boundsHeightLe : (bounds.height : ℚ) ≤ intMax := by exact_mod_cast boundsPositive.height_le
  obtain ⟨columns, rows⟩ := ratios_pos sourcePositive boundsPositive
  have inside := sides_inside sourcePositive
  cases policy with
  | fit =>
      obtain ⟨widthLe, heightLe⟩ := fit_scale_le sourcePositive bounds
      exact ⟨_, calculateScaleLayout_resized sourcePositive boundsPositive rfl (by decide)
          (by decide) (le_min columns.le rows.le) (widthLe.trans boundsWidthLe)
          (heightLe.trans boundsHeightLe), rfl, inside,
        resized_keeps_fit sourcePositive boundsPositive⟩
  | fill =>
      obtain ⟨widthLe, heightLe⟩ := not_or.mp (not_and.mp fits rfl)
      exact ⟨_, calculateScaleLayout_resized sourcePositive boundsPositive rfl (by decide)
          (by decide) (columns.le.trans (le_max_left _ _)) (not_lt.mp widthLe)
          (not_lt.mp heightLe), rfl, inside, resized_keeps_fill sourcePositive⟩
  | stretch =>
      exact ⟨_, calculateScaleLayout_stretch sourcePositive boundsPositive, rfl, inside, rfl⟩
  | integerScale =>
      obtain ⟨factor, positive, scale, within⟩ := integerScale_scale sourcePositive bounds
      have sides : source.width * factor ≤ intMax ∧ source.height * factor ≤ intMax := by
        rcases within with rfl | ⟨width, height⟩
        · rw [mul_one, mul_one]
          exact ⟨sourcePositive.width_le, sourcePositive.height_le⟩
        · exact ⟨width.trans boundsPositive.width_le, height.trans boundsPositive.height_le⟩
      have nonneg : 0 ≤ ScalePolicy.integerScale.scale source bounds := by
        rw [scale]
        exact_mod_cast zero_le_one.trans positive
      exact ⟨_, calculateScaleLayout_resized sourcePositive boundsPositive rfl (by decide)
          (by decide) nonneg (by rw [scale]; exact_mod_cast sides.1)
          (by rw [scale]; exact_mod_cast sides.2), rfl, inside,
        resized_keeps_integerScale sourcePositive boundsPositive⟩
  | crop =>
      have cuts := cut_cuts sourcePositive boundsPositive true
      exact ⟨_, calculateScaleLayout_cut sourcePositive boundsPositive (Or.inl rfl), rfl,
        cuts.source, cuts⟩
  | noScale =>
      have cuts := cut_cuts sourcePositive boundsPositive false
      exact ⟨_, calculateScaleLayout_cut sourcePositive boundsPositive (Or.inr rfl), rfl,
        cuts.source, cuts⟩
  | unlisted value => cases listed

theorem calculateScaleLayout_empty (sourcePositive : source.Positive)
    (boundsPositive : bounds.Positive)
    (empty : policy.isListed = false ∨ TooLarge policy source bounds) :
    calculateScaleLayout source bounds policy = .ok {} := by
  rcases empty with unlisted | ⟨rfl, large⟩
  · cases policy with
    | unlisted value => exact calculateScaleLayout_unlisted sourcePositive boundsPositive value
    | _ => cases unlisted
  · exact calculateScaleLayout_tooLarge sourcePositive boundsPositive (by decide) large

/-- No `int` expression overflows, and a layout that is not empty is one the policy promises. -/
theorem scaleLayout_keeps_policy (sourcePositive : source.Positive)
    (boundsPositive : bounds.Positive) (policy : ScalePolicy) :
    ∃ layout, calculateScaleLayout source bounds policy = .ok layout ∧
      (layout ≠ {} → layout.canvas = bounds ∧ layout.source.Inside source ∧
        layout.Keeps source bounds policy) := by
  by_cases empty : policy.isListed = false ∨ TooLarge policy source bounds
  · exact ⟨{}, calculateScaleLayout_empty sourcePositive boundsPositive empty,
      fun remains => absurd rfl remains⟩
  · obtain ⟨listed, fits⟩ := not_or.mp empty
    obtain ⟨layout, evaluated, promises⟩ := calculateScaleLayout_keeps sourcePositive
      boundsPositive (Bool.not_eq_false _ ▸ listed) fits
    exact ⟨layout, evaluated, fun _ => promises⟩

end Layouts

example : calculateScaleLayout ⟨1920, 1080⟩ ⟨1000, 1000⟩ .fill = .ok
    { source := ⟨0, 0, 1920, 1080⟩
      destination := ⟨-389, 0, 1778, 1000⟩
      canvas := ⟨1000, 1000⟩ } := by decide +kernel

/-- A wide picture on a square canvas. -/
theorem scaleLayout_keeps_policy_wide :
    ∃ layout, calculateScaleLayout ⟨1920, 1080⟩ ⟨1000, 1000⟩ .fit = .ok layout ∧
      (layout ≠ {} → layout.canvas = ⟨1000, 1000⟩ ∧ layout.source.Inside ⟨1920, 1080⟩ ∧
        layout.Keeps ⟨1920, 1080⟩ ⟨1000, 1000⟩ .fit) :=
  scaleLayout_keeps_policy ⟨by decide, by decide, by decide, by decide⟩
    ⟨by decide, by decide, by decide, by decide⟩ .fit

end Rasterm
