import Mathlib.Tactic.Common
import Mathlib.Algebra.Order.Field.Rat

/-!
Contract: what travels with a frame besides its pixels: colour metadata, the
damage list and the identification fields; and the options colour metadata is
read under.

A damage list is a pointer and a count, as the caller passes it; `rects` is the
list it denotes. Floating-point fields keep exactly what the code asks of them,
equality and finiteness.
-/

set_option autoImplicit false

namespace Rasterm

def intMax : Int := 2 ^ 31 - 1

/-- The value of an expression of type `int` whose evaluation is defined. -/
def InInt (value : Int) : Prop := -intMax - 1 ≤ value ∧ value ≤ intMax

def ptrdiffMax : Int := 2 ^ 63 - 1

def sizeMax : Int := 2 ^ 64 - 1

/-- A floating-point value as far as validation and caching look at it. -/
inductive FloatValue where
  | finite (value : Rat)
  | infinite (negative : Bool)
  | nan
deriving DecidableEq, Repr

namespace FloatValue

def isFinite : FloatValue → Bool
  | .finite _ => true
  | _ => false

/-- `==` of the language: a NaN differs from itself. -/
def equals : FloatValue → FloatValue → Bool
  | .finite left, .finite right => left == right
  | .infinite left, .infinite right => left == right
  | _, _ => false

def isPositive : FloatValue → Bool
  | .finite value => decide (0 < value)
  | .infinite negative => !negative
  | .nan => false

theorem eq_of_equals {left right : FloatValue} (same : left.equals right = true) :
    left = right := by
  cases left <;> cases right <;> simp_all [equals]

end FloatValue

inductive ColorPrimaries where
  | unspecified | bt709 | bt2020 | displayP3
  | unlisted (value : Int)
deriving DecidableEq, Repr

inductive TransferFunction where
  | unspecified | srgb | linear | bt709 | gamma22 | pq | hlg
  | unlisted (value : Int)
deriving DecidableEq, Repr

inductive MatrixCoefficients where
  | unspecified | identity | bt601 | bt709 | bt2020NonConstant
  | unlisted (value : Int)
deriving DecidableEq, Repr

inductive ColorRange where
  | unspecified | limited | full
  | unlisted (value : Int)
deriving DecidableEq, Repr

inductive ToneMapOperator where
  | none | reinhard | hable | aces
  | unlisted (value : Int)
deriving DecidableEq, Repr

inductive DitherMode where
  | none | orderedBayer4x4 | floydSteinberg
  | unlisted (value : Int)
deriving DecidableEq, Repr

structure ColorMetadata where
  primaries : ColorPrimaries := .bt709
  transfer : TransferFunction := .srgb
  matrix : MatrixCoefficients := .identity
  range : ColorRange := .full
  referenceWhiteNits : FloatValue := .finite 203
  masteringPeakNits : FloatValue := .finite 1000
deriving DecidableEq, Repr

structure ColorOptions where
  convertToSrgb : Bool := true
  toneMap : ToneMapOperator := .aces
  outputPeakNits : FloatValue := .finite 203
  realtimeDither : DitherMode := .none
  adaptivePaletteLockFrames : Int := 12
  sceneCutThreshold : FloatValue := .finite (3 / 10)
deriving DecidableEq, Repr

structure DamageRect where
  x : Int := 0
  y : Int := 0
  width : Int := 0
  height : Int := 0
deriving DecidableEq, Repr, Inhabited

abbrev DamageRegion := DamageRect

namespace DamageRect

def isValid (rectangle : DamageRect) : Bool := 0 < rectangle.width && 0 < rectangle.height

/-- The pixels a rectangle covers. -/
def Contains (rectangle : DamageRect) (x y : Int) : Prop :=
  rectangle.x ≤ x ∧ x < rectangle.x + rectangle.width ∧
    rectangle.y ≤ y ∧ y < rectangle.y + rectangle.height

instance (rectangle : DamageRect) (x y : Int) : Decidable (rectangle.Contains x y) := by
  unfold Contains
  infer_instance

end DamageRect

/-- Some rectangle of the list covers the pixel. -/
def Covers (regions : List DamageRect) (x y : Int) : Prop :=
  ∃ region ∈ regions, region.Contains x y

instance (regions : List DamageRect) (x y : Int) : Decidable (Covers regions x y) := by
  unfold Covers
  infer_instance

@[simp] theorem not_covers_nil (x y : Int) : ¬ Covers [] x y := by
  simp [Covers]

theorem covers_append {left right : List DamageRect} {x y : Int} :
    Covers (left ++ right) x y ↔ Covers left x y ∨ Covers right x y := by
  simp [Covers, or_and_right, exists_or]

theorem covers_cons {region : DamageRect} {regions : List DamageRect} {x y : Int} :
    Covers (region :: regions) x y ↔ region.Contains x y ∨ Covers regions x y := by
  simp [Covers]

@[simp] theorem covers_singleton {region : DamageRect} {x y : Int} :
    Covers [region] x y ↔ region.Contains x y := by
  simp [Covers]

/-- No pixel lies in both rectangles. -/
def DamageRect.Apart (left right : DamageRect) : Prop :=
  ∀ x y, left.Contains x y → ¬ right.Contains x y

theorem DamageRect.Apart.symm {left right : DamageRect} (apart : left.Apart right) :
    right.Apart left :=
  fun x y inRight inLeft => apart x y inLeft inRight

structure DamageView where
  rectangles : Option (Nat → DamageRect) := none
  count : Nat := 0
  supplied : Bool := false

namespace DamageView

/-- The list a pointer and a count denote. -/
def rects (damage : DamageView) : List DamageRect :=
  match damage.rectangles with
  | some rectangles => (List.range damage.count).map rectangles
  | none => []

def rectangleIsValidFor (rectangle : DamageRect) (frameWidth frameHeight : Int) : Bool :=
  !(!rectangle.isValid || rectangle.x < 0 || rectangle.y < 0 ||
    rectangle.x > frameWidth || rectangle.y > frameHeight ||
    rectangle.width > frameWidth - rectangle.x ||
    rectangle.height > frameHeight - rectangle.y)

def isValidFor (damage : DamageView) (frameWidth frameHeight : Int) : Bool :=
  if frameWidth ≤ 0 || frameHeight ≤ 0 then false
  else if !damage.supplied then damage.rectangles.isNone && damage.count == 0
  else if damage.count > 0 && damage.rectangles.isNone then false
  else damage.rects.all fun rectangle =>
    rectangleIsValidFor rectangle frameWidth frameHeight

/-- A view of a list held by the library itself. -/
def ofList (regions : List DamageRect) (supplied : Bool) : DamageView :=
  { rectangles := if regions.isEmpty then none else some fun index => regions.getD index {}
    count := regions.length
    supplied := supplied }

@[simp] theorem rects_ofList (regions : List DamageRect) (supplied : Bool) :
    (ofList regions supplied).rects = regions := by
  cases regions with
  | nil => rfl
  | cons head tail =>
      simp only [rects, ofList, List.isEmpty_cons, Bool.false_eq_true, ↓reduceIte]
      apply List.ext_getElem
      · simp
      · intro index inside _
        simp only [List.length_map, List.length_range] at inside
        simp [List.getElem?_eq_getElem inside]

@[simp] theorem supplied_ofList (regions : List DamageRect) (supplied : Bool) :
    (ofList regions supplied).supplied = supplied := rfl

end DamageView

/-- A rectangle of positive size inside the frame. -/
structure DamageRect.Inside (rectangle : DamageRect) (frameWidth frameHeight : Int) : Prop where
  x_nonneg : 0 ≤ rectangle.x
  y_nonneg : 0 ≤ rectangle.y
  width_pos : 0 < rectangle.width
  height_pos : 0 < rectangle.height
  right_le : rectangle.x + rectangle.width ≤ frameWidth
  bottom_le : rectangle.y + rectangle.height ≤ frameHeight

theorem DamageView.rectangleIsValidFor_iff {rectangle : DamageRect}
    {frameWidth frameHeight : Int} :
    rectangleIsValidFor rectangle frameWidth frameHeight = true ↔
      rectangle.Inside frameWidth frameHeight := by
  simp only [rectangleIsValidFor, DamageRect.isValid, Bool.not_eq_true', Bool.or_eq_false_iff,
    Bool.not_eq_false', Bool.and_eq_true, decide_eq_true_eq, decide_eq_false_iff_not]
  constructor
  · rintro ⟨⟨⟨⟨⟨⟨⟨widthPos, heightPos⟩, xNonneg⟩, yNonneg⟩, -⟩, -⟩, right⟩, bottom⟩
    exact ⟨by omega, by omega, widthPos, heightPos, by omega, by omega⟩
  · rintro ⟨xNonneg, yNonneg, widthPos, heightPos, right, bottom⟩
    refine ⟨⟨⟨⟨⟨⟨⟨widthPos, heightPos⟩, ?_⟩, ?_⟩, ?_⟩, ?_⟩, ?_⟩, ?_⟩ <;> omega

/-- Every rectangle of an accepted damage list lies inside the frame. -/
theorem DamageView.inside_of_isValidFor {damage : DamageView} {frameWidth frameHeight : Int}
    (valid : damage.isValidFor frameWidth frameHeight = true) :
    ∀ rectangle ∈ damage.rects, rectangle.Inside frameWidth frameHeight := by
  intro rectangle member
  unfold isValidFor at valid
  split_ifs at valid with extent unsupplied missing
  · simp only [Bool.and_eq_true, Option.isNone_iff_eq_none] at valid
    simp [rects, valid.1] at member
  · exact rectangleIsValidFor_iff.mp (List.all_eq_true.mp valid rectangle member)

def unknownTimestamp : Int := -2 ^ 63

structure FrameMetadata where
  frameId : Nat := 0
  timestampNanoseconds : Int := unknownTimestamp
  color : ColorMetadata := {}
  sourceColor : ColorMetadata :=
    { primaries := .unspecified, transfer := .unspecified, matrix := .unspecified,
      range := .unspecified }
  damage : DamageView := {}

end Rasterm
