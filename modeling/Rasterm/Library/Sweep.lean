import Mathlib.Data.Nat.Init
import Mathlib.Tactic.Common

/-!
Contract: one pass over a memory, cell by cell, in which each step settles its own cell
and may change cells that come later.

Owns: cells stay as their step left them, they have the property that steps establish,
and a pass over cells that have it changes nothing, so that a second pass is idle.

Does not own what a step does to later cells.
-/

set_option autoImplicit false

universe u

namespace Sweep

variable {Cell : Type u}

/-- The memory after the steps of the first cells. -/
def upTo (step : Nat → (Nat → Cell) → Nat → Cell) (memory : Nat → Cell) : Nat → Nat → Cell
  | 0 => memory
  | count + 1 => step count (upTo step memory count)

variable {step : Nat → (Nat → Cell) → Nat → Cell} {property : Cell → Prop} {size : Nat}

theorem upTo_eq_foldl (step : Nat → (Nat → Cell) → Nat → Cell) (memory : Nat → Cell)
    (count : Nat) :
    upTo step memory count =
      (List.range count).foldl (fun memory index => step index memory) memory := by
  induction count with
  | zero => rfl
  | succ count inductionHypothesis =>
      rw [List.range_succ, List.foldl_append, ← inductionHypothesis]
      rfl

/-- A step leaves the cells before its own alone. -/
def Forward (step : Nat → (Nat → Cell) → Nat → Cell) (size : Nat) : Prop :=
  ∀ index < size, ∀ memory earlier, earlier < index → step index memory earlier = memory earlier

/-- A step gives its own cell the property. -/
def Establishes (step : Nat → (Nat → Cell) → Nat → Cell) (size : Nat) (property : Cell → Prop) :
    Prop :=
  ∀ index < size, ∀ memory, property (step index memory index)

/-- A step at a cell that has the property changes nothing. -/
def Idle (step : Nat → (Nat → Cell) → Nat → Cell) (size : Nat) (property : Cell → Prop) : Prop :=
  ∀ index < size, ∀ memory, property (memory index) → step index memory = memory

/-- Once its step is done, a cell is not changed again. -/
theorem settled (forward : Forward step size) (memory : Nat → Cell) {count later : Nat}
    (order : count ≤ later) (inside : later ≤ size) {index : Nat} (done : index < count) :
    upTo step memory later index = upTo step memory count index := by
  induction later, order using Nat.le_induction with
  | base => rfl
  | succ later order inductionHypothesis =>
      rw [upTo, forward later (by omega) _ index (by omega)]
      exact inductionHypothesis (by omega)

/-- The cells whose steps are done have the property. -/
theorem establishes (forward : Forward step size) (establish : Establishes step size property)
    (memory : Nat → Cell) {count : Nat} (inside : count ≤ size) {index : Nat}
    (done : index < count) : property (upTo step memory count index) := by
  have own : property (upTo step memory (index + 1) index) :=
    establish index (by omega) (upTo step memory index)
  rw [settled forward memory done inside (Nat.lt_succ_self index)]
  exact own

/-- A pass over cells that all have the property changes nothing. -/
theorem fixes (idle : Idle step size property) {memory : Nat → Cell}
    (holds : ∀ index < size, property (memory index)) {count : Nat} (inside : count ≤ size) :
    upTo step memory count = memory := by
  induction count with
  | zero => rfl
  | succ count inductionHypothesis =>
      rw [upTo, inductionHypothesis (by omega)]
      exact idle count (by omega) memory (holds count (by omega))

theorem idempotent (forward : Forward step size) (establish : Establishes step size property)
    (idle : Idle step size property) (memory : Nat → Cell) :
    upTo step (upTo step memory size) size = upTo step memory size :=
  fixes idle (fun _ done => establishes forward establish memory (Nat.le_refl size) done)
    (Nat.le_refl size)

end Sweep
