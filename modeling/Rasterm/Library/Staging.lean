import Mathlib.Tactic.Common
import Mathlib.Data.List.GetD

/-!
Contract: a growable vector that is cleared and filled again for every user, and read
later through a pointer into it.

Owns the storage a vector sits in, which it leaves when it needs more room, what a
pointer taken earlier reads, and when that is still what was put there.

Does not own what lies where no element is; a read there yields whatever it is told.
-/

set_option autoImplicit false

universe u

/-- A vector with the place of its storage. -/
structure Staging (Element : Type u) where
  storage : Nat := 0
  capacity : Nat := 0
  elements : List Element := []
  fits : elements.length ≤ capacity := by exact Nat.zero_le _

namespace Staging

variable {Element : Type u}

theorem fits_nil : ([] : List Element).length ≤ 0 := Nat.le_refl 0

/-- Nothing has been put in yet. -/
def empty : Staging Element where
  fits := fits_nil

/-- `clear`. -/
def clear (vector : Staging Element) : Staging Element :=
  { vector with
    elements := []
    fits := Nat.zero_le _ }

/-- `reserve` does not have to allocate. -/
def hasRoom (vector : Staging Element) (count : Nat) : Bool :=
  count ≤ vector.capacity

/-- `clear`, `reserve`, and every element appended. -/
def fill (vector : Staging Element) (values : List Element) : Staging Element :=
  { storage := if vector.hasRoom values.length then vector.storage else vector.storage + 1
    capacity := max vector.capacity values.length
    elements := values
    fits := Nat.le_max_right _ _ }

/-- The element at an index of the storage it was in when the pointer was taken. -/
def read (vector : Staging Element) (storage : Nat) (stray : Nat → Element) (index : Nat) :
    Element :=
  if storage = vector.storage then vector.elements.getD index (stray index) else stray index

/-- A pointer taken at that storage reads these values. -/
def Holds (vector : Staging Element) (storage : Nat) (values : List Element) : Prop :=
  vector.storage = storage ∧ vector.elements = values

theorem holds_fill (vector : Staging Element) (values : List Element) :
    (vector.fill values).Holds (vector.fill values).storage values :=
  ⟨rfl, rfl⟩

/-- The same values put in again stay where they are. -/
theorem Holds.fill {vector : Staging Element} {storage : Nat} {values : List Element}
    (holds : vector.Holds storage values) : (vector.fill values).Holds storage values := by
  obtain ⟨same, elements⟩ := holds
  refine ⟨?_, rfl⟩
  have room : vector.hasRoom values.length = true := by
    rw [← elements]
    exact decide_eq_true vector.fits
  rw [Staging.fill, if_pos room]
  exact same

theorem Holds.read {vector : Staging Element} {storage : Nat} {values : List Element}
    (holds : vector.Holds storage values) (stray : Nat → Element) :
    (List.range values.length).map (vector.read storage stray) = values := by
  obtain ⟨same, elements⟩ := holds
  apply List.ext_getElem
  · simp
  · intro index _ inside
    rw [List.getElem_map, List.getElem_range, Staging.read, if_pos same.symm, elements,
      List.getD_eq_getElem _ _ inside]

end Staging
