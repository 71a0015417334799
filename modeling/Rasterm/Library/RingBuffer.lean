import Mathlib.Data.List.Basic

/-!
Contract: a ring of cells that keeps the newest elements, written at a cursor that wraps around.

Owns the push and the restart, and which of the elements pushed since the last restart the
filled cells hold.

Does not own what is done with them: a reader of the filled cells sees them in any order.
-/

set_option autoImplicit false

universe u

/-- Cells, the next one to write, and how many hold something; what a restart leaves in the
cells is not read again. -/
structure RingBuffer (α : Type u) (capacity : Nat) where
  cells : List α
  cursor : Nat
  count : Nat
  length_cells : cells.length = capacity
  cursor_lt : cursor < capacity
  count_le : count ≤ capacity
  /-- Until the ring has gone around once. -/
  cursor_eq : count < capacity → cursor = count

namespace RingBuffer

variable {α : Type u} {capacity : Nat}

def make (positive : 0 < capacity) (filler : α) : RingBuffer α capacity where
  cells := List.replicate capacity filler
  cursor := 0
  count := 0
  length_cells := List.length_replicate
  cursor_lt := positive
  count_le := Nat.zero_le capacity
  cursor_eq := fun _ => rfl

def restart (ring : RingBuffer α capacity) : RingBuffer α capacity :=
  { ring with
    cursor := 0
    count := 0
    cursor_lt := Nat.zero_lt_of_lt ring.cursor_lt
    count_le := Nat.zero_le capacity
    cursor_eq := fun _ => rfl }

def push (ring : RingBuffer α capacity) (element : α) : RingBuffer α capacity where
  cells := ring.cells.set ring.cursor element
  cursor := (ring.cursor + 1) % capacity
  count := min (ring.count + 1) capacity
  length_cells := by rw [List.length_set, ring.length_cells]
  cursor_lt := Nat.mod_lt _ (Nat.zero_lt_of_lt ring.cursor_lt)
  count_le := Nat.min_le_right _ _
  cursor_eq := by
    intro below
    have before := ring.cursor_eq (by omega)
    rw [before, Nat.mod_eq_of_lt (by omega)]
    omega

/-- The filled cells. -/
def filled (ring : RingBuffer α capacity) : List α := ring.cells.take ring.count

theorem length_filled (ring : RingBuffer α capacity) : ring.filled.length = ring.count := by
  rw [filled, List.length_take, ring.length_cells, Nat.min_eq_left ring.count_le]

/-! ### What the cells hold -/

/-- `pushed` are the elements since the last restart, newest first: the newest lie in front of the
cursor, oldest first, and in a full ring those before them from the cursor on. -/
structure Holds (ring : RingBuffer α capacity) (pushed : List α) : Prop where
  count : ring.count = min pushed.length capacity
  front : ring.cells.take ring.cursor = (pushed.take ring.cursor).reverse
  back : ring.count = capacity →
    ring.cells.drop ring.cursor = ((pushed.take capacity).drop ring.cursor).reverse

variable {ring : RingBuffer α capacity} {pushed : List α}

theorem holds_make (positive : 0 < capacity) (filler : α) : (make positive filler).Holds [] where
  count := (Nat.zero_min capacity).symm
  front := rfl
  back := fun full => absurd full (Nat.ne_of_lt positive)

theorem holds_restart (ring : RingBuffer α capacity) : ring.restart.Holds [] where
  count := (Nat.zero_min capacity).symm
  front := rfl
  back := fun full => absurd full (Nat.ne_of_lt (Nat.zero_lt_of_lt ring.cursor_lt))

/-- The cells in front of the written one, with it. -/
theorem Holds.written (holds : ring.Holds pushed) (element : α) :
    (ring.cells.set ring.cursor element).take (ring.cursor + 1) =
      ((element :: pushed).take (ring.cursor + 1)).reverse := by
  have inside : ring.cursor < (ring.cells.set ring.cursor element).length := by
    rw [List.length_set, ring.length_cells]
    exact ring.cursor_lt
  rw [List.take_succ_eq_append_getElem inside, List.getElem_set_self,
    List.take_set_of_le (Nat.le_refl _), holds.front, List.take_succ_cons, List.reverse_cons]

/-- Without its last element, a part of a list ends one place earlier. -/
private theorem dropLast_drop_take (list : List α) (start total : Nat)
    (fits : total < list.length) :
    ((list.take (total + 1)).drop start).dropLast = (list.take total).drop start := by
  rw [List.dropLast_eq_take, List.length_drop, List.length_take, List.take_drop, List.take_take]
  rcases Nat.lt_or_ge total start with outside | inside
  · rw [List.drop_eq_nil_of_le, List.drop_eq_nil_of_le]
    · rw [List.length_take]
      omega
    · rw [List.length_take]
      omega
  · congr 2
    omega

/-- Behind the written cell lie the older elements, but for the one it held. -/
theorem Holds.kept (holds : ring.Holds pushed) (full : ring.count = capacity) (element : α) :
    (ring.cells.set ring.cursor element).drop (ring.cursor + 1) =
      (((element :: pushed).take capacity).drop (ring.cursor + 1)).reverse := by
  have enough : capacity ≤ pushed.length := by
    have counted := holds.count
    omega
  have shorter := dropLast_drop_take pushed ring.cursor (capacity - 1)
    (by have := ring.cursor_lt; omega)
  rw [Nat.sub_add_cancel (Nat.one_le_of_lt ring.cursor_lt)] at shorter
  rw [List.drop_set_of_lt (Nat.lt_succ_self _), ← List.tail_drop, holds.back full,
    List.tail_reverse, shorter, List.take_cons (Nat.zero_lt_of_lt ring.cursor_lt),
    List.drop_succ_cons]

theorem Holds.push (holds : ring.Holds pushed) (element : α) :
    (ring.push element).Holds (element :: pushed) := by
  have counted := holds.count
  have inside := ring.cursor_lt
  have filled : (ring.push element).count = min (ring.count + 1) capacity := rfl
  have cells : (ring.push element).cells = ring.cells.set ring.cursor element := rfl
  have moved : (ring.push element).cursor = (ring.cursor + 1) % capacity := rfl
  rcases Nat.lt_or_eq_of_le (Nat.succ_le_of_lt inside) with further | around
  · rw [Nat.succ_eq_add_one] at further
    rw [Nat.mod_eq_of_lt further] at moved
    constructor
    · rw [filled, List.length_cons]
      omega
    · rw [cells, moved]
      exact holds.written element
    · intro full
      have before : ring.count = capacity := by
        by_contra partly
        have same := ring.cursor_eq (Nat.lt_of_le_of_ne ring.count_le partly)
        omega
      rw [cells, moved]
      exact holds.kept before element
  · rw [Nat.succ_eq_add_one] at around
    have wrapped : (ring.push element).cursor = 0 := by rw [moved, around, Nat.mod_self]
    constructor
    · rw [filled, List.length_cons]
      omega
    · rw [wrapped]
      rfl
    · intro _
      have whole : (ring.cells.set ring.cursor element).take (ring.cursor + 1) =
          ring.cells.set ring.cursor element :=
        List.take_of_length_le
          (Nat.le_of_eq (by rw [List.length_set, ring.length_cells, around]))
      have written := holds.written element
      rw [whole, around] at written
      rw [cells, wrapped, List.drop_zero, List.drop_zero, written]

/-- In some order, the filled cells hold the newest elements. -/
theorem Holds.perm_filled (holds : ring.Holds pushed) :
    ring.filled.Perm (pushed.take capacity) := by
  rcases Nat.lt_or_eq_of_le ring.count_le with partly | full
  · have same := ring.cursor_eq partly
    have counted := holds.count
    have front := holds.front
    rw [same] at front
    rw [filled, front, List.take_of_length_le (by omega : pushed.length ≤ ring.count),
      List.take_of_length_le (by omega : pushed.length ≤ capacity)]
    exact List.reverse_perm pushed
  · have first : (ring.cells.take ring.cursor).Perm ((pushed.take capacity).take ring.cursor) := by
      rw [holds.front, List.take_take, Nat.min_eq_left (Nat.le_of_lt ring.cursor_lt)]
      exact List.reverse_perm _
    have second : (ring.cells.drop ring.cursor).Perm
        ((pushed.take capacity).drop ring.cursor) := by
      rw [holds.back full]
      exact List.reverse_perm _
    have all := first.append second
    rw [List.take_append_drop, List.take_append_drop] at all
    rw [filled, List.take_of_length_le (Nat.le_of_eq (by rw [ring.length_cells, full]))]
    exact all

end RingBuffer
