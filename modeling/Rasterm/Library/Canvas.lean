import Mathlib.Data.List.Basic
import Mathlib.Tactic.Ring

/-!
Contract: a linear store of equally long cells laid out in rows, overwritten one
cell after the other.

Owns the write of consecutive slots, the fill of a rectangle of cells, and what
each slot holds afterwards: the new content inside the rectangle, the old content
everywhere else.

Does not own any meaning of the slots.
-/

set_option autoImplicit false

namespace Canvas

variable {α : Type}

/-- Overwrite consecutive slots. -/
def write (buffer : Nat → α) (offset : Nat) (content : List α) : Nat → α :=
  fun slot => if offset ≤ slot then content.getD (slot - offset) (buffer slot) else buffer slot

/-- The first slot of a cell. -/
def place (rowLength cellLength column row : Nat) : Nat := row * rowLength + column * cellLength

/-- Overwrite the cells of a rectangle, row by row. -/
def fill (cell : Nat → Nat → List α) (rowLength cellLength left top width height : Nat)
    (buffer : Nat → α) : Nat → α :=
  (List.range height).foldl (fun rows row =>
    (List.range width).foldl (fun cells column =>
      write cells (place rowLength cellLength (left + column) (top + row))
        (cell (left + column) (top + row))) rows) buffer

theorem write_of_lt (buffer : Nat → α) {offset slot : Nat} (content : List α)
    (before : slot < offset) : write buffer offset content slot = buffer slot :=
  if_neg (Nat.not_le.mpr before)

theorem write_of_ge (buffer : Nat → α) {offset slot : Nat} {content : List α}
    (after : offset + content.length ≤ slot) : write buffer offset content slot = buffer slot := by
  unfold write
  rw [if_pos (by omega), List.getD_eq_getElem?_getD, List.getElem?_eq_none (by omega)]
  rfl

theorem write_inside (buffer : Nat → α) {offset index : Nat} {content : List α} {value : α}
    (found : content[index]? = some value) :
    write buffer offset content (offset + index) = value := by
  unfold write
  rw [if_pos (Nat.le_add_right _ _), Nat.add_sub_cancel_left, List.getD_eq_getElem?_getD, found]
  rfl

/-! ### Where cells lie -/

/-- Cells of one row do not reach into the next. -/
structure Fits (rowLength cellLength columns : Nat) : Prop where
  cell_pos : 0 < cellLength
  row_le : columns * cellLength ≤ rowLength

variable {rowLength cellLength columns : Nat}

/-- Two cells share no slot. -/
theorem Fits.apart (fits : Fits rowLength cellLength columns) {x y column row index slot : Nat}
    (xInside : x < columns) (columnInside : column < columns) (indexInside : index < cellLength)
    (other : (column, row) ≠ (x, y))
    (same : slot = place rowLength cellLength x y + index) :
    slot < place rowLength cellLength column row ∨
      place rowLength cellLength column row + cellLength ≤ slot := by
  have width : ∀ {c : Nat}, c < columns → c * cellLength + cellLength ≤ rowLength := by
    intro c inside
    calc c * cellLength + cellLength = (c + 1) * cellLength := by ring
      _ ≤ columns * cellLength := Nat.mul_le_mul_right _ inside
      _ ≤ rowLength := fits.row_le
  have rows : ∀ {first second : Nat}, first < second →
      first * rowLength + rowLength ≤ second * rowLength := by
    intro first second below
    calc first * rowLength + rowLength = (first + 1) * rowLength := by ring
      _ ≤ second * rowLength := Nat.mul_le_mul_right _ below
  have cells : ∀ {first second : Nat}, first < second →
      first * cellLength + cellLength ≤ second * cellLength := by
    intro first second below
    calc first * cellLength + cellLength = (first + 1) * cellLength := by ring
      _ ≤ second * cellLength := Nat.mul_le_mul_right _ below
  have xWidth := width xInside
  have columnWidth := width columnInside
  simp only [place] at same ⊢
  rcases Nat.lt_trichotomy row y with above | level | below
  · have gap := rows above
    right
    omega
  · subst level
    rcases Nat.lt_trichotomy column x with left | here | right
    · have gap := cells left
      right
      omega
    · exact absurd (by rw [here]) other
    · have gap := cells right
      left
      omega
  · have gap := rows below
    left
    omega

/-! ### One row, then all rows -/

variable {cell : Nat → Nat → List α}

/-- What a slot of a cell holds after some cells of one row were overwritten. -/
theorem fill_row (fits : Fits rowLength cellLength columns)
    (full : ∀ column row, (cell column row).length = cellLength)
    {left row width x y index : Nat} (inside : left + width ≤ columns) (xInside : x < columns)
    (indexInside : index < cellLength) {value : α} (found : (cell x y)[index]? = some value)
    (buffer : Nat → α) :
    (List.range width).foldl (fun cells column =>
        write cells (place rowLength cellLength (left + column) row) (cell (left + column) row))
        buffer (place rowLength cellLength x y + index) =
      if row = y ∧ left ≤ x ∧ x < left + width then value
      else buffer (place rowLength cellLength x y + index) := by
  induction width with
  | zero =>
      rw [if_neg (by omega)]
      rfl
  | succ width inductionHypothesis =>
      have earlier := inductionHypothesis (by omega)
      rw [List.range_succ, List.foldl_append, List.foldl_cons, List.foldl_nil]
      by_cases here : (left + width, row) = (x, y)
      · obtain ⟨rfl, rfl⟩ := Prod.mk.inj here
        rw [if_pos (by omega)]
        exact write_inside _ found
      · have untouched : ∀ cells : Nat → α,
            write cells (place rowLength cellLength (left + width) row) (cell (left + width) row)
              (place rowLength cellLength x y + index) =
            cells (place rowLength cellLength x y + index) := by
          intro cells
          rcases fits.apart xInside (by omega) indexInside here rfl with before | after
          · exact write_of_lt _ _ before
          · exact write_of_ge _ (by rw [full]; exact after)
        rw [untouched, earlier]
        have notHere : ¬ (left + width = x ∧ row = y) := by
          intro same
          exact here (Prod.ext same.1 same.2)
        by_cases covered : row = y ∧ left ≤ x ∧ x < left + width
        · rw [if_pos covered, if_pos (by omega)]
        · rw [if_neg covered, if_neg (by omega)]

/-- What a slot of a cell holds after a rectangle was overwritten. -/
theorem fill_apply (fits : Fits rowLength cellLength columns)
    (full : ∀ column row, (cell column row).length = cellLength)
    {left top width height x y index : Nat} (inside : left + width ≤ columns)
    (xInside : x < columns) (indexInside : index < cellLength) {value : α}
    (found : (cell x y)[index]? = some value) (buffer : Nat → α) :
    fill cell rowLength cellLength left top width height buffer
        (place rowLength cellLength x y + index) =
      if (left ≤ x ∧ x < left + width) ∧ top ≤ y ∧ y < top + height then value
      else buffer (place rowLength cellLength x y + index) := by
  induction height with
  | zero =>
      rw [if_neg (by omega)]
      rfl
  | succ height inductionHypothesis =>
      rw [fill, List.range_succ, List.foldl_append, List.foldl_cons, List.foldl_nil,
        fill_row fits full inside xInside indexInside found]
      change (if _ then value else fill cell rowLength cellLength left top width height buffer
        (place rowLength cellLength x y + index)) = _
      rw [inductionHypothesis]
      by_cases last : top + height = y ∧ left ≤ x ∧ x < left + width
      · rw [if_pos last, if_pos (by omega)]
      · rw [if_neg last]
        by_cases covered : (left ≤ x ∧ x < left + width) ∧ top ≤ y ∧ y < top + height
        · rw [if_pos covered, if_pos (by omega)]
        · rw [if_neg covered, if_neg (by omega)]

end Canvas
