import Mathlib.Data.List.Basic
import Mathlib.Tactic.Ring

/-!
Contract: rectangles of cells laid out row by row.

`layRows` puts a rectangle into one list, so the cell in column `c` of row `r`
ends at offset `r * rowLength + c`; `packRows` is the copy of strided rows into
such a list. Also owned: the part of a list of parts that contributes alone.

Does not own any meaning of the cells.
-/

set_option autoImplicit false

namespace Rows

variable {α β : Type}

/-- The cells of a rectangle, row by row. -/
def layRows (cell : Nat → Nat → α) (rowLength rows : Nat) : List α :=
  (List.range rows).flatMap fun row => (List.range rowLength).map fun column => cell column row

/-- Rows of `rowLength` cells, `stride` apart, laid end to end. -/
def packRows (source : Nat → α) (stride rowLength rows : Nat) : List α :=
  layRows (fun column row => source (row * stride + column)) rowLength rows

@[simp] theorem length_layRows (cell : Nat → Nat → α) (rowLength rows : Nat) :
    (layRows cell rowLength rows).length = rows * rowLength := by
  simp [layRows, List.length_flatMap]

theorem layRows_succ (cell : Nat → Nat → α) (rowLength rows : Nat) :
    layRows cell rowLength (rows + 1) =
      layRows cell rowLength rows ++ (List.range rowLength).map fun column => cell column rows := by
  simp [layRows, List.range_succ]

/-- Where a cell lands. -/
theorem getElem?_layRows (cell : Nat → Nat → α) (rowLength rows row column : Nat)
    (rowInside : row < rows) (columnInside : column < rowLength) :
    (layRows cell rowLength rows)[row * rowLength + column]? = some (cell column row) := by
  induction rows with
  | zero => omega
  | succ rows inductionHypothesis =>
      rw [layRows_succ]
      rcases Nat.lt_succ_iff_lt_or_eq.mp rowInside with earlier | rfl
      · have below : row * rowLength + column < rows * rowLength := by
          calc row * rowLength + column < row * rowLength + rowLength := by omega
            _ = (row + 1) * rowLength := by ring
            _ ≤ rows * rowLength := Nat.mul_le_mul_right _ earlier
        rw [List.getElem?_append_left (by simpa using below)]
        exact inductionHypothesis earlier
      · rw [List.getElem?_append_right (by simp)]
        simp [columnInside]

/-- A cell read back, whatever follows the rectangle. -/
theorem getD_layRows_append (cell : Nat → Nat → α) (rowLength rows row column : Nat)
    (rest : List α) (fallback : α) (rowInside : row < rows) (columnInside : column < rowLength) :
    (layRows cell rowLength rows ++ rest).getD (row * rowLength + column) fallback =
      cell column row := by
  have found := getElem?_layRows cell rowLength rows row column rowInside columnInside
  obtain ⟨inside, -⟩ := List.getElem?_eq_some_iff.mp found
  rw [List.getD_eq_getElem?_getD, List.getElem?_append_left inside, found]
  rfl

/-- A copied cell is the cell it was copied from. -/
theorem getD_packRows (source : Nat → α) (stride rowLength rows row column : Nat) (fallback : α)
    (rowInside : row < rows) (columnInside : column < rowLength) :
    (packRows source stride rowLength rows).getD (row * rowLength + column) fallback =
      source (row * stride + column) := by
  rw [← List.append_nil (packRows source stride rowLength rows)]
  exact getD_layRows_append _ rowLength rows row column [] fallback rowInside columnInside

/-- A memory that holds every cell in its place holds the rectangle. -/
theorem map_range_eq_layRows {cell : Nat → Nat → α} {rowLength rows : Nat} {memory : Nat → α}
    (holds : ∀ row < rows, ∀ column < rowLength,
      memory (row * rowLength + column) = cell column row) :
    (List.range (rows * rowLength)).map memory = layRows cell rowLength rows := by
  induction rows with
  | zero => simp [layRows]
  | succ rows inductionHypothesis =>
      have earlier := inductionHypothesis fun row inside =>
        holds row (Nat.lt_succ_of_lt inside)
      rw [Nat.succ_mul, List.range_add, List.map_append, earlier, layRows_succ, List.map_map]
      congr 1
      apply List.map_congr_left
      intro column member
      exact holds rows (Nat.lt_succ_self _) column (List.mem_range.mp member)

theorem layRows_congr {left right : Nat → Nat → α} {rowLength rows : Nat}
    (same : ∀ row < rows, ∀ column < rowLength, left column row = right column row) :
    layRows left rowLength rows = layRows right rowLength rows := by
  apply List.flatMap_congr
  intro row member
  apply List.map_congr_left
  intro column columnMember
  exact same row (List.mem_range.mp member) column (List.mem_range.mp columnMember)

/-- A nodup list in which one item alone contributes. -/
theorem flatMap_eq_of_unique {items : List α} {item : α} {part : α → List β}
    (nodup : items.Nodup) (member : item ∈ items)
    (others : ∀ other ∈ items, other ≠ item → part other = []) :
    items.flatMap part = part item := by
  induction items with
  | nil => simp at member
  | cons head tail inductionHypothesis =>
      obtain ⟨headFresh, tailNodup⟩ := List.nodup_cons.mp nodup
      rw [List.flatMap_cons]
      by_cases here : head = item
      · subst here
        have rest : tail.flatMap part = [] := by
          rw [List.flatMap_eq_nil_iff]
          intro other inTail
          refine others other (List.mem_cons_of_mem _ inTail) ?_
          intro same
          exact headFresh (same ▸ inTail)
        rw [rest, List.append_nil]
      · have inTail : item ∈ tail := by
          rcases List.mem_cons.mp member with same | later
          · exact absurd same.symm here
          · exact later
        rw [others head (by simp) here, List.nil_append]
        exact inductionHypothesis tailNodup inTail fun other later =>
          others other (List.mem_cons_of_mem _ later)

end Rows
