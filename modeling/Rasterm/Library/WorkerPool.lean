import Rasterm.Library.Rows
import Rasterm.Library.Transition

/-!
Contract: threads that share out the rows of a rectangle by one counter.

Each thread takes the next row number, writes the cells of that row into a common
memory one by one, and stops when the counter has passed the last row. Owns the step
of one thread, the invariant of every interleaving, and that a pool in which every
thread has stopped leaves the rectangle laid out row by row, whatever the schedule.

Does not own any meaning of the cells; they depend on their place alone.
-/

set_option autoImplicit false

universe u

namespace WorkerPool

open Rows

inductive Worker where
  /-- About to take the next row. -/
  | ready
  /-- The next cell to write. -/
  | writing (row column : Nat)
  | stopped
deriving DecidableEq, Repr

structure Pool (Thread : Type u) (Cell : Type) where
  nextRow : Nat := 0
  workers : Thread → Worker := fun _ => .ready
  memory : Nat → Cell

variable {Thread : Type u} {Cell : Type}

/-- One step of one thread; the counter is read and raised in one go. -/
def step [DecidableEq Thread] (cell : Nat → Nat → Cell) (rowLength rows : Nat) (thread : Thread)
    (pool : Pool Thread Cell) : Option (Pool Thread Cell) :=
  match pool.workers thread with
  | .ready =>
      some
        { pool with
          nextRow := pool.nextRow + 1
          workers := Function.update pool.workers thread
            (if pool.nextRow < rows then .writing pool.nextRow 0 else .stopped) }
  | .writing row column =>
      if column < rowLength then
        some
          { pool with
            workers := Function.update pool.workers thread (.writing row (column + 1))
            memory := Function.update pool.memory (row * rowLength + column) (cell column row) }
      else some { pool with workers := Function.update pool.workers thread .ready }
  | .stopped => none

/-- Every thread has seen the counter past the last row. -/
def Pool.Finished (pool : Pool Thread Cell) : Prop := ∀ thread, pool.workers thread = .stopped

variable {cell : Nat → Nat → Cell} {rowLength rows : Nat}

/-- Cells of different places do not share an offset. -/
theorem offset_inj {row column other otherColumn : Nat} (inside : column < rowLength)
    (otherInside : otherColumn < rowLength)
    (same : row * rowLength + column = other * rowLength + otherColumn) :
    row = other ∧ column = otherColumn := by
  have rowsEq : row = other := by
    have first := Nat.add_mul_div_right column row (Nat.zero_lt_of_lt inside)
    have second := Nat.add_mul_div_right otherColumn other (Nat.zero_lt_of_lt inside)
    rw [Nat.div_eq_of_lt inside, Nat.zero_add, Nat.add_comm] at first
    rw [Nat.div_eq_of_lt otherInside, Nat.zero_add, Nat.add_comm] at second
    rw [← first, same, second]
  subst rowsEq
  exact ⟨rfl, Nat.add_left_cancel same⟩

/-- Rows are held by one thread each, and hold their cells as far as they are written. -/
structure Shared (cell : Nat → Nat → Cell) (rowLength rows : Nat) (before : Nat → Cell)
    (pool : Pool Thread Cell) : Prop where
  claimed : ∀ thread row column, pool.workers thread = .writing row column →
    row < pool.nextRow ∧ row < rows
  distinct : ∀ thread other row column otherColumn,
    pool.workers thread = .writing row column → pool.workers other = .writing row otherColumn →
      thread = other
  passed : ∀ thread, pool.workers thread = .stopped → rows ≤ pool.nextRow
  written : ∀ row < rows, row < pool.nextRow → ∀ column < rowLength,
    (∀ thread next, pool.workers thread = .writing row next → column < next) →
      pool.memory (row * rowLength + column) = cell column row
  outside : ∀ offset, rows * rowLength ≤ offset → pool.memory offset = before offset

namespace Shared

variable {before : Nat → Cell} {pool next : Pool Thread Cell} {thread : Thread}

theorem start (cell : Nat → Nat → Cell) (rowLength rows : Nat) (before : Nat → Cell) :
    Shared cell rowLength rows before ({ memory := before } : Pool Thread Cell) where
  claimed := fun _ _ _ held => by cases held
  distinct := fun _ _ _ _ _ held => by cases held
  passed := fun _ stopped => by cases stopped
  written := fun _ _ taken => absurd taken (Nat.not_lt_zero _)
  outside := fun _ _ => rfl

variable [DecidableEq Thread]

/-- A row is taken, or the thread stops. -/
private theorem take (shared : Shared cell rowLength rows before pool)
    (ready : pool.workers thread = .ready) :
    Shared cell rowLength rows before
      { pool with
        nextRow := pool.nextRow + 1
        workers := Function.update pool.workers thread
          (if pool.nextRow < rows then .writing pool.nextRow 0 else .stopped) } := by
  have others : ∀ {other : Thread} {worker : Worker}, other ≠ thread →
      Function.update pool.workers thread
        (if pool.nextRow < rows then .writing pool.nextRow 0 else .stopped) other = worker →
      pool.workers other = worker := by
    intro other worker different held
    rwa [Function.update_of_ne different] at held
  have own : ∀ {row column : Nat},
      Function.update pool.workers thread
        (if pool.nextRow < rows then .writing pool.nextRow 0 else .stopped) thread =
          .writing row column →
      pool.nextRow < rows ∧ row = pool.nextRow ∧ column = 0 := by
    intro row column held
    rw [Function.update_self] at held
    split_ifs at held with more
    cases held
    exact ⟨more, rfl, rfl⟩
  refine ⟨?_, ?_, ?_, ?_, shared.outside⟩
  · intro other row column held
    by_cases same : other = thread
    · subst same
      rcases own held with ⟨more, rowEq, -⟩
      simp only
      omega
    · have earlier := shared.claimed other row column (others same held)
      simp only
      omega
  · intro first second row column otherColumn firstHeld secondHeld
    by_cases firstSame : first = thread <;> by_cases secondSame : second = thread
    · rw [firstSame, secondSame]
    · subst firstSame
      have earlier := shared.claimed second row otherColumn (others secondSame secondHeld)
      rcases own firstHeld with ⟨-, rowEq, -⟩
      omega
    · subst secondSame
      have earlier := shared.claimed first row column (others firstSame firstHeld)
      rcases own secondHeld with ⟨-, rowEq, -⟩
      omega
    · exact shared.distinct first second row column otherColumn (others firstSame firstHeld)
        (others secondSame secondHeld)
  · intro other stopped
    by_cases same : other = thread
    · subst same
      simp only [Function.update_self] at stopped
      split_ifs at stopped with more
      simp only
      omega
    · exact (shared.passed other (others same stopped)).trans (Nat.le_succ _)
  · intro row inside taken column columnInside ahead
    by_cases new : row = pool.nextRow
    · subst new
      have held : Function.update pool.workers thread
          (if pool.nextRow < rows then .writing pool.nextRow 0 else .stopped) thread =
            .writing pool.nextRow 0 := by
        rw [Function.update_self, if_pos inside]
      exact absurd (ahead thread 0 held) (Nat.not_lt_zero _)
    · simp only at taken
      apply shared.written row inside (by omega) column columnInside
      intro other next held
      by_cases same : other = thread
      · rw [same, ready] at held
        cases held
      · apply ahead other next
        simp only
        rw [Function.update_of_ne same]
        exact held

/-- One cell more of the row held. -/
private theorem write (shared : Shared cell rowLength rows before pool) {row column : Nat}
    (held : pool.workers thread = .writing row column) (columnInside : column < rowLength) :
    Shared cell rowLength rows before
      { pool with
        workers := Function.update pool.workers thread (.writing row (column + 1))
        memory := Function.update pool.memory (row * rowLength + column) (cell column row) } := by
  have ownRow := shared.claimed thread row column held
  -- who holds which row does not change
  have holds : ∀ {other : Thread} {otherRow next : Nat},
      Function.update pool.workers thread (.writing row (column + 1)) other =
          .writing otherRow next →
      ∃ earlier, pool.workers other = .writing otherRow earlier := by
    intro other otherRow next after
    by_cases same : other = thread
    · subst same
      rw [Function.update_self, Worker.writing.injEq] at after
      exact ⟨column, by rw [← after.1]; exact held⟩
    · rw [Function.update_of_ne same] at after
      exact ⟨next, after⟩
  refine ⟨?_, ?_, ?_, ?_, ?_⟩
  · intro other otherRow next after
    rcases holds after with ⟨earlier, heldBefore⟩
    exact shared.claimed other otherRow earlier heldBefore
  · intro first second otherRow next otherNext firstHeld secondHeld
    rcases holds firstHeld with ⟨_, firstBefore⟩
    rcases holds secondHeld with ⟨_, secondBefore⟩
    exact shared.distinct first second otherRow _ _ firstBefore secondBefore
  · intro other stopped
    by_cases same : other = thread
    · subst same
      simp only [Function.update_self] at stopped
      cases stopped
    · simp only [Function.update_of_ne same] at stopped
      exact shared.passed other stopped
  · intro otherRow inside taken otherColumn otherInside ahead
    by_cases here : otherRow * rowLength + otherColumn = row * rowLength + column
    · rcases offset_inj otherInside columnInside here with ⟨sameRow, sameColumn⟩
      subst sameRow
      subst sameColumn
      exact Function.update_self _ _ _
    · show Function.update pool.memory _ _ _ = _
      rw [Function.update_of_ne here]
      apply shared.written otherRow inside taken otherColumn otherInside
      intro other next heldBefore
      by_cases same : other = thread
      · subst same
        rw [held, Worker.writing.injEq] at heldBefore
        rcases heldBefore with ⟨rowEq, columnEq⟩
        subst rowEq
        subst columnEq
        have passes := ahead other (column + 1) (Function.update_self _ _ _)
        have different : otherColumn ≠ column := fun equal => here (by rw [equal])
        omega
      · apply ahead other next
        simp only
        rw [Function.update_of_ne same]
        exact heldBefore
  · intro offset beyond
    have below : row * rowLength + column < rows * rowLength := by
      calc row * rowLength + column < (row + 1) * rowLength := by rw [Nat.succ_mul]; omega
        _ ≤ rows * rowLength := Nat.mul_le_mul_right _ ownRow.2
    show Function.update pool.memory _ _ _ = _
    rw [Function.update_of_ne (by omega)]
    exact shared.outside offset beyond

/-- The row held is complete. -/
private theorem release (shared : Shared cell rowLength rows before pool) {row column : Nat}
    (held : pool.workers thread = .writing row column) (complete : ¬ column < rowLength) :
    Shared cell rowLength rows before
      { pool with workers := Function.update pool.workers thread .ready } := by
  have others : ∀ {other : Thread} {worker : Worker}, worker ≠ .ready →
      Function.update pool.workers thread .ready other = worker →
      pool.workers other = worker := by
    intro other worker busy after
    by_cases same : other = thread
    · subst same
      rw [Function.update_self] at after
      exact absurd after.symm busy
    · rwa [Function.update_of_ne same] at after
  refine ⟨?_, ?_, ?_, ?_, shared.outside⟩
  · intro other otherRow next after
    exact shared.claimed other otherRow next (others (fun none => by cases none) after)
  · intro first second otherRow next otherNext firstHeld secondHeld
    exact shared.distinct first second otherRow next otherNext
      (others (fun none => by cases none) firstHeld) (others (fun none => by cases none) secondHeld)
  · intro other stopped
    exact shared.passed other (others (fun none => by cases none) stopped)
  · intro otherRow inside taken otherColumn otherInside ahead
    apply shared.written otherRow inside taken otherColumn otherInside
    intro other next heldBefore
    by_cases same : other = thread
    · subst same
      rw [held, Worker.writing.injEq] at heldBefore
      omega
    · apply ahead other next
      simp only
      rw [Function.update_of_ne same]
      exact heldBefore

theorem step (shared : Shared cell rowLength rows before pool)
    (taken : WorkerPool.step cell rowLength rows thread pool = some next) :
    Shared cell rowLength rows before next := by
  unfold WorkerPool.step at taken
  cases worker : pool.workers thread with
  | ready =>
      simp only [worker, Option.some.injEq] at taken
      subst taken
      exact shared.take worker
  | writing row column =>
      simp only [worker] at taken
      split_ifs at taken with columnInside
      · cases taken
        exact shared.write worker columnInside
      · cases taken
        exact shared.release worker columnInside
  | stopped =>
      simp only [worker] at taken
      cases taken

end Shared

/-- Whatever the schedule, once every thread has stopped the rectangle is laid out row by row,
and what lies behind it is as before. -/
theorem memory_of_finished [DecidableEq Thread] [Nonempty Thread] {before : Nat → Cell}
    {schedule : List Thread} {final : Pool Thread Cell}
    (run : Transition.Run (step cell rowLength rows)
      ({ memory := before } : Pool Thread Cell) schedule final)
    (finished : final.Finished) :
    (List.range (rows * rowLength)).map final.memory = layRows cell rowLength rows ∧
      ∀ offset, rows * rowLength ≤ offset → final.memory offset = before offset := by
  have shared : Shared cell rowLength rows before final :=
    run.invariant (fun _ _ _ taken shared => shared.step taken)
      (Shared.start cell rowLength rows before)
  have passed := shared.passed (Classical.arbitrary Thread) (finished _)
  refine ⟨?_, shared.outside⟩
  apply List.ext_getElem?
  intro offset
  by_cases inside : offset < rows * rowLength
  · have positive : 0 < rowLength := by
      by_contra none
      rw [Nat.eq_zero_of_not_pos none, Nat.mul_zero] at inside
      exact absurd inside (Nat.not_lt_zero _)
    have row : offset / rowLength < rows := Nat.div_lt_of_lt_mul (by rwa [Nat.mul_comm])
    have column : offset % rowLength < rowLength := Nat.mod_lt _ positive
    have laid := getElem?_layRows cell rowLength rows _ _ row column
    have cellHere := shared.written (offset / rowLength) row (row.trans_le passed)
      (offset % rowLength) column fun thread _ held => by
        rw [finished thread] at held
        cases held
    rw [Nat.div_add_mod'] at laid cellHere
    rw [laid, List.getElem?_map, List.getElem?_range inside, Option.map_some, cellHere]
  · rw [List.getElem?_eq_none (by simpa using inside), List.getElem?_eq_none (by simpa using inside)]

/-! ### A schedule that ends -/

/-- One thread alone writes the rest of its row. -/
private theorem exists_row_written (cell : Nat → Nat → Cell) (rowLength rows row : Nat)
    (left : Nat) : ∀ (pool : Pool Unit Cell) (column : Nat), column + left = rowLength →
      pool.workers () = .writing row column →
      ∃ schedule final, Transition.Run (step cell rowLength rows) pool schedule final ∧
        final.workers () = .ready ∧ final.nextRow = pool.nextRow := by
  induction left with
  | zero =>
      intro pool column complete held
      have full : ¬ column < rowLength := by omega
      let next : Pool Unit Cell :=
        { pool with workers := Function.update pool.workers () .ready }
      have taken : step cell rowLength rows () pool = some next := by
        simp only [step, held, if_neg full, next]
      exact ⟨[()], next, .cons taken (.nil next), by simp [next], rfl⟩
  | succ left inductionHypothesis =>
      intro pool column remaining held
      have room : column < rowLength := by omega
      let next : Pool Unit Cell :=
        { pool with
          workers := Function.update pool.workers () (.writing row (column + 1))
          memory := Function.update pool.memory (row * rowLength + column) (cell column row) }
      have taken : step cell rowLength rows () pool = some next := by
        simp only [step, held, if_pos room, next]
      rcases inductionHypothesis next (column + 1) (by omega) (by simp [next]) with
        ⟨schedule, final, run, ready, nextRow⟩
      exact ⟨() :: schedule, final, .cons taken run, ready, nextRow⟩

private theorem exists_rows_written (cell : Nat → Nat → Cell) (rowLength rows : Nat)
    (left : Nat) : ∀ pool : Pool Unit Cell, pool.nextRow + left = rows →
      pool.workers () = .ready →
      ∃ schedule final, Transition.Run (step cell rowLength rows) pool schedule final ∧
        final.Finished := by
  induction left with
  | zero =>
      intro pool complete ready
      have past : ¬ pool.nextRow < rows := by omega
      let next : Pool Unit Cell :=
        { pool with
          nextRow := pool.nextRow + 1
          workers := Function.update pool.workers () .stopped }
      have taken : step cell rowLength rows () pool = some next := by
        simp only [step, ready, if_neg past, next]
      exact ⟨[()], next, .cons taken (.nil next), fun _ => by simp [next]⟩
  | succ left inductionHypothesis =>
      intro pool remaining ready
      have more : pool.nextRow < rows := by omega
      let next : Pool Unit Cell :=
        { pool with
          nextRow := pool.nextRow + 1
          workers := Function.update pool.workers () (.writing pool.nextRow 0) }
      have taken : step cell rowLength rows () pool = some next := by
        simp only [step, ready, if_pos more, next]
      rcases exists_row_written cell rowLength rows pool.nextRow rowLength next 0
        (Nat.zero_add _) (by simp [next]) with ⟨first, middle, written, free, sameRow⟩
      have nextRow : middle.nextRow = pool.nextRow + 1 := sameRow
      rcases inductionHypothesis middle (by omega) free with ⟨rest, final, run, finished⟩
      exact ⟨() :: (first ++ rest), final, .cons taken (written.trans run), finished⟩

/-- The plain loop is one of the schedules. -/
theorem exists_finished (cell : Nat → Nat → Cell) (rowLength rows : Nat) (before : Nat → Cell) :
    ∃ schedule final, Transition.Run (step cell rowLength rows)
      ({ memory := before } : Pool Unit Cell) schedule final ∧ final.Finished :=
  exists_rows_written cell rowLength rows rows { memory := before } (Nat.zero_add _) rfl

end WorkerPool
