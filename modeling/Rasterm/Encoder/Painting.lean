import Mathlib.Algebra.Order.BigOperators.Group.Finset
import Rasterm.Encoder.Image
import Rasterm.Encoder.RowPool

/-!
Contract: row functions that write the vector of indices while the `EncoderParallelExecutor` runs
them.

Owns the executor together with the vector, each write of an index a step of its own, and that
after a run the vector is the one the plain loop over the rows leaves.

Does not own the choice between the executor and the plain loop.
-/

set_option autoImplicit false

universe u

namespace Rasterm

open History Rows Tickets EncoderParallelExecutor

/-- A `mapRow` with its context: the indices it writes for each row. -/
structure RowJob where
  width : Nat
  cell : Nat → Nat → UInt8

structure Painting (created : Nat) where
  executor : EncoderParallelExecutor RowJob created
  /-- `paletteIndices`. -/
  memory : Nat → UInt8
  /-- Of each thread in a row function, the next column. -/
  column : Option (Fin created) → Nat := fun _ => 0
  /-- The vector when the last run was called. -/
  found : Nat → UInt8

inductive PaintingLabel (created : Nat) where
  /-- The vector is what the caller has made of it. -/
  | run (job : RowJob) (rows : Int) (memory : Nat → UInt8)
  | destroy
  | advance (thread : Option (Fin created))
  /-- The thread writes one index. -/
  | write (thread : Option (Fin created))

namespace Painting

variable {created : Nat}

/-- The row function of the thread has columns left. -/
def busy (painting : Painting created) (thread : Option (Fin created)) : Bool :=
  match painting.executor.places thread with
  | .running ⟨some job, _⟩ _ => painting.column thread < job.width
  | _ => false

def step (label : PaintingLabel created) (painting : Painting created) :
    Option (Painting created) :=
  match label with
  | .run job rows memory =>
      (EncoderParallelExecutor.step (.run job rows) painting.executor).map fun executor =>
        { painting with executor := executor, memory := memory, found := memory }
  | .destroy =>
      (EncoderParallelExecutor.step .destroy painting.executor).map fun executor =>
        { painting with executor := executor }
  | .advance thread =>
      if painting.busy thread then none
      else (painting.executor.advance thread).map fun executor =>
        { painting with
          executor := executor
          column := Function.update painting.column thread 0 }
  | .write thread =>
      match painting.executor.places thread with
      | .running ⟨some job, _⟩ row =>
          let column := painting.column thread
          if column < job.width then
            some
              { painting with
                memory := Function.update painting.memory (row.toNat * job.width + column)
                  (job.cell column row.toNat)
                column := Function.update painting.column thread (column + 1) }
          else none
      | _ => none

/-- Rows and threads can be counted in an `int`. -/
def Fits : PaintingLabel created → Prop
  | .run job rows _ => EncoderParallelExecutor.Fits (.run job rows : ExecutorLabel RowJob created)
  | _ => True

end Painting

/-! ### Threads in row functions -/

namespace EncoderParallelExecutor

variable {Job : Type u} {created : Nat} {executor next : EncoderParallelExecutor Job created}
  {thread : Option (Fin created)} {task : Task Job} {row : Int}

/-- A thread in a row function works for the run under way, on a row that is not done and that no
other thread works on. -/
structure Works (executor : EncoderParallelExecutor Job created) (thread : Option (Fin created))
    (row : Int) (call : Call Job) : Prop where
  current : currentCall executor.log = some call
  nonneg : 0 ≤ row
  inside : row < call.rows
  pending : call.completions row = 0
  alone : ∀ other otherTask, executor.places other = .running otherTask row → other = thread

theorem Mode.works (mode : executor.Mode) (place : executor.places thread = .running task row) :
    ∃ call, task = ⟨some call.job, call.rows⟩ ∧ executor.Works thread row call := by
  cases mode with
  | resting resting =>
      rw [resting.places thread] at place
      cases place
  | stopped stopped =>
      cases thread with
      | none =>
          rw [stopped.caller] at place
          cases place
      | some worker =>
          rcases stopped.workers worker with held | held <;>
            · rw [held] at place
              cases place
  | parallel call parallel =>
      have serves := parallel.serves thread
      rw [place] at serves
      have stageOf : ∀ {other : Option (Fin created)} {otherTask : Task Job},
          executor.places other = .running otherTask row →
          executor.stages other = .claimed row true := by
        intro other otherTask held
        rw [stages, held]
        rfl
      have bounds := parallel.drawn.claimed thread row true (stageOf place)
      refine ⟨call, serves, parallel.current, bounds.1, bounds.2.2 rfl, ?_, ?_⟩
      · rw [parallel.drawn.ended_eq, if_neg]
        rintro ⟨-, -, -, nobody⟩
        exact nobody thread true (stageOf place)
      · intro other otherTask held
        exact parallel.drawn.distinct other thread row true true (stageOf held) (stageOf place)
  | serial call serial =>
      obtain rfl := serial.eq_none thread
      rcases serial.drawn with ⟨looping, held, -⟩ | ⟨held, same, drawn⟩
      · rw [held] at place
        cases place
      · rw [same] at place
        cases place
        have bounds := drawn.claimed () row true rfl
        refine ⟨call, rfl, serial.current, bounds.1, bounds.2.2 rfl, ?_, ?_⟩
        · rw [drawn.ended_eq, if_neg]
          rintro ⟨-, -, -, nobody⟩
          exact nobody () true rfl
        · intro other _ _
          exact serial.eq_none other

/-- What a step of a thread does to the row functions and to the log. -/
inductive Advanced (executor next : EncoderParallelExecutor Job created)
    (thread : Option (Fin created)) : Prop where
  | silent (log : next.log = executor.log)
      (before : ∀ task row, executor.places thread ≠ .running task row)
      (after : ∀ task row, next.places thread ≠ .running task row)
  | invokes (task : Task Job) (row : Int) (log : next.log = .invoked task.job row :: executor.log)
      (before : ∀ task row, executor.places thread ≠ .running task row)
  | completes (task : Task Job) (row : Int)
      (log : next.log = .completed task.job row :: executor.log)
      (before : executor.places thread = .running task row)
      (after : ∀ task row, next.places thread ≠ .running task row)
  | returns (log : next.log = .returned :: executor.log)
      (before : ∀ task row, executor.places thread ≠ .running task row)
      (after : ∀ task row, next.places thread ≠ .running task row)

theorem advance_cases (taken : executor.advance thread = some next) :
    (∀ other, other ≠ thread → next.places other = executor.places other) ∧
      Advanced executor next thread := by
  have others : ∀ (moved : EncoderParallelExecutor Job created) (place : Place Job),
      moved.places = executor.places → ∀ other, other ≠ thread →
        (moved.move thread place).places other = executor.places other := by
    intro moved place same other different
    rw [move_places_of_ne _ different, same]
  have goes : ∀ (moved : EncoderParallelExecutor Job created) (place : Place Job),
      (∀ task row, place ≠ .running task row) →
        ∀ task row, (moved.move thread place).places thread ≠ .running task row := by
    intro moved place idle task row
    rw [move_places_self]
    exact idle task row
  unfold advance at taken
  cases place : executor.places thread with
  | outside =>
      rw [place] at taken
      cases thread with
      | none => cases taken
      | some worker =>
          change executor.wake worker = some next at taken
          unfold wake at taken
          split_ifs at taken with started stopping late
          · cases taken
            exact ⟨others executor _ rfl, .silent rfl (by rw [place]; simp) (goes _ _ (by simp))⟩
          · cases taken
            exact ⟨others { executor with
                observedGeneration := Function.update executor.observedGeneration worker
                  executor.generation } _ rfl,
              .silent rfl (by rw [place]; simp) (goes _ _ (by simp))⟩
  | looping task row =>
      rw [place] at taken
      dsimp only at taken
      split_ifs at taken with inside
      · cases taken
        exact ⟨others (executor.note _) _ rfl, .invokes task row rfl (by rw [place]; simp)⟩
      · cases taken
        exact ⟨others (executor.note _) _ rfl,
          .returns rfl (by rw [place]; simp) (goes _ _ (by simp))⟩
  | taking task =>
      rw [place] at taken
      cases taken
      exact ⟨others { executor with nextRow := wrapInt (executor.nextRow + 1) } _ rfl,
        .silent rfl (by rw [place]; simp) (goes _ _ (by simp))⟩
  | holding task row =>
      rw [place] at taken
      dsimp only at taken
      split_ifs at taken with beyond
      · cases taken
        exact ⟨others executor _ rfl, .silent rfl (by rw [place]; simp) (goes _ _ (by simp))⟩
      · cases taken
        exact ⟨others (executor.note _) _ rfl, .invokes task row rfl (by rw [place]; simp)⟩
  | running task row =>
      rw [place] at taken
      cases taken
      refine ⟨others (executor.note _) _ rfl, .completes task row rfl place (goes _ _ ?_)⟩
      split_ifs <;> simp
  | left =>
      rw [place] at taken
      cases thread with
      | none =>
          dsimp only [leave] at taken
          split_ifs at taken
          cases taken
          exact ⟨others (executor.note _) _ rfl,
            .returns rfl (by rw [place]; simp) (goes _ _ (by simp))⟩
      | some worker =>
          cases taken
          exact ⟨others { executor with remainingWorkers := executor.remainingWorkers - 1 } _ rfl,
            .silent rfl (by rw [place]; simp) (goes _ _ (by simp))⟩
  | gone =>
      rw [place] at taken
      cases taken

end EncoderParallelExecutor

/-! ### The vector during a run -/

namespace Painting

variable {created : Nat} {painting next : Painting created} {call : Call RowJob}

/-- The vector as far as the run under way has come. -/
structure Painted (painting : Painting created) (call : Call RowJob) : Prop where
  done : ∀ row : Nat, call.completions row ≠ 0 → ∀ column < call.job.width,
    painting.memory (row * call.job.width + column) = call.job.cell column row
  begun : ∀ thread task row, painting.executor.places thread = .running task row →
    ∀ column < painting.column thread, column < call.job.width →
      painting.memory (row.toNat * call.job.width + column) = call.job.cell column row.toNat
  kept : ∀ offset, call.rows.toNat * call.job.width ≤ offset →
    painting.memory offset = painting.found offset

/-- The vector after the run. -/
structure Complete (painting : Painting created) (call : Call RowJob) : Prop where
  done : ∀ row < call.rows.toNat, ∀ column < call.job.width,
    painting.memory (row * call.job.width + column) = call.job.cell column row
  kept : ∀ offset, call.rows.toNat * call.job.width ≤ offset →
    painting.memory offset = painting.found offset

/-- What every run keeps. -/
structure Kept (painting : Painting created) : Prop where
  sound : painting.executor.Sound
  mode : painting.executor.Mode
  underWay : ∀ call, currentCall painting.executor.log = some call → painting.Painted call
  returned : ∀ earlier, painting.executor.log = .returned :: earlier →
    ∃ call, currentCall earlier = some call ∧ painting.Complete call

namespace Kept

/-- One index more. -/
theorem write (kept : painting.Kept) {thread : Option (Fin created)} {job : RowJob} {rows row : Int}
    (place : painting.executor.places thread = .running ⟨some job, rows⟩ row)
    (room : painting.column thread < job.width) :
    Kept
      { painting with
        memory := Function.update painting.memory
          (row.toNat * job.width + painting.column thread)
          (job.cell (painting.column thread) row.toNat)
        column := Function.update painting.column thread (painting.column thread + 1) } := by
  obtain ⟨call, same, works⟩ := kept.mode.works place
  cases same
  have painted := kept.underWay call works.current
  have nonneg := works.nonneg
  -- an index of another row, or another one of this row
  have elsewhere : ∀ {other column : Nat}, column < call.job.width →
      (other = row.toNat → column ≠ painting.column thread) →
      Function.update painting.memory (row.toNat * call.job.width + painting.column thread)
          (call.job.cell (painting.column thread) row.toNat) (other * call.job.width + column) =
        painting.memory (other * call.job.width + column) := by
    intro other column inside apart
    apply Function.update_of_ne
    intro here
    obtain ⟨sameRow, sameColumn⟩ := WorkerPool.offset_inj inside room here
    exact apart sameRow sameColumn
  refine ⟨kept.sound, kept.mode, ?_, ?_⟩
  · intro current isCurrent
    rw [works.current] at isCurrent
    cases isCurrent
    refine ⟨?_, ?_, ?_⟩
    · intro other completed column inside
      dsimp only
      rw [elsewhere inside]
      · exact painted.done other completed column inside
      · intro sameRow _
        apply completed
        rw [sameRow, Int.toNat_of_nonneg nonneg]
        exact works.pending
    · intro other task otherRow held column below inside
      dsimp only at held below ⊢
      by_cases same : other = thread
      · subst same
        rw [place] at held
        cases held
        rw [Function.update_self] at below
        rcases Nat.lt_succ_iff_lt_or_eq.mp below with earlier | last
        · rw [elsewhere inside fun _ => Nat.ne_of_lt earlier]
          exact painted.begun other _ row place column earlier inside
        · rw [last]
          exact Function.update_self _ _ _
      · rw [Function.update_of_ne same] at below
        obtain ⟨_, -, otherWorks⟩ := kept.mode.works held
        have otherNonneg := otherWorks.nonneg
        rw [elsewhere inside]
        · exact painted.begun other task otherRow held column below inside
        · intro sameRow _
          have rowsEq : otherRow = row := by omega
          rw [rowsEq] at held
          exact same (works.alone other task held)
    · intro offset beyond
      have below : row.toNat * call.job.width + painting.column thread <
          call.rows.toNat * call.job.width := by
        have inside := works.inside
        calc row.toNat * call.job.width + painting.column thread
            < (row.toNat + 1) * call.job.width := by rw [Nat.succ_mul]; omega
          _ ≤ call.rows.toNat * call.job.width := Nat.mul_le_mul_right _ (by omega)
      dsimp only
      rw [Function.update_of_ne (by omega)]
      exact painted.kept offset beyond
  · intro earlier returned
    have ended : currentCall painting.executor.log = none := by
      dsimp only at returned
      rw [returned]
      rfl
    rw [works.current] at ended
    cases ended

/-- Who is in a row function stays there, unless it is the thread that moves. -/
private theorem held_before {thread other : Option (Fin created)} {task : Task RowJob} {row : Int}
    {executor moved : EncoderParallelExecutor RowJob created}
    (others : ∀ other, other ≠ thread → moved.places other = executor.places other)
    (leaves : ∀ task row, moved.places thread ≠ .running task row)
    (held : moved.places other = .running task row) :
    other ≠ thread ∧ executor.places other = .running task row := by
  have different : other ≠ thread := by
    rintro rfl
    exact leaves task row held
  exact ⟨different, others other different ▸ held⟩

/-- A step of a thread outside of its row function. -/
theorem advance (kept : painting.Kept) {thread : Option (Fin created)}
    {moved : EncoderParallelExecutor RowJob created} (ready : painting.busy thread = false)
    (taken : painting.executor.advance thread = some moved) :
    Kept { painting with
      executor := moved
      column := Function.update painting.column thread 0 } := by
  obtain ⟨sound, mode⟩ := kept.mode.step kept.sound
    (show EncoderParallelExecutor.Fits (.advance thread : ExecutorLabel RowJob created) from trivial)
    taken
  obtain ⟨others, advanced⟩ := advance_cases taken
  cases advanced with
  | silent log before after =>
      refine ⟨sound, mode, ?_, ?_⟩
      · intro call current
        dsimp only at current
        rw [log] at current
        have painted := kept.underWay call current
        refine ⟨painted.done, ?_, painted.kept⟩
        intro other task row held column below inside
        obtain ⟨different, heldBefore⟩ := held_before others after held
        dsimp only at below
        rw [Function.update_of_ne different] at below
        exact painted.begun other task row heldBefore column below inside
      · intro earlier returned
        dsimp only at returned
        rw [log] at returned
        obtain ⟨call, current, complete⟩ := kept.returned earlier returned
        exact ⟨call, current, complete.done, complete.kept⟩
  | invokes task row log before =>
      refine ⟨sound, mode, ?_, ?_⟩
      · intro call current
        dsimp only at current
        rw [log] at current
        obtain ⟨older, isOlder, rfl⟩ := Option.map_eq_some_iff.mp current
        have painted := kept.underWay older isOlder
        refine ⟨?_, ?_, painted.kept⟩
        · rw [Call.completions_invoked]
          exact painted.done
        · intro other otherTask otherRow held column below inside
          dsimp only at held below
          by_cases same : other = thread
          · rw [same, Function.update_self] at below
            exact absurd below (Nat.not_lt_zero _)
          · rw [Function.update_of_ne same] at below
            rw [others other same] at held
            exact painted.begun other otherTask otherRow held column below inside
      · intro earlier returned
        dsimp only at returned
        rw [log] at returned
        cases returned
  | completes task row log before after =>
      obtain ⟨call, same, works⟩ := kept.mode.works before
      cases same
      have painted := kept.underWay call works.current
      have full : call.job.width ≤ painting.column thread := by
        rw [busy, before] at ready
        exact not_lt.mp (of_decide_eq_false ready)
      refine ⟨sound, mode, ?_, ?_⟩
      · intro later current
        dsimp only at current
        rw [log, currentCall_completed works.current] at current
        cases current
        refine ⟨?_, ?_, painted.kept⟩
        · intro other completed column inside
          by_cases same : (other : Int) = row
          · have own := painted.begun thread _ row before column (inside.trans_le full) inside
            rw [← same, Int.toNat_natCast] at own
            exact own
          · rw [Call.completions_completed, Function.update_of_ne same] at completed
            exact painted.done other completed column inside
        · intro other otherTask otherRow held column below inside
          obtain ⟨different, heldBefore⟩ := held_before others after held
          dsimp only at below
          rw [Function.update_of_ne different] at below
          exact painted.begun other otherTask otherRow heldBefore column below inside
      · intro earlier returned
        dsimp only at returned
        rw [log] at returned
        cases returned
  | returns log before after =>
      refine ⟨sound, mode, ?_, ?_⟩
      · intro call current
        dsimp only at current
        rw [log] at current
        cases current
      · intro earlier returned
        dsimp only at returned
        rw [log] at returned
        cases returned
        have complete := sound.complete [] .returned painting.executor.log log rfl
        obtain ⟨call, current, counts⟩ := complete
        have painted := kept.underWay call current
        refine ⟨call, current, ?_, painted.kept⟩
        intro row inside column columnInside
        apply painted.done row _ column columnInside
        rw [(counts row).2, if_pos ⟨Int.natCast_nonneg row, by omega⟩]
        exact Nat.one_ne_zero

/-- A run is called. -/
theorem run (kept : painting.Kept) {job : RowJob} {rows : Int} {memory : Nat → UInt8}
    {called : EncoderParallelExecutor RowJob created}
    (fits : EncoderParallelExecutor.Fits (.run job rows : ExecutorLabel RowJob created))
    (taken : EncoderParallelExecutor.step (.run job rows) painting.executor = some called) :
    Kept { painting with executor := called, memory := memory, found := memory } := by
  obtain ⟨sound, mode⟩ := kept.mode.step kept.sound fits taken
  unfold EncoderParallelExecutor.step at taken
  dsimp only at taken
  split at taken
  next outside =>
    cases taken
    have resting := (kept.mode.current_of_outside outside).ensureWorkers
    have idle : ∀ (task : Task RowJob) (row : Int) thread,
        (painting.executor.run job rows).places thread ≠ .running task row := by
      intro task row thread
      unfold EncoderParallelExecutor.run
      dsimp only
      split_ifs <;>
        · by_cases caller : thread = none
          · rw [caller, move_places_self]
            simp
          · rw [move_places_of_ne _ caller]
            change painting.executor.ensureWorkers.places thread ≠ _
            rw [resting.places thread]
            simp
    have log : (painting.executor.run job rows).log =
        .called job rows :: painting.executor.ensureWorkers.log := by
      unfold EncoderParallelExecutor.run
      dsimp only
      split_ifs <;> rfl
    refine ⟨sound, mode, ?_, ?_⟩
    · intro call current
      dsimp only at current
      rw [log] at current
      cases current
      refine ⟨?_, ?_, fun _ _ => rfl⟩
      · intro row completed
        exact absurd rfl completed
      · intro thread task row held
        exact absurd held (idle task row thread)
    · intro earlier returned
      dsimp only at returned
      rw [log] at returned
      cases returned
  next => cases taken

theorem destroy (kept : painting.Kept) {destroyed : EncoderParallelExecutor RowJob created}
    (taken : EncoderParallelExecutor.step .destroy painting.executor = some destroyed) :
    Kept { painting with executor := destroyed } := by
  obtain ⟨sound, mode⟩ := kept.mode.step kept.sound
    (show EncoderParallelExecutor.Fits (.destroy : ExecutorLabel RowJob created) from trivial) taken
  unfold EncoderParallelExecutor.step at taken
  dsimp only at taken
  split at taken
  next outside =>
    cases taken
    have resting := kept.mode.current_of_outside outside
    refine ⟨sound, mode, ?_, ?_⟩
    · intro call current
      have ended := resting.current
      dsimp only [move] at current
      rw [ended] at current
      cases current
    · intro earlier returned
      obtain ⟨call, current, complete⟩ := kept.returned earlier returned
      exact ⟨call, current, complete.done, complete.kept⟩
  next => cases taken

theorem step (kept : painting.Kept) {label : PaintingLabel created} (fits : Fits label)
    (taken : Painting.step label painting = some next) : next.Kept := by
  cases label with
  | run job rows memory =>
      obtain ⟨called, isCalled, rfl⟩ := Option.map_eq_some_iff.mp taken
      exact kept.run fits isCalled
  | destroy =>
      obtain ⟨destroyed, isDestroyed, rfl⟩ := Option.map_eq_some_iff.mp taken
      exact kept.destroy isDestroyed
  | advance thread =>
      change (if painting.busy thread then none else _) = some next at taken
      split_ifs at taken with working
      obtain ⟨moved, isMoved, rfl⟩ := Option.map_eq_some_iff.mp taken
      exact kept.advance (Bool.eq_false_iff.mpr working) isMoved
  | write thread =>
      unfold Painting.step at taken
      dsimp only at taken
      split at taken
      next job rows row place =>
        split_ifs at taken with room
        cases taken
        exact kept.write place room
      next => cases taken

end Kept

/-! ### Progress -/

/-- The indices a thread in a row function has before it. -/
def remaining (painting : Painting created) (thread : Option (Fin created)) : Nat :=
  match painting.executor.places thread with
  | .running ⟨some job, _⟩ _ => job.width - painting.column thread
  | _ => 0

/-- More than the steps before the end of a run of row functions of the given width. -/
def ahead (width : Nat) (painting : Painting created) : Nat :=
  (width + 1) * painting.executor.ahead + ∑ thread, painting.remaining thread

/-- The threads go on. -/
def Advances : PaintingLabel created → Prop
  | .advance _ | .write _ => True
  | _ => False

/-- Row functions of the given width, as long as a run is under way. -/
structure Going (width : Nat) (painting : Painting created) : Prop where
  kept : painting.Kept
  going : painting.executor.stopping = false
  width_eq : ∀ call, currentCall painting.executor.log = some call → call.job.width = width

namespace Going

variable {width : Nat} {thread : Option (Fin created)}

theorem write (going : painting.Going width)
    (taken : Painting.step (.write thread) painting = some next) :
    next.Going width ∧ next.ahead width < painting.ahead width := by
  have kept := going.kept.step (show Fits (.write thread : PaintingLabel created) from trivial) taken
  unfold Painting.step at taken
  dsimp only at taken
  split at taken
  next job rows row place =>
    split_ifs at taken with room
    cases taken
    refine ⟨⟨kept, going.going, going.width_eq⟩, ?_⟩
    apply Nat.add_lt_add_left
    apply Finset.sum_lt_sum
    · intro other _
      unfold remaining
      dsimp only
      by_cases same : other = thread
      · rw [same, place, Function.update_self]
        dsimp only
        omega
      · rw [Function.update_of_ne same]
    · refine ⟨thread, Finset.mem_univ thread, ?_⟩
      unfold remaining
      dsimp only
      rw [place, Function.update_self]
      dsimp only
      omega
  next => cases taken

theorem advance (going : painting.Going width)
    (taken : Painting.step (.advance thread) painting = some next) :
    next.Going width ∧ next.ahead width < painting.ahead width := by
  have kept := going.kept.step (show Fits (.advance thread : PaintingLabel created) from trivial)
    taken
  change (if painting.busy thread then none else _) = some next at taken
  split_ifs at taken
  obtain ⟨moved, isMoved, rfl⟩ := Option.map_eq_some_iff.mp taken
  have lower := going.kept.mode.advance_ahead going.going isMoved
  obtain ⟨others, advanced⟩ := advance_cases isMoved
  have sameWidth : ∀ call, currentCall moved.log = some call → call.job.width = width := by
    intro call current
    cases advanced with
    | silent log _ _ =>
        rw [log] at current
        exact going.width_eq call current
    | invokes _ _ log _ =>
        rw [log] at current
        obtain ⟨older, isOlder, rfl⟩ := Option.map_eq_some_iff.mp current
        exact going.width_eq older isOlder
    | completes _ _ log _ _ =>
        rw [log] at current
        obtain ⟨older, isOlder, rfl⟩ := Option.map_eq_some_iff.mp current
        exact going.width_eq older isOlder
    | returns log _ _ =>
        rw [log] at current
        cases current
  refine ⟨⟨kept, (stopping_of_advance isMoved).trans going.going, sameWidth⟩, ?_⟩
  -- a thread that enters its row function has the whole row before it
  have entered : ∀ other, remaining { painting with
        executor := moved
        column := Function.update painting.column thread 0 } other ≤
      painting.remaining other + if other = thread then width else 0 := by
    intro other
    by_cases same : other = thread
    · rw [if_pos same]
      unfold remaining
      dsimp only
      split
      next job rows row place =>
        obtain ⟨call, isTask, works⟩ := kept.mode.works place
        cases isTask
        have widthEq := sameWidth call works.current
        omega
      next => exact Nat.zero_le _
    · rw [if_neg same, Nat.add_zero]
      apply le_of_eq
      unfold remaining
      dsimp only
      rw [others other same, Function.update_of_ne same]
  have sum : ∑ other, remaining { painting with
        executor := moved
        column := Function.update painting.column thread 0 } other ≤
      ∑ other, painting.remaining other + width := by
    calc _ ≤ ∑ other, (painting.remaining other + if other = thread then width else 0) :=
          Finset.sum_le_sum fun other _ => entered other
      _ = ∑ other, painting.remaining other + width := by
          rw [Finset.sum_add_distrib, Finset.sum_ite_eq', if_pos (Finset.mem_univ thread)]
  have product : (width + 1) * (moved.ahead + 1) ≤ (width + 1) * painting.executor.ahead :=
    Nat.mul_le_mul_left _ lower
  rw [Nat.mul_succ] at product
  unfold ahead
  dsimp only
  omega

theorem step (going : painting.Going width) {label : PaintingLabel created}
    (advances : Advances label) (taken : Painting.step label painting = some next) :
    next.Going width ∧ next.ahead width < painting.ahead width := by
  cases label with
  | run job rows memory => exact advances.elim
  | destroy => exact advances.elim
  | advance thread => exact going.advance taken
  | write thread => exact going.write taken

/-- While a run is under way, some thread can go on. -/
theorem enabled (going : painting.Going width)
    (current : currentCall painting.executor.log = some call) :
    ∃ label, Advances label ∧ Painting.step label painting ≠ none := by
  obtain ⟨thread, moves⟩ := going.kept.mode.enabled current
  by_cases working : painting.busy thread = true
  · refine ⟨.write thread, trivial, ?_⟩
    unfold busy at working
    unfold Painting.step
    dsimp only
    split at working
    next job rows row place =>
      rw [if_pos (of_decide_eq_true working)]
      exact Option.some_ne_none _
    next => cases working
  · refine ⟨.advance thread, trivial, ?_⟩
    change (if painting.busy thread then none else _) ≠ none
    rw [if_neg working]
    intro stuck
    exact moves (Option.map_eq_none_iff.mp stuck)

end Going

/-! ### Runs -/

theorem kept_of_run {labels : List (PaintingLabel created)}
    {start : EncoderParallelExecutor RowJob created} (started : start.Started)
    {memory : Nat → UInt8}
    (run : Transition.Run step { executor := start, memory := memory, found := memory } labels
      painting)
    (fits : ∀ label ∈ labels, Fits label) : painting.Kept := by
  obtain ⟨sound, mode⟩ := started.sound
  have unused : start.log = [] := by
    cases started
    rfl
  apply run.invariant_of_labels (fun _ _ _ taken fit kept => kept.step fit taken) fits
  refine ⟨sound, mode, ?_, ?_⟩
  · intro call current
    dsimp only at current
    rw [unused] at current
    cases current
  · intro earlier returned
    dsimp only at returned
    rw [unused] at returned
    cases returned

end Painting

namespace VideoSixelEncoder

/-- The row function `encodeView` passes to the executor. -/
def rowJob (host : Host) (modes : Nat → SimdMode) (encoder : VideoSixelEncoder)
    (frame : FrameView) : RowJob where
  width := frame.width.toNat
  cell := encoder.cell host modes frame

/-- With the indices laid out row by row, `encodeView` goes on as the plain loop does. -/
theorem encodeMapped_layRows (host : Host) (modes : Nat → SimdMode) (encoder : VideoSixelEncoder)
    {frame : FrameView} (listed : bytesPerPixel frame.format ≠ 0) :
    encoder.encodeMapped host frame
        (layRows (encoder.cell host modes frame) frame.width.toNat frame.height.toNat) =
      encoder.encodeView host frame := by
  obtain ⟨schedule, final, run, finished⟩ :=
    WorkerPool.exists_finished (encoder.cell host modes frame) frame.width.toNat
      frame.height.toNat fun offset => encoder.paletteIndices.getD offset 0
  have encodes : encoder.EncodesView host frame (encoder.encodeMapped host frame
      ((List.range (frame.height.toNat * frame.width.toNat)).map final.memory)) :=
    ⟨Unit, inferInstance, inferInstance, schedule, modes, final, run, finished, rfl⟩
  rw [← encodes.eq listed, (WorkerPool.memory_of_finished run finished).1]

end VideoSixelEncoder

namespace Painting

variable {created : Nat} {painting next : Painting created} {call : Call RowJob}

/-- Whatever the schedule, no two threads ever write the same row, a run of row functions comes
to its end in boundedly many steps, and the vector it leaves is the one of the plain loop over
the rows, behind which nothing has changed: an `encodeView` that went through the executor leaves
what a plain one leaves. -/
theorem parallel_rows_painted {labels : List (PaintingLabel created)}
    {start : EncoderParallelExecutor RowJob created} (started : start.Started)
    {memory : Nat → UInt8}
    (run : Transition.Run step { executor := start, memory := memory, found := memory } labels
      painting)
    (fits : ∀ label ∈ labels, Fits label) :
    (∀ thread other task otherTask row otherRow,
      painting.executor.places thread = .running task row →
      painting.executor.places other = .running otherTask otherRow →
      thread ≠ other → row ≠ otherRow) ∧
    (currentCall painting.executor.log ≠ none → ∃ bound, ∀ more after,
      Transition.Run step painting more after → (∀ label ∈ more, Advances label) →
        more.length ≤ bound ∧
          ((∀ label, Advances label → step label after = none) →
            currentCall after.executor.log = none)) ∧
    ∀ earlier, painting.executor.log = .returned :: earlier →
      ∃ call, currentCall earlier = some call ∧
        (List.range (call.rows.toNat * call.job.width)).map painting.memory =
          layRows call.job.cell call.job.width call.rows.toNat ∧
        (∀ offset, call.rows.toNat * call.job.width ≤ offset →
          painting.memory offset = painting.found offset) ∧
        ∀ (host : Host) (modes : Nat → SimdMode) (encoder : VideoSixelEncoder) (frame : FrameView),
          bytesPerPixel frame.format ≠ 0 → call.job = encoder.rowJob host modes frame →
          call.rows = frame.height →
          encoder.encodeMapped host frame
              ((List.range (call.rows.toNat * call.job.width)).map painting.memory) =
            encoder.encodeView host frame := by
  have kept := kept_of_run started run fits
  refine ⟨?_, ?_, ?_⟩
  · intro thread other task otherTask row otherRow held otherHeld different same
    obtain ⟨_, -, works⟩ := kept.mode.works held
    rw [← same] at otherHeld
    exact different (works.alone other otherTask otherHeld).symm
  · intro underWay
    obtain ⟨call, current⟩ := Option.ne_none_iff_exists'.mp underWay
    have going : painting.Going call.job.width := by
      refine ⟨kept, kept.mode.going current, ?_⟩
      intro other isOther
      rw [current] at isOther
      cases isOther
      rfl
    refine ⟨painting.ahead call.job.width, ?_⟩
    intro more after further advances
    refine ⟨further.length_le (fun _ _ _ taken allowed holds => Going.step holds allowed taken)
      advances going, ?_⟩
    intro stuck
    have later := further.invariant_of_labels
      (fun _ _ _ taken allowed holds => (Going.step holds allowed taken).1) advances going
    by_contra stillUnderWay
    obtain ⟨lateCall, lateCurrent⟩ := Option.ne_none_iff_exists'.mp stillUnderWay
    obtain ⟨label, allowed, moves⟩ := later.enabled lateCurrent
    exact moves (stuck label allowed)
  · intro earlier returned
    obtain ⟨call, current, complete⟩ := kept.returned earlier returned
    have laid := map_range_eq_layRows complete.done
    refine ⟨call, current, laid, complete.kept, ?_⟩
    intro host modes encoder frame listed isJob isHeight
    rw [laid, isJob, isHeight]
    exact encoder.encodeMapped_layRows host modes listed

private theorem returned_of_over {log : List (ExecutorEntry RowJob)}
    (ended : currentCall log = none) (underWay : (currentCall log.tail).isSome) :
    ∃ earlier, log = .returned :: earlier := by
  cases log with
  | nil => cases underWay
  | cons entry earlier =>
    obtain ⟨call, current⟩ := Option.isSome_iff_exists.mp underWay
    rw [List.tail_cons] at current
    cases entry with
    | called job rows => cases ended
    | invoked job row =>
        unfold currentCall at ended
        rw [current] at ended
        cases ended
    | completed job row =>
        unfold currentCall at ended
        rw [current] at ended
        cases ended
    | returned => exact ⟨earlier, rfl⟩

/-- Two threads write the rows of an image of two by two in turns. -/
theorem parallel_rows_painted_two :
    ∃ final : Painting 1, (∃ earlier, final.executor.log = .returned :: earlier) ∧
      (List.range 5).map final.memory = [1, 2, 11, 12, 0] ∧
      ∀ earlier, final.executor.log = .returned :: earlier →
        ∃ call, currentCall earlier = some call ∧
          (List.range (call.rows.toNat * call.job.width)).map final.memory =
            layRows call.job.cell call.job.width call.rows.toNat := by
  let job : RowJob := { width := 2, cell := fun column row => UInt8.ofNat (1 + column + 10 * row) }
  let memory : Nat → UInt8 := fun _ => 0
  let labels : List (PaintingLabel 1) :=
    [.run job 2 memory, .advance none, .advance (some 0), .advance (some 0), .advance none,
      .advance (some 0), .write none, .write (some 0), .write none, .write (some 0),
      .advance none, .advance (some 0), .advance none, .advance none, .advance (some 0),
      .advance (some 0), .advance (some 0), .advance none]
  have ends : (Transition.exec step labels
        { executor := make 2 1, memory := memory, found := memory }).map (fun final =>
        ((currentCall final.executor.log).isNone,
          (currentCall final.executor.log.tail).isSome, (List.range 5).map final.memory)) =
      some (true, true, [1, 2, 11, 12, 0]) := by
    decide +kernel
  obtain ⟨final, executed, seen⟩ := Option.map_eq_some_iff.mp ends
  obtain ⟨ended, underWay, written⟩ := by simpa only [Prod.mk.injEq] using seen
  have fits : ∀ label ∈ labels, Fits label := by
    simp [labels, Fits, EncoderParallelExecutor.Fits, intMax]
  refine ⟨final, ?_, written, ?_⟩
  · exact returned_of_over (Option.isNone_iff_eq_none.mp ended) underWay
  · intro earlier returned
    obtain ⟨call, current, laid, -⟩ := (parallel_rows_painted (.intro 2 1 (by decide +kernel))
      (Transition.run_iff_exec.mpr executed) fits).2.2 earlier returned
    exact ⟨call, current, laid⟩

end Painting

end Rasterm
