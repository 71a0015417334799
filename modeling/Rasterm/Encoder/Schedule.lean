import Mathlib.Data.Fintype.Option
import Rasterm.Encoder.Executor

/-!
Contract: the schedules of the `EncoderParallelExecutor`.

Owns the invariant of every schedule: which worker has joined the run, who holds which
row, and how many have yet to sign off.

Does not own when a run is worth it; `usefulFor` decides that before.
-/

set_option autoImplicit false

universe u

namespace Rasterm

open History Tickets

variable {Job : Type u}

/-! ### Reading a log -/

namespace Call

variable (call : Call Job) (job : Option Job) (row : Int)

theorem invocations_invoked : (call.add (.invoked job row)).invocations =
    Function.update call.invocations row (call.invocations row + 1) := by
  funext other
  unfold invocations add
  rw [List.countP_cons]
  by_cases same : other = row
  · have own : ExecutorEntry.invokes other (.invoked job row) = true := decide_eq_true same.symm
    rw [if_pos own, same, Function.update_self]
  · rw [Function.update_of_ne same, if_neg, Nat.add_zero]
    exact fun found => same (of_decide_eq_true found).symm

theorem completions_invoked : (call.add (.invoked job row)).completions = call.completions := by
  funext other
  unfold completions add
  rw [List.countP_cons_of_neg Bool.false_ne_true]

theorem invocations_completed :
    (call.add (.completed job row)).invocations = call.invocations := by
  funext other
  unfold invocations add
  rw [List.countP_cons_of_neg Bool.false_ne_true]

theorem completions_completed : (call.add (.completed job row)).completions =
    Function.update call.completions row (call.completions row + 1) := by
  funext other
  unfold completions add
  rw [List.countP_cons]
  by_cases same : other = row
  · have own : ExecutorEntry.completes other (.completed job row) = true :=
      decide_eq_true same.symm
    rw [if_pos own, same, Function.update_self]
  · rw [Function.update_of_ne same, if_neg, Nat.add_zero]
    exact fun found => same (of_decide_eq_true found).symm

end Call

theorem currentCall_invoked {earlier : List (ExecutorEntry Job)} {call : Call Job}
    (current : currentCall earlier = some call) (job : Option Job) (row : Int) :
    currentCall (.invoked job row :: earlier) = some (call.add (.invoked job row)) :=
  congrArg (Option.map (Call.add · (.invoked job row))) current

theorem currentCall_completed {earlier : List (ExecutorEntry Job)} {call : Call Job}
    (current : currentCall earlier = some call) (job : Option Job) (row : Int) :
    currentCall (.completed job row :: earlier) = some (call.add (.completed job row)) :=
  congrArg (Option.map (Call.add · (.completed job row))) current

/-! ### Threads of a run -/

namespace Place

def isOutside : Place Job → Bool
  | outside => true
  | _ => false

/-- The thread may have this place in a run of the task. -/
def Serves (task : Task Job) : Place Job → Prop
  | outside | left => True
  | taking own | holding own _ | running own _ => own = task
  | looping _ _ | gone => False

/-- Where the thread is in drawing rows, when it has joined the run or not. -/
def stage (joined : Bool) : Place Job → Stage
  | outside => if joined then .through else .free
  | looping _ _ | taking _ | gone => .free
  | holding _ row => .claimed row false
  | running _ row => .claimed row true
  | left => .through

theorem stage_of_inside {place : Place Job} (inside : place.isOutside = false)
    (joined other : Bool) : place.stage joined = place.stage other := by
  cases place with
  | outside => cases inside
  | _ => rfl

end Place

namespace EncoderParallelExecutor

variable {created : Nat} {executor next : EncoderParallelExecutor Job created} {call : Call Job}

theorem move_places_self (executor : EncoderParallelExecutor Job created)
    (thread : Option (Fin created)) (place : Place Job) :
    (executor.move thread place).places thread = place := by
  dsimp only [move]
  rw [Function.update_self]

theorem move_places_of_ne (executor : EncoderParallelExecutor Job created)
    {thread other : Option (Fin created)} (different : other ≠ thread) (place : Place Job) :
    (executor.move thread place).places other = executor.places other := by
  dsimp only [move]
  rw [Function.update_of_ne different]

/-- A worker has seen the generation of the run. -/
def joined (executor : EncoderParallelExecutor Job created) : Option (Fin created) → Bool
  | none => true
  | some worker => executor.observedGeneration worker == executor.generation

def stages (executor : EncoderParallelExecutor Job created) (thread : Option (Fin created)) : Stage :=
  (executor.places thread).stage (executor.joined thread)

theorem joined_join (executor : EncoderParallelExecutor Job created) (worker : Fin created)
    (place : Place Job) :
    joined
        ({ executor with
          observedGeneration := Function.update executor.observedGeneration worker
            executor.generation }.move (some worker) place) =
      Function.update executor.joined (some worker) true := by
  funext thread
  cases thread with
  | none => rfl
  | some other =>
      dsimp only [joined, move]
      by_cases same : other = worker
      · subst same
        rw [Function.update_self, Function.update_self, beq_self_eq_true]
      · have different : some other ≠ some worker := fun equal => same (Option.some.inj equal)
        rw [Function.update_of_ne same, Function.update_of_ne different]
        rfl

/-- A worker has not signed off from the run. -/
def unfinished (executor : EncoderParallelExecutor Job created) (worker : Fin created) : Bool :=
  !((executor.places (some worker)).isOutside && executor.joined (some worker))

/-- No run is under way. -/
structure Resting (executor : EncoderParallelExecutor Job created) : Prop where
  current : currentCall executor.log = none
  going : executor.stopping = false
  places : ∀ thread, executor.places thread = .outside
  joined : ∀ thread, executor.joined thread = true

/-- A run in which the workers take part. -/
structure Parallel (executor : EncoderParallelExecutor Job created) (call : Call Job) : Prop where
  current : currentCall executor.log = some call
  going : executor.stopping = false
  populated : executor.workerCount = created ∧ created ≠ 0
  room : max 0 call.rows + (created + 1) ≤ intMax
  task : executor.task = ⟨some call.job, call.rows⟩
  caller : (executor.places none).isOutside = false
  serves : ∀ thread, (executor.places thread).Serves ⟨some call.job, call.rows⟩
  observed : ∀ worker, executor.joined (some worker) = true ∨
    executor.observedGeneration worker + 1 = executor.generation ∧
      executor.places (some worker) = .outside
  remaining : executor.remainingWorkers = howMany executor.unfinished
  drawn : Drawn call.rows executor.nextRow executor.stages call.invocations call.completions

/-- A run that the caller works off alone. -/
structure Serial (executor : EncoderParallelExecutor Job created) (call : Call Job) : Prop where
  current : currentCall executor.log = some call
  going : executor.stopping = false
  alone : created = 0
  drawn :
    (∃ row, executor.places none = .looping ⟨some call.job, call.rows⟩ row ∧
      Drawn call.rows row (fun _ : Unit => .free) call.invocations call.completions) ∨
    ∃ row, executor.places none = .running ⟨some call.job, call.rows⟩ row ∧
      Drawn call.rows (row + 1) (fun _ : Unit => .claimed row true) call.invocations
        call.completions

/-- The destructor has begun. -/
structure Stopped (executor : EncoderParallelExecutor Job created) : Prop where
  current : currentCall executor.log = none
  stopping : executor.stopping = true
  caller : executor.places none = .gone
  workers : ∀ worker, executor.places (some worker) = .outside ∨
    executor.places (some worker) = .gone

/-- Between its calls, in one of them, or past its end. -/
inductive Mode (executor : EncoderParallelExecutor Job created) : Prop where
  | resting (resting : executor.Resting)
  | parallel (call : Call Job) (parallel : executor.Parallel call)
  | serial (call : Call Job) (serial : executor.Serial call)
  | stopped (stopped : executor.Stopped)

/-- What the log and the number of threads keep to. -/
structure Sound (executor : EncoderParallelExecutor Job created) : Prop where
  called : Everywhere CalledInTurn executor.log
  invoked : Everywhere InvokedInRun executor.log
  complete : Everywhere CompleteAtReturn executor.log
  room : (created : Int) + 1 ≤ executor.threadCount
  threads : executor.threadCount ≤ 16

namespace Parallel

variable {thread : Option (Fin created)} {place : Place Job}

/-- A thread in the run goes from place to place. -/
theorem go (parallel : executor.Parallel call) {after : Call Job} {nextRow : Int}
    {log : List (ExecutorEntry Job)} (inside : (executor.places thread).isOutside = false)
    (stays : place.isOutside = false) (serves : place.Serves ⟨some call.job, call.rows⟩)
    (current : currentCall log = some after) (job : after.job = call.job)
    (rows : after.rows = call.rows)
    (drawn : Drawn call.rows nextRow (Function.update executor.stages thread (place.stage true))
      after.invocations after.completions) :
    Parallel
      { executor with
        nextRow := nextRow
        places := Function.update executor.places thread place
        log := log } after where
  current := current
  going := parallel.going
  populated := parallel.populated
  room := by
    rw [rows]
    exact parallel.room
  task := by
    rw [job, rows]
    exact parallel.task
  caller := by
    dsimp only
    by_cases same : none = thread
    · subst same
      rw [Function.update_self]
      exact stays
    · rw [Function.update_of_ne same]
      exact parallel.caller
  serves := by
    rw [job, rows]
    intro other
    dsimp only
    by_cases same : other = thread
    · subst same
      rw [Function.update_self]
      exact serves
    · rw [Function.update_of_ne same]
      exact parallel.serves other
  observed := by
    intro worker
    rcases parallel.observed worker with joined | ⟨late, outside⟩
    · exact Or.inl joined
    · refine Or.inr ⟨late, ?_⟩
      dsimp only
      rw [Function.update_of_ne, outside]
      rintro rfl
      rw [outside] at inside
      cases inside
  remaining := by
    dsimp only
    rw [parallel.remaining]
    congr 1
    funext worker
    unfold unfinished
    dsimp only
    by_cases same : some worker = thread
    · subst same
      rw [inside, Function.update_self, stays, Bool.false_and, Bool.false_and]
    · rw [Function.update_of_ne same]
      rfl
  drawn := by
    rw [rows]
    convert drawn using 1
    funext other
    unfold stages
    dsimp only
    by_cases same : other = thread
    · subst same
      rw [Function.update_self, Function.update_self]
      exact Place.stage_of_inside stays _ _
    · rw [Function.update_of_ne same, Function.update_of_ne same]
      rfl

/-- The rows of a parallel run fit the counter. -/
theorem wrapInt_nextRow (parallel : executor.Parallel call)
    (free : executor.stages thread = .free) :
    wrapInt (executor.nextRow + 1) = executor.nextRow + 1 := by
  have drawn := parallel.drawn.draw free
  have bound := drawn.counter_le
  have room := parallel.room
  have threads := howMany_le fun other =>
    (Function.update executor.stages thread (.claimed executor.nextRow false) other).past call.rows
  rw [Fintype.card_option, Fintype.card_fin] at threads
  exact wrapInt_of_mem drawn.counter_nonneg (by omega)

/-- Who is past `processRows` has seen the generation of the run. -/
theorem joined_of_left (parallel : executor.Parallel call) {worker : Fin created}
    (place : executor.places (some worker) = .left) : executor.joined (some worker) = true := by
  rcases parallel.observed worker with joined | ⟨-, outside⟩
  · exact joined
  · rw [outside] at place
    cases place

theorem take (parallel : executor.Parallel call) {task : Task Job}
    (place : executor.places thread = .taking task) :
    Parallel
      ({ executor with nextRow := wrapInt (executor.nextRow + 1) }.move thread
        (.holding task executor.nextRow)) call := by
  have own := parallel.serves thread
  rw [place] at own
  have free : executor.stages thread = .free := by rw [stages, place]; rfl
  rw [parallel.wrapInt_nextRow free]
  exact parallel.go (by rw [place]; rfl) rfl own parallel.current rfl rfl (parallel.drawn.draw free)

theorem pass (parallel : executor.Parallel call) {task : Task Job} {row : Int}
    (place : executor.places thread = .holding task row) (beyond : task.rows ≤ row) :
    Parallel (executor.move thread .left) call := by
  have own := parallel.serves thread
  rw [place] at own
  have claim : executor.stages thread = .claimed row false := by rw [stages, place]; rfl
  have past : call.rows ≤ row := by
    rw [own] at beyond
    exact beyond
  exact parallel.go (by rw [place]; rfl) rfl trivial parallel.current rfl rfl
    (parallel.drawn.pass claim past)

theorem invoke (parallel : executor.Parallel call) {task : Task Job} {row : Int}
    (place : executor.places thread = .holding task row) (inside : row < task.rows) :
    Parallel ((executor.note (.invoked task.job row)).move thread (.running task row))
      (call.add (.invoked task.job row)) := by
  have own := parallel.serves thread
  rw [place] at own
  have claim : executor.stages thread = .claimed row false := by rw [stages, place]; rfl
  have wanted : row < call.rows := by
    rw [own] at inside
    exact inside
  refine parallel.go (by rw [place]; rfl) rfl own (currentCall_invoked parallel.current _ _) rfl
    rfl ?_
  rw [Call.invocations_invoked, Call.completions_invoked]
  exact parallel.drawn.begin_work claim wanted

theorem complete (parallel : executor.Parallel call) {task : Task Job} {row : Int}
    (place : executor.places thread = .running task row) :
    Parallel ((executor.note (.completed task.job row)).move thread (.taking task))
      (call.add (.completed task.job row)) := by
  have own := parallel.serves thread
  rw [place] at own
  have claim : executor.stages thread = .claimed row true := by rw [stages, place]; rfl
  refine parallel.go (by rw [place]; rfl) rfl own (currentCall_completed parallel.current _ _) rfl
    rfl ?_
  rw [Call.invocations_completed, Call.completions_completed]
  exact parallel.drawn.end_work claim

/-- A worker joins the run. -/
theorem join (parallel : executor.Parallel call) {worker : Fin created}
    (place : executor.places (some worker) = .outside)
    (late : executor.joined (some worker) = false) :
    Parallel
      ({ executor with
        observedGeneration := Function.update executor.observedGeneration worker
          executor.generation }.move (some worker) (.taking executor.task)) call where
  current := parallel.current
  going := parallel.going
  populated := parallel.populated
  room := parallel.room
  task := parallel.task
  caller := parallel.caller
  serves := by
    intro other
    by_cases same : other = some worker
    · rw [same, move_places_self]
      exact parallel.task
    · rw [move_places_of_ne _ same]
      exact parallel.serves other
  observed := by
    intro other
    rw [joined_join]
    by_cases same : some other = some worker
    · rw [same, Function.update_self]
      exact Or.inl rfl
    · have different : other ≠ worker := fun equal => same (congrArg some equal)
      rw [Function.update_of_ne same, move_places_of_ne _ same]
      dsimp only [move]
      rw [Function.update_of_ne different]
      exact parallel.observed other
  remaining := by
    have same_unfinished : unfinished
        ({ executor with
          observedGeneration := Function.update executor.observedGeneration worker
            executor.generation }.move (some worker) (.taking executor.task)) =
        executor.unfinished := by
      funext other
      rw [unfinished, unfinished, joined_join]
      by_cases same : some other = some worker
      · rw [same, Function.update_self, move_places_self, place, late]
        rfl
      · rw [Function.update_of_ne same, move_places_of_ne _ same]
    rw [same_unfinished]
    exact parallel.remaining
  drawn := by
    have same_stages : stages
        ({ executor with
          observedGeneration := Function.update executor.observedGeneration worker
            executor.generation }.move (some worker) (.taking executor.task)) =
        executor.stages := by
      funext other
      rw [stages, stages, joined_join]
      by_cases same : other = some worker
      · rw [same, Function.update_self, move_places_self, place, late]
        rfl
      · rw [Function.update_of_ne same, move_places_of_ne _ same]
    rw [same_stages]
    exact parallel.drawn

/-- A worker signs off. -/
theorem signOff (parallel : executor.Parallel call) {worker : Fin created}
    (place : executor.places (some worker) = .left) :
    Parallel
      ({ executor with remainingWorkers := executor.remainingWorkers - 1 }.move (some worker)
        .outside) call where
  current := parallel.current
  going := parallel.going
  populated := parallel.populated
  room := parallel.room
  task := parallel.task
  caller := parallel.caller
  serves := by
    intro other
    by_cases same : other = some worker
    · rw [same, move_places_self]
      trivial
    · rw [move_places_of_ne _ same]
      exact parallel.serves other
  observed := by
    intro other
    rcases parallel.observed other with joined | ⟨late, outside⟩
    · exact Or.inl joined
    · refine Or.inr ⟨late, ?_⟩
      by_cases same : some other = some worker
      · rw [same, move_places_self]
      · rw [move_places_of_ne _ same]
        exact outside
  remaining := by
    have joined := parallel.joined_of_left place
    have before : executor.unfinished worker = true := by rw [unfinished, place]; rfl
    have moved := howMany_update executor.unfinished worker false
    rw [if_pos before, if_neg Bool.false_ne_true] at moved
    have after : unfinished
        ({ executor with remainingWorkers := executor.remainingWorkers - 1 }.move (some worker)
          .outside) = Function.update executor.unfinished worker false := by
      funext other
      by_cases same : other = worker
      · rw [unfinished, same, move_places_self, Function.update_self]
        exact congrArg not joined
      · have different : some other ≠ some worker := fun equal => same (Option.some.inj equal)
        rw [unfinished, move_places_of_ne _ different, Function.update_of_ne same]
        rfl
    rw [after]
    dsimp only [move]
    rw [parallel.remaining]
    omega
  drawn := by
    have same_stages : stages
        ({ executor with remainingWorkers := executor.remainingWorkers - 1 }.move (some worker)
          .outside) = executor.stages := by
      funext other
      by_cases same : other = some worker
      · have after : Place.stage (executor.joined (some worker)) (.outside : Place Job) =
            (.left : Place Job).stage (executor.joined (some worker)) := by
          rw [parallel.joined_of_left place]
          rfl
        rw [stages, stages, same, place, ← after, move_places_self]
        rfl
      · rw [stages, stages, move_places_of_ne _ same]
        rfl
    rw [same_stages]
    exact parallel.drawn

/-- The caller has seen every worker sign off. -/
theorem returns (parallel : executor.Parallel call) (place : executor.places none = .left)
    (nobody : executor.remainingWorkers = 0) :
    CompleteAtReturn .returned executor.log ∧
      Resting ((executor.note .returned).move none .outside) := by
  have finished : ∀ worker, executor.unfinished worker = false := by
    rw [← howMany_eq_zero_iff, ← parallel.remaining]
    exact nobody
  have workers : ∀ worker, executor.places (some worker) = .outside ∧
      executor.joined (some worker) = true := by
    intro worker
    have settled := finished worker
    rw [unfinished, Bool.not_eq_false', Bool.and_eq_true] at settled
    refine ⟨?_, settled.2⟩
    cases held : executor.places (some worker) with
    | outside => rfl
    | _ =>
        rw [held] at settled
        exact absurd settled.1 Bool.false_ne_true
  have through : ∀ thread, executor.stages thread = .through := by
    intro thread
    cases thread with
    | none => rw [stages, place]; rfl
    | some worker => rw [stages, (workers worker).1, (workers worker).2]; rfl
  constructor
  · intro _
    refine ⟨call, parallel.current, ?_⟩
    apply parallel.drawn.complete (parallel.drawn.through none (through none))
    intro thread number started claim
    rw [through thread] at claim
    cases claim
  · refine ⟨rfl, parallel.going, ?_, ?_⟩
    · intro thread
      cases thread with
      | none => exact move_places_self _ _ _
      | some worker =>
          rw [move_places_of_ne _ (Option.some_ne_none worker)]
          exact (workers worker).1
    · intro thread
      cases thread with
      | none => rfl
      | some worker => exact (workers worker).2

end Parallel

/-! ### Steps -/

namespace Sound

theorem of_log (sound : executor.Sound) (log : next.log = executor.log)
    (threads : next.threadCount = executor.threadCount) : next.Sound := by
  refine ⟨?_, ?_, ?_, ?_, ?_⟩
  · rw [log]
    exact sound.called
  · rw [log]
    exact sound.invoked
  · rw [log]
    exact sound.complete
  · rw [threads]
    exact sound.room
  · rw [threads]
    exact sound.threads

theorem of_note {entry : ExecutorEntry Job} (sound : executor.Sound)
    (log : next.log = entry :: executor.log) (threads : next.threadCount = executor.threadCount)
    (called : CalledInTurn entry executor.log) (invoked : InvokedInRun entry executor.log)
    (complete : CompleteAtReturn entry executor.log) : next.Sound := by
  refine ⟨?_, ?_, ?_, ?_, ?_⟩
  · rw [log, everywhere_cons]
    exact ⟨called, sound.called⟩
  · rw [log, everywhere_cons]
    exact ⟨invoked, sound.invoked⟩
  · rw [log, everywhere_cons]
    exact ⟨complete, sound.complete⟩
  · rw [threads]
    exact sound.room
  · rw [threads]
    exact sound.threads

theorem of_invoked (sound : executor.Sound) {job : Option Job} {row : Int}
    (log : next.log = .invoked job row :: executor.log)
    (threads : next.threadCount = executor.threadCount)
    (current : currentCall executor.log = some call) (own : job = some call.job)
    (nonneg : 0 ≤ row) (inside : row < call.rows) : next.Sound := by
  refine sound.of_note log threads ?_ ?_ ?_
  · intro other rows impossible
    cases impossible
  · intro other otherRow same
    cases same
    exact ⟨call, current, own, nonneg, inside⟩
  · intro impossible
    cases impossible

theorem of_completed (sound : executor.Sound) {job : Option Job} {row : Int}
    (log : next.log = .completed job row :: executor.log)
    (threads : next.threadCount = executor.threadCount) : next.Sound := by
  refine sound.of_note log threads ?_ ?_ ?_
  · intro other rows impossible
    cases impossible
  · intro other otherRow impossible
    cases impossible
  · intro impossible
    cases impossible

theorem of_returned (sound : executor.Sound) (log : next.log = .returned :: executor.log)
    (threads : next.threadCount = executor.threadCount)
    (complete : CompleteAtReturn .returned executor.log) : next.Sound := by
  refine sound.of_note log threads ?_ ?_ complete
  · intro other rows impossible
    cases impossible
  · intro other otherRow impossible
    cases impossible

theorem of_called (sound : executor.Sound) {job : Job} {rows : Int}
    (log : next.log = .called job rows :: executor.log)
    (threads : next.threadCount = executor.threadCount)
    (current : currentCall executor.log = none) : next.Sound := by
  refine sound.of_note log threads ?_ ?_ ?_
  · intro other otherRows _
    exact current
  · intro other otherRow impossible
    cases impossible
  · intro impossible
    cases impossible

end Sound

theorem Parallel.started_of (parallel : executor.Parallel call) : executor.started = true := by
  by_contra off
  have counted := parallel.populated.1
  rw [workerCount, if_neg off] at counted
  exact parallel.populated.2 counted.symm

theorem Parallel.on (parallel : executor.Parallel call) : ¬ executor.started = false := by
  rw [parallel.started_of]
  exact Bool.noConfusion

theorem Parallel.not_stopping (parallel : executor.Parallel call) : ¬ executor.stopping = true := by
  rw [parallel.going]
  exact Bool.false_ne_true

/-- Only a worker that has not joined the run takes a step from outside of it. -/
theorem Parallel.joins_of_outside (parallel : executor.Parallel call)
    {thread : Option (Fin created)} (place : executor.places thread = .outside)
    (taken : executor.advance thread = some next) :
    ∃ worker, thread = some worker ∧ executor.joined (some worker) = false ∧
      next = { executor with
        observedGeneration := Function.update executor.observedGeneration worker
          executor.generation }.move (some worker) (.taking executor.task) := by
  unfold advance at taken
  rw [place] at taken
  cases thread with
  | none =>
      have inside := parallel.caller
      rw [place] at inside
      cases inside
  | some worker =>
      change executor.wake worker = some next at taken
      rw [wake, if_neg parallel.on, if_neg parallel.not_stopping] at taken
      split_ifs at taken with late
      cases taken
      exact ⟨worker, rfl, beq_eq_false_iff_ne.mpr late.symm, rfl⟩

/-- One step of one thread in a run with workers. -/
theorem Parallel.advance_mode (parallel : executor.Parallel call) (sound : executor.Sound)
    {thread : Option (Fin created)} (taken : executor.advance thread = some next) :
    next.Sound ∧ next.Mode := by
  have serves := parallel.serves thread
  by_cases outside : executor.places thread = .outside
  · obtain ⟨worker, rfl, unseen, rfl⟩ := parallel.joins_of_outside outside taken
    exact ⟨sound.of_log rfl rfl, .parallel call (parallel.join outside unseen)⟩
  unfold advance at taken
  cases place : executor.places thread with
  | outside => exact absurd place outside
  | looping task row =>
      rw [place] at serves
      exact serves.elim
  | taking task =>
      rw [place] at taken
      cases taken
      exact ⟨sound.of_log rfl rfl, .parallel call (parallel.take place)⟩
  | holding task row =>
      rw [place] at taken serves
      dsimp only at taken
      split_ifs at taken with beyond
      · cases taken
        exact ⟨sound.of_log rfl rfl, .parallel call (parallel.pass place beyond)⟩
      · cases taken
        have inside := lt_of_not_ge beyond
        have claim : executor.stages thread = .claimed row false := by rw [stages, place]; rfl
        refine ⟨sound.of_invoked rfl rfl parallel.current (congrArg Task.job serves)
          (parallel.drawn.claimed thread row false claim).1 ?_,
          .parallel _ (parallel.invoke place inside)⟩
        rw [serves] at inside
        exact inside
  | running task row =>
      rw [place] at taken
      dsimp only at taken
      rw [parallel.populated.1, if_neg parallel.populated.2] at taken
      cases taken
      exact ⟨sound.of_completed rfl rfl, .parallel _ (parallel.complete place)⟩
  | left =>
      rw [place] at taken
      cases thread with
      | none =>
          dsimp only [leave] at taken
          split_ifs at taken with nobody
          cases taken
          obtain ⟨complete, resting⟩ := parallel.returns place nobody
          exact ⟨sound.of_returned rfl rfl complete, .resting resting⟩
      | some worker =>
          cases taken
          exact ⟨sound.of_log rfl rfl, .parallel call (parallel.signOff place)⟩
  | gone =>
      rw [place] at serves
      exact serves.elim

theorem Serial.eq_none (serial : executor.Serial call) (thread : Option (Fin created)) :
    thread = none := by
  cases thread with
  | none => rfl
  | some worker => exact (serial.alone ▸ worker).elim0

theorem Serial.workerCount_eq (serial : executor.Serial call) : executor.workerCount = 0 := by
  rw [workerCount]
  split_ifs
  · exact serial.alone
  · rfl

/-- One step of the caller in a run without workers. -/
theorem Serial.advance_mode (serial : executor.Serial call) (sound : executor.Sound)
    {thread : Option (Fin created)} (taken : executor.advance thread = some next) :
    next.Sound ∧ next.Mode := by
  obtain rfl := serial.eq_none thread
  have nobody := serial.workerCount_eq
  unfold advance at taken
  rcases serial.drawn with ⟨row, place, drawn⟩ | ⟨row, place, drawn⟩
  · rw [place] at taken
    dsimp only at taken
    split_ifs at taken with inside
    · cases taken
      have claimed : Drawn call.rows (row + 1)
          (Function.update (fun _ : Unit => Stage.free) () (.claimed row false)) call.invocations
          call.completions :=
        drawn.draw rfl
      have begun := claimed.begin_work (Function.update_self () _ _) inside
      rw [Function.update_eq_const_of_subsingleton] at begun
      refine ⟨sound.of_invoked rfl rfl serial.current rfl drawn.counter_nonneg inside,
        .serial _ ⟨currentCall_invoked serial.current _ _, serial.going, serial.alone,
          Or.inr ⟨row, ?_, ?_⟩⟩⟩
      · exact move_places_self _ _ _
      · rw [Call.invocations_invoked, Call.completions_invoked]
        exact begun
    · cases taken
      have complete : CompleteAtReturn .returned executor.log := by
        intro _
        refine ⟨call, serial.current, ?_⟩
        apply drawn.complete (not_lt.mp inside)
        intro thread number started claim
        cases claim
      refine ⟨sound.of_returned rfl rfl complete, .resting ⟨rfl, serial.going, ?_, ?_⟩⟩
      · intro thread
        rw [serial.eq_none thread]
        exact move_places_self _ _ _
      · intro thread
        rw [serial.eq_none thread]
        rfl
  · rw [place] at taken
    dsimp only at taken
    rw [if_pos nobody] at taken
    cases taken
    have ended : Drawn call.rows (row + 1)
        (Function.update (fun _ : Unit => Stage.claimed row true) () .free) call.invocations
        (Function.update call.completions row (call.completions row + 1)) :=
      drawn.end_work rfl
    rw [Function.update_eq_const_of_subsingleton] at ended
    refine ⟨sound.of_completed rfl rfl, .serial _
      ⟨currentCall_completed serial.current _ _, serial.going, serial.alone,
        Or.inl ⟨row + 1, ?_, ?_⟩⟩⟩
    · exact move_places_self _ _ _
    · rw [Call.invocations_completed, Call.completions_completed]
      exact ended

/-- Without a run, no thread can go on. -/
theorem Resting.advance_none (resting : executor.Resting) (thread : Option (Fin created)) :
    executor.advance thread = none := by
  unfold advance
  rw [resting.places thread]
  cases thread with
  | none => rfl
  | some worker =>
      have going : ¬ executor.stopping = true := by
        rw [resting.going]
        exact Bool.false_ne_true
      have seen : ¬ executor.generation ≠ executor.observedGeneration worker :=
        not_not.mpr (eq_of_beq (resting.joined (some worker))).symm
      rw [Option.bind_some, wake, if_neg going, if_neg seen, ite_self]

theorem Stopped.advance_mode (stopped : executor.Stopped) (sound : executor.Sound)
    {thread : Option (Fin created)} (taken : executor.advance thread = some next) :
    next.Sound ∧ next.Mode := by
  unfold advance at taken
  cases thread with
  | none =>
      rw [stopped.caller] at taken
      cases taken
  | some worker =>
      rcases stopped.workers worker with place | place
      · rw [place] at taken
        dsimp only [Option.bind_some, wake] at taken
        rw [if_pos stopped.stopping] at taken
        split_ifs at taken
        cases taken
        refine ⟨sound.of_log rfl rfl, .stopped ⟨stopped.current, stopped.stopping, ?_, ?_⟩⟩
        · rw [move_places_of_ne _ (Option.some_ne_none worker).symm]
          exact stopped.caller
        · intro other
          by_cases same : some other = some worker
          · rw [same, move_places_self]
            exact Or.inr rfl
          · rw [move_places_of_ne _ same]
            exact stopped.workers other
      · rw [place] at taken
        cases taken

/-! ### Calls -/

theorem ensureWorkers_eq (executor : EncoderParallelExecutor Job created) :
    executor.ensureWorkers =
      { executor with
        started := executor.ensureWorkers.started
        threadCount := executor.ensureWorkers.threadCount } := by
  unfold ensureWorkers
  split_ifs <;> rfl

theorem Sound.workerCount_ensureWorkers (sound : executor.Sound) :
    executor.ensureWorkers.workerCount = created := by
  have room := sound.room
  unfold ensureWorkers
  split_ifs with ready
  · rw [Bool.or_eq_true, decide_eq_true_eq] at ready
    rw [workerCount]
    split_ifs with started
    · rfl
    · have few := ready.resolve_left started
      omega
  all_goals exact if_pos rfl

theorem Sound.ensureWorkers (sound : executor.Sound) : executor.ensureWorkers.Sound := by
  have room := sound.room
  have threads := sound.threads
  rw [ensureWorkers_eq]
  refine ⟨sound.called, sound.invoked, sound.complete, ?_, ?_⟩
  · unfold EncoderParallelExecutor.ensureWorkers
    split_ifs
    · exact room
    · exact le_refl _
    · exact room
  · unfold EncoderParallelExecutor.ensureWorkers
    split_ifs
    · exact threads
    · dsimp only
      omega
    · exact threads

namespace Resting

theorem ensureWorkers (resting : executor.Resting) : executor.ensureWorkers.Resting := by
  rw [ensureWorkers_eq]
  refine ⟨resting.current, resting.going, resting.places, fun thread => ?_⟩
  cases thread with
  | none => rfl
  | some worker => exact resting.joined (some worker)

theorem serial (resting : executor.Resting) (alone : created = 0) (job : Job) (rows : Int) :
    Serial ((executor.note (.called job rows)).move none (.looping ⟨some job, rows⟩ 0))
      { job, rows } where
  current := rfl
  going := resting.going
  alone := alone
  drawn := Or.inl ⟨0, move_places_self _ _ _, Drawn.start rows⟩

/-- With a new generation, every worker has yet to join. -/
theorem parallel (resting : executor.Resting) (counted : executor.workerCount = created)
    (populated : created ≠ 0) (job : Job) {rows : Int}
    (room : max 0 rows + (created + 1) ≤ intMax) :
    Parallel
      ({ executor.note (.called job rows) with
        task := ⟨some job, rows⟩
        nextRow := 0
        remainingWorkers := created
        generation := executor.generation + 1 }.move none (.taking ⟨some job, rows⟩))
      { job, rows } := by
  have others : ∀ worker : Fin created, some worker ≠ (none : Option (Fin created)) :=
    Option.some_ne_none
  have late : ∀ worker, executor.observedGeneration worker = executor.generation :=
    fun worker => eq_of_beq (resting.joined (some worker))
  have apart : ∀ worker,
      (executor.observedGeneration worker == executor.generation + 1) = false := by
    intro worker
    rw [late worker, beq_eq_false_iff_ne, Ne, UInt64.left_eq_add]
    decide
  refine ⟨rfl, resting.going, ⟨counted, populated⟩, room, rfl, ?_, ?_, ?_, ?_, ?_⟩
  · rw [move_places_self]
    rfl
  · intro thread
    cases thread with
    | none =>
        rw [move_places_self]
        rfl
    | some worker =>
        rw [move_places_of_ne _ (others worker)]
        exact (resting.places (some worker)).symm ▸ trivial
  · intro worker
    rw [move_places_of_ne _ (others worker)]
    exact Or.inr ⟨congrArg (· + 1) (late worker), resting.places (some worker)⟩
  · have unfinished_all : unfinished
        ({ executor.note (.called job rows) with
          task := ⟨some job, rows⟩
          nextRow := 0
          remainingWorkers := created
          generation := executor.generation + 1 }.move none (.taking ⟨some job, rows⟩)) =
        fun _ => true := by
      funext worker
      rw [unfinished, Bool.not_eq_true', Bool.and_eq_false_iff]
      exact Or.inr (apart worker)
    rw [unfinished_all, howMany_true, Fintype.card_fin]
    rfl
  · have free : stages
        ({ executor.note (.called job rows) with
          task := ⟨some job, rows⟩
          nextRow := 0
          remainingWorkers := created
          generation := executor.generation + 1 }.move none (.taking ⟨some job, rows⟩)) =
        fun _ => .free := by
      funext thread
      cases thread with
      | none =>
          rw [stages, move_places_self]
          rfl
      | some worker =>
          rw [stages, move_places_of_ne _ (others worker)]
          change Place.stage (executor.observedGeneration worker == executor.generation + 1)
            (executor.places (some worker)) = .free
          rw [apart worker, resting.places (some worker)]
          rfl
    rw [free]
    exact Drawn.start rows

theorem run_mode (resting : executor.Resting) (sound : executor.Sound) (job : Job) {rows : Int}
    (room : rows + (created + 1) ≤ intMax) :
    (executor.run job rows).Sound ∧ (executor.run job rows).Mode := by
  have counted := sound.workerCount_ensureWorkers
  have noted : (executor.ensureWorkers.note (.called job rows)).workerCount = created := counted
  have few := sound.room
  have threads := sound.threads
  have reach : max 0 rows + (created + 1) ≤ intMax := by
    have large : 16 ≤ intMax := by decide
    omega
  unfold run
  dsimp only
  rw [noted]
  split_ifs with alone
  · exact ⟨sound.ensureWorkers.of_called rfl rfl resting.ensureWorkers.current,
      .serial _ (resting.ensureWorkers.serial alone job rows)⟩
  · exact ⟨sound.ensureWorkers.of_called rfl rfl resting.ensureWorkers.current,
      .parallel _ (resting.ensureWorkers.parallel counted alone job reach)⟩

theorem destroy_mode (resting : executor.Resting) :
    Stopped
      ({ executor with stopping := true, generation := executor.generation + 1 }.move none
        .gone) where
  current := resting.current
  stopping := rfl
  caller := move_places_self _ _ _
  workers := by
    intro worker
    rw [move_places_of_ne _ (Option.some_ne_none worker)]
    exact Or.inl (resting.places (some worker))

end Resting

/-! ### Runs -/

theorem Started.sound (started : executor.Started) : executor.Sound ∧ executor.Mode := by
  cases started with
  | intro requestedThreads hardwareConcurrency enough =>
      refine ⟨⟨everywhere_nil, everywhere_nil, everywhere_nil, enough, ?_⟩,
        .resting ⟨rfl, rfl, fun _ => rfl, ?_⟩⟩
      · unfold make
        dsimp only
        split_ifs <;> omega
      · intro thread
        cases thread with
        | none => rfl
        | some worker => exact beq_self_eq_true _

/-- Rows and threads can be counted in an `int`. -/
def Fits : ExecutorLabel Job created → Prop
  | .run _ rows => rows + (created + 1) ≤ intMax
  | _ => True

theorem Mode.current_of_outside (mode : executor.Mode) (outside : executor.places none = .outside) :
    executor.Resting := by
  cases mode with
  | resting resting => exact resting
  | parallel call parallel =>
      have inside := parallel.caller
      rw [outside] at inside
      cases inside
  | serial call serial =>
      rcases serial.drawn with ⟨row, place, -⟩ | ⟨row, place, -⟩ <;>
        · rw [outside] at place
          cases place
  | stopped stopped =>
      have caller := stopped.caller
      rw [outside] at caller
      cases caller

theorem Mode.step (mode : executor.Mode) (sound : executor.Sound) {label : ExecutorLabel Job created}
    (fits : Fits label) (taken : step label executor = some next) :
    next.Sound ∧ next.Mode := by
  cases label with
  | run job rows =>
      unfold EncoderParallelExecutor.step at taken
      dsimp only at taken
      split at taken
      next outside =>
        cases taken
        exact (mode.current_of_outside outside).run_mode sound job fits
      next => cases taken
  | destroy =>
      unfold EncoderParallelExecutor.step at taken
      dsimp only at taken
      split at taken
      next outside =>
        cases taken
        exact ⟨sound.of_log rfl rfl, .stopped (mode.current_of_outside outside).destroy_mode⟩
      next => cases taken
  | advance thread =>
      change executor.advance thread = some next at taken
      cases mode with
      | resting resting =>
          rw [resting.advance_none thread] at taken
          cases taken
      | parallel call parallel => exact parallel.advance_mode sound taken
      | serial call serial => exact serial.advance_mode sound taken
      | stopped stopped => exact stopped.advance_mode sound taken

theorem mode_of_run {labels : List (ExecutorLabel Job created)}
    {start : EncoderParallelExecutor Job created} (started : start.Started)
    (run : Transition.Run step start labels executor) (fits : ∀ label ∈ labels, Fits label) :
    executor.Sound ∧ executor.Mode := by
  have preserved : ∀ label (state next : EncoderParallelExecutor Job created),
      step label state = some next → Fits label → state.Sound ∧ state.Mode →
        next.Sound ∧ next.Mode :=
    fun label state next taken fits holds => holds.2.step holds.1 fits taken
  exact run.invariant_of_labels preserved fits started.sound

end EncoderParallelExecutor

end Rasterm
