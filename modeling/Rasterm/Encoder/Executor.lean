import Rasterm.Frame.Metadata
import Rasterm.Library.History
import Rasterm.Library.Tickets
import Rasterm.Library.Transition

/-!
Contract: the `EncoderParallelExecutor` as a transition system. Its regions under the
lock are one step each, and so are each `fetch_add` of the row counter, the entry and
the end of each row function.

Owns the step function, and the reading of a log as runs with what happened in them.

Does not own the row functions. A row function and its context are one job.
-/

set_option autoImplicit false

universe u

namespace Rasterm

open History

/-- `++` of an `std::atomic<int>`. -/
def wrapInt (value : Int) : Int := value.bmod (2 ^ 32)

theorem wrapInt_of_mem {value : Int} (nonneg : 0 ≤ value) (le : value ≤ intMax) :
    wrapInt value = value := by
  unfold intMax at le
  exact Int.bmod_eq_of_le (by omega) (by omega)

/-- A row function with its context, and the number of rows it is for. -/
structure Task (Job : Type u) where
  /-- Null before the first run. -/
  job : Option Job := none
  rows : Int := 0

/-- Where a thread is. -/
inductive Place (Job : Type u) where
  /-- A caller in no run; a worker in `start.wait`. -/
  | outside
  /-- At the test of the loop of a run without workers. -/
  | looping (task : Task Job) (row : Int)
  /-- In `processRows`, before the `fetch_add`. -/
  | taking (task : Task Job)
  /-- With the row of its `fetch_add`. -/
  | holding (task : Task Job) (row : Int)
  /-- In the row function. -/
  | running (task : Task Job) (row : Int)
  /-- Past `processRows`. -/
  | left
  | gone

inductive ExecutorEntry (Job : Type u) where
  | called (job : Job) (rows : Int)
  | invoked (job : Option Job) (row : Int)
  | completed (job : Option Job) (row : Int)
  | returned
deriving DecidableEq, Repr

/-- An executor for which `created` worker threads can be made. -/
structure EncoderParallelExecutor (Job : Type u) (created : Nat) where
  /-- `rowFunction`, `rowContext` and `rowCount`. -/
  task : Task Job := {}
  nextRow : Int := 0
  remainingWorkers : Nat := 0
  generation : UInt64 := 0
  threadCount : Int
  stopping : Bool := false
  started : Bool := false
  observedGeneration : Fin created → UInt64 := fun _ => 0
  /-- Of the caller and of the workers. -/
  places : Option (Fin created) → Place Job := fun _ => .outside
  /-- Newest first. -/
  log : List (ExecutorEntry Job) := []

inductive ExecutorLabel (Job : Type u) (created : Nat) where
  | run (job : Job) (rows : Int)
  /-- The destructor. -/
  | destroy
  /-- The thread takes its next step. -/
  | advance (thread : Option (Fin created))

namespace EncoderParallelExecutor

variable {Job : Type u} {created : Nat}

/-- `EncoderParallelExecutor(requestedThreads)`. -/
def make (requestedThreads : Int) (hardwareConcurrency : Nat) :
    EncoderParallelExecutor Job created :=
  let hardware : Int := max 1 hardwareConcurrency
  { threadCount := if 0 < requestedThreads then max 1 (min requestedThreads 16) else min 4 hardware }

/-- `ensureWorkers`: no thread can be made after the first `created` ones. -/
def ensureWorkers (executor : EncoderParallelExecutor Job created) :
    EncoderParallelExecutor Job created :=
  if executor.started || executor.threadCount ≤ 1 then executor
  else
    { executor with
      started := true
      threadCount := if created < executor.threadCount - 1 then created + 1
        else executor.threadCount }

/-- `workers.size()`. -/
def workerCount (executor : EncoderParallelExecutor Job created) : Nat :=
  if executor.started then created else 0

def move (executor : EncoderParallelExecutor Job created) (thread : Option (Fin created))
    (place : Place Job) : EncoderParallelExecutor Job created :=
  { executor with places := Function.update executor.places thread place }

def note (executor : EncoderParallelExecutor Job created) (entry : ExecutorEntry Job) :
    EncoderParallelExecutor Job created :=
  { executor with log := entry :: executor.log }

/-- `run`, up to its loop or its `processRows`. -/
def run (executor : EncoderParallelExecutor Job created) (job : Job) (rows : Int) :
    EncoderParallelExecutor Job created :=
  let ready := executor.ensureWorkers.note (.called job rows)
  if ready.workerCount = 0 then ready.move none (.looping ⟨some job, rows⟩ 0)
  else
    { ready with
      task := ⟨some job, rows⟩
      nextRow := 0
      remainingWorkers := ready.workerCount
      generation := ready.generation + 1 }.move none (.taking ⟨some job, rows⟩)

/-- The step of a worker out of `start.wait`. -/
def wake (executor : EncoderParallelExecutor Job created) (worker : Fin created) :
    Option (EncoderParallelExecutor Job created) :=
  if executor.started = false then none
  else if executor.stopping then some (executor.move (some worker) .gone)
  else if executor.generation ≠ executor.observedGeneration worker then
    some
      ({ executor with
        observedGeneration := Function.update executor.observedGeneration worker
          executor.generation }.move (some worker) (.taking executor.task))
  else none

/-- The step of a thread past `processRows`: a worker signs off, the caller waits for that. -/
def leave (executor : EncoderParallelExecutor Job created) :
    Option (Fin created) → Option (EncoderParallelExecutor Job created)
  | none =>
      if executor.remainingWorkers = 0 then some ((executor.note .returned).move none .outside)
      else none
  | some worker =>
      some
        ({ executor with remainingWorkers := executor.remainingWorkers - 1 }.move (some worker)
          .outside)

def advance (executor : EncoderParallelExecutor Job created) (thread : Option (Fin created)) :
    Option (EncoderParallelExecutor Job created) :=
  match executor.places thread with
  | .outside => thread.bind executor.wake
  | .looping task row =>
      if row < task.rows then
        some ((executor.note (.invoked task.job row)).move thread (.running task row))
      else some ((executor.note .returned).move thread .outside)
  | .taking task =>
      some
        ({ executor with nextRow := wrapInt (executor.nextRow + 1) }.move thread
          (.holding task executor.nextRow))
  | .holding task row =>
      if task.rows ≤ row then some (executor.move thread .left)
      else some ((executor.note (.invoked task.job row)).move thread (.running task row))
  | .running task row =>
      some ((executor.note (.completed task.job row)).move thread
        (if executor.workerCount = 0 then .looping task (row + 1) else .taking task))
  | .left => executor.leave thread
  | .gone => none

def step (label : ExecutorLabel Job created) (executor : EncoderParallelExecutor Job created) :
    Option (EncoderParallelExecutor Job created) :=
  match label with
  | .run job rows =>
      match executor.places none with
      | .outside => some (executor.run job rows)
      | _ => none
  | .destroy =>
      match executor.places none with
      | .outside =>
          some ({ executor with stopping := true, generation := executor.generation + 1 }.move none
            .gone)
      | _ => none
  | .advance thread => executor.advance thread

/-- As constructed; not more threads can be made than are asked for. -/
inductive Started : EncoderParallelExecutor Job created → Prop where
  | intro (requestedThreads : Int) (hardwareConcurrency : Nat)
      (enough : (created : Int) + 1 ≤
        (make requestedThreads hardwareConcurrency :
          EncoderParallelExecutor Job created).threadCount) :
      Started (make requestedThreads hardwareConcurrency)

end EncoderParallelExecutor

/-! ### What a log says -/

/-- A run under way, with what has happened since it was called, newest first. -/
structure Call (Job : Type u) where
  job : Job
  rows : Int
  since : List (ExecutorEntry Job) := []

variable {Job : Type u}

def ExecutorEntry.invokes (row : Int) : ExecutorEntry Job → Bool
  | invoked _ other => other = row
  | _ => false

def ExecutorEntry.completes (row : Int) : ExecutorEntry Job → Bool
  | completed _ other => other = row
  | _ => false

namespace Call

def add (call : Call Job) (entry : ExecutorEntry Job) : Call Job :=
  { call with since := entry :: call.since }

/-- How often the row function was called for a row. -/
def invocations (call : Call Job) (row : Int) : Nat :=
  call.since.countP (ExecutorEntry.invokes row)

/-- How often such a call has come to its end. -/
def completions (call : Call Job) (row : Int) : Nat :=
  call.since.countP (ExecutorEntry.completes row)

end Call

/-- The run under way. -/
def currentCall : List (ExecutorEntry Job) → Option (Call Job)
  | [] => none
  | .called job rows :: _ => some { job, rows }
  | .returned :: _ => none
  | entry :: earlier => (currentCall earlier).map (Call.add · entry)

/-- A run is called when none is under way. -/
def CalledInTurn (entry : ExecutorEntry Job) (earlier : List (ExecutorEntry Job)) : Prop :=
  ∀ job rows, entry = .called job rows → currentCall earlier = none

/-- A row function is called in a run of its own, for a row of that run. -/
def InvokedInRun (entry : ExecutorEntry Job) (earlier : List (ExecutorEntry Job)) : Prop :=
  ∀ job row, entry = .invoked job row →
    ∃ call, currentCall earlier = some call ∧ job = some call.job ∧ 0 ≤ row ∧ row < call.rows

/-- When a run returns, its row function was called for each of its rows once, and each of
these calls has come to its end. -/
def CompleteAtReturn (entry : ExecutorEntry Job) (earlier : List (ExecutorEntry Job)) : Prop :=
  entry = .returned →
    ∃ call, currentCall earlier = some call ∧
      ∀ row, call.invocations row = (if 0 ≤ row ∧ row < call.rows then 1 else 0) ∧
        call.completions row = if 0 ≤ row ∧ row < call.rows then 1 else 0

end Rasterm
