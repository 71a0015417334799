import Rasterm.Library.History
import Rasterm.Library.Mailbox
import Rasterm.Library.Transition
import Rasterm.Presenter.Submission

/-!
Contract: a running Presenter as a transition system. Every mutex-protected region is
one step, and so is every call of the worker into the engine; producers, callers of
the other operations and the worker take their steps in any order.

Owns the phases of `presentLoop`, the step function, the list of what each step can
do, and the invariant that ties the phase to the flags and generations. The engine is
a parameter: two ways to render, a reset, and a status.

Does not own time: a rate limit ends whenever it ends. External `shutdown` calls are
made one after the other.
-/

set_option autoImplicit false

universe u v

namespace Rasterm

/-- The calls of the worker into its engine. `Input` is what a render learns from
outside. -/
structure EngineCalls (Device : Type u) (Input : Type v) where
  renderFrame : Input → Frame → Device → Device × RenderStats
  renderValidatedIndexedFrame : Input → IndexedFrameView → Device → Device × RenderStats
  reset : Device → Device
  status : Device → Status

/-- The choice between the render calls. -/
def EngineCalls.present {Device : Type u} {Input : Type v} (calls : EngineCalls Device Input)
    (input : Input) (handed : Handed) (device : Device) : Device × RenderStats :=
  match handed.frame with
  | .packed view => calls.renderFrame input (.packed view) device
  | .indexed view =>
      if handed.trusted then calls.renderValidatedIndexedFrame input view device
      else calls.renderFrame input (.indexed view) device

/-- Where the worker is. -/
inductive Phase where
  /-- In `ready.wait`. -/
  | waiting
  /-- In `engine.reset()`, without the mutex. -/
  | resetting
  /-- In `ready.wait_until`. -/
  | rateLimited
  /-- About to render, without the mutex. -/
  | rendering (handed : Handed)
  | rendered (stats : RenderStats)
  | exited

/-- The worker may be inside a callback of the engine. -/
def Phase.callsBack : Phase → Bool
  | resetting | rendering _ => true
  | _ => false

/-- The worker has taken a frame and not yet counted its outcome. -/
def Phase.holdsFrame : Phase → Bool
  | rendering _ | rendered _ => true
  | _ => false

def Phase.isRateLimited : Phase → Bool
  | rateLimited => true
  | _ => false

def Phase.isExited : Phase → Bool
  | exited => true
  | _ => false

/-- What is remembered of a run. -/
inductive Entry where
  | accepted (submission : Submission)
  | handed (handed : Handed)
  | finished (stats : RenderStats)
  | cancelled
  | invalidated
  | resetStarted
  | resetExecuted
  | drained (completed : Bool)

/-- The part an entry has in the history of the mailbox. -/
def Entry.mailbox : Entry → Option (Mailbox.Event Submission)
  | accepted submission => some (.put submission)
  | handed _ => some .take
  | cancelled => some .discard
  | _ => none

/-- The history of the mailbox, newest first. -/
def mailboxHistory (log : List Entry) : List (Mailbox.Event Submission) :=
  log.filterMap Entry.mailbox

structure System (Device : Type u) where
  presenter : Presenter
  device : Device
  phase : Phase := .waiting
  /-- Frames whose `FrameDropped` is still to be emitted by their producer. -/
  dropping : List FrameMetadata := []
  /-- What `emitDropped` has passed to the callback. -/
  events : List Event := []
  /-- Calls inside the wait of `waitUntilIdle`. -/
  waiters : Nat := 0
  /-- A `shutdown` from outside waits for the worker. -/
  shuttingDown : Bool := false
  /-- Newest first. -/
  log : List Entry := []

inductive Label (Input : Type v) where
  | submit (heap : Heap) (submission : Submission)
  /-- One of the producers that replaced a frame gets on. -/
  | emitDropped (position : Nat)
  | invalidate
  | waitUntilIdle (fromWorker : Bool) (timeout : Int)
  | endWait
  | shutdown
  | shutdownFromWorker
  | joined
  /-- `ready.wait` is over. -/
  | wake
  /-- `ready.wait_until` is over. -/
  | elapsed
  | reset
  | render (input : Input)
  | finish

/-- No allocation fails. -/
def Label.Serves {Input : Type v} : Label Input → Prop
  | submit heap _ => ∀ allocation, heap.fails allocation = false
  | _ => True

theorem Label.Serves.not_fails {Input : Type v} {heap : Heap} {submission : Submission}
    (served : (Label.submit heap submission : Label Input).Serves) :
    ¬ ∃ allocation, heap.fails allocation = true := by
  rintro ⟨allocation, fails⟩
  rw [served allocation] at fails
  cases fails

def dropEvent (metadata : FrameMetadata) : Event :=
  .frameDropped metadata.frameId metadata.timestampNanoseconds

namespace System

variable {Device : Type u} {Input : Type v}

/-- The worker leaves the mutex with a frame to render. -/
def handOver (system : System Device) : System Device :=
  let consumed := system.presenter.consume
  { system with
    presenter := consumed.1
    phase := .rendering consumed.2
    log := .handed consumed.2 :: system.log }

/-- From the predicate of `ready.wait` to the next place without the mutex. -/
def wake (system : System Device) : Option (System Device) :=
  if system.presenter.stopping then some { system with phase := .exited }
  else if system.presenter.resetRequested then
    some
      { system with
        presenter.resetRequested := false
        phase := .resetting
        log := .resetStarted :: system.log }
  else if system.presenter.waiting then
    if system.presenter.options.minimumInterval ≠ some 0 then
      some { system with phase := .rateLimited }
    else some system.handOver
  else none

def step (calls : EngineCalls Device Input) (label : Label Input) (system : System Device) :
    Option (System Device) :=
  match label with
  | .submit heap submission =>
      let answer := system.presenter.submit heap submission
      match answer.2 with
      | .accepted dropped =>
          some
            { system with
              presenter := answer.1
              dropping := system.dropping ++ dropped.toList
              log := .accepted submission :: system.log }
      | _ => some { system with presenter := answer.1 }
  | .emitDropped position =>
      match system.dropping[position]? with
      | some metadata =>
          some
            { system with
              dropping := system.dropping.eraseIdx position
              events := system.events ++ [dropEvent metadata] }
      | none => none
  | .invalidate =>
      let answer := system.presenter.invalidate
      some
        { system with
          presenter := answer.1
          log := if answer.2 then .invalidated :: system.log else system.log }
  | .waitUntilIdle fromWorker timeout =>
      if fromWorker && !system.phase.callsBack then none
      else
        match system.presenter.beginWait fromWorker timeout with
        | some status => some { system with presenter.latestStatus := status }
        | none => some { system with waiters := system.waiters + 1 }
  | .endWait =>
      if system.waiters = 0 then none
      else
        some
          { system with
            presenter := system.presenter.endWait.1
            waiters := system.waiters - 1
            log := .drained system.presenter.endWait.2 :: system.log }
  | .shutdown =>
      if system.shuttingDown then none
      else
        some
          { system with
            presenter := system.presenter.beginShutdown
            shuttingDown := true
            log := if system.presenter.running && system.presenter.waiting then
                .cancelled :: system.log
              else system.log }
  | .shutdownFromWorker =>
      if system.phase.callsBack then
        some { system with presenter := system.presenter.refuseShutdown }
      else none
  | .joined =>
      match system.phase with
      | .exited =>
          if system.shuttingDown then
            some { system with presenter := system.presenter.endShutdown, shuttingDown := false }
          else none
      | _ => none
  | .wake =>
      match system.phase with
      | .waiting => system.wake
      | _ => none
  | .elapsed =>
      match system.phase with
      | .rateLimited =>
          if system.presenter.stopping then some { system with phase := .exited }
          else some system.handOver
      | _ => none
  | .reset =>
      match system.phase with
      | .resetting =>
          some
            { system with
              device := calls.reset system.device
              phase := .waiting
              log := .resetExecuted :: system.log }
      | _ => none
  | .render input =>
      match system.phase with
      | .rendering handed =>
          let answer := calls.present input handed system.device
          some { system with device := answer.1, phase := .rendered answer.2 }
      | _ => none
  | .finish =>
      match system.phase with
      | .rendered stats =>
          some
            { system with
              presenter := system.presenter.finish stats (calls.status system.device)
              phase := .waiting
              log := .finished stats :: system.log }
      | _ => none

/-- A Presenter that has just been initialised, whatever it was before. -/
inductive Started : System Device → Prop where
  | intro (before : Presenter) (options : PresenterOptions) (device : Device)
      (succeeded : (before.endShutdown.initializeWith options {} {}).2.code = .none) :
      Started
        { presenter := (before.endShutdown.initializeWith options {} {}).1, device := device }


/-! ### What a step can do -/

/-- Only the count of rejections and the status may differ. -/
def Noted (before after : Presenter) : Prop :=
  ∃ rejected status, after =
    { before with
      statistics.rejectedFrames := before.statistics.rejectedFrames + rejected
      latestStatus := status }

/-- Everything a step can do. -/
inductive Move (calls : EngineCalls Device Input) (system : System Device) :
    Label Input → System Device → Prop where
  | accepted {heap : Heap} {submission : Submission} {after : Presenter}
      (entered : system.presenter.enters heap submission = true)
      (accepted : system.presenter.Accepted submission after) :
      Move calls system (.submit heap submission)
        { system with
          presenter := after
          dropping := system.dropping ++ system.presenter.dropped.toList
          log := .accepted submission :: system.log }
  | interrupted {heap : Heap} {submission : Submission} {left : Presenter}
      (failed : ∃ allocation, heap.fails allocation = true)
      (interrupted : system.presenter.Interrupted left) :
      Move calls system (.submit heap submission) { system with presenter := left }
  | noted {label : Label Input} {after : Presenter} (noted : Noted system.presenter after) :
      Move calls system label { system with presenter := after }
  | emitted {position : Nat} {metadata : FrameMetadata}
      (found : system.dropping[position]? = some metadata) :
      Move calls system (.emitDropped position)
        { system with
          dropping := system.dropping.eraseIdx position
          events := system.events ++ [dropEvent metadata] }
  | invalidated (running : system.presenter.running = true)
      (going : system.presenter.stopping = false) :
      Move calls system .invalidate
        { system with
          presenter := { system.presenter with resetRequested := true, latestStatus := {} }
          log := .invalidated :: system.log }
  | waits {timeout : Int} (running : system.presenter.running = true)
      (going : system.presenter.stopping = false) :
      Move calls system (.waitUntilIdle false timeout)
        { system with waiters := system.waiters + 1 }
  | drained {status : Status} :
      Move calls system .endWait
        { system with
          presenter := { system.presenter with latestStatus := status }
          waiters := system.waiters - 1
          log := .drained system.presenter.isIdle :: system.log }
  | refusedShutdown (inside : system.phase.callsBack = true) :
      Move calls system .shutdownFromWorker
        { system with presenter := system.presenter.refuseShutdown }
  | cancelled (outside : system.shuttingDown = false)
      (running : system.presenter.running = true) (occupied : system.presenter.waiting = true) :
      Move calls system .shutdown
        { system with
          presenter :=
            { system.presenter with
              statistics.cancelledFrames := system.presenter.statistics.cancelledFrames + 1
              consumedGeneration := system.presenter.pendingGeneration
              stopping := true }
          shuttingDown := true
          log := .cancelled :: system.log }
  | stopped (outside : system.shuttingDown = false)
      (running : system.presenter.running = true) (empty : system.presenter.waiting = false) :
      Move calls system .shutdown
        { system with
          presenter := { system.presenter with stopping := true }
          shuttingDown := true }
  | stoppedAgain (outside : system.shuttingDown = false)
      (gone : system.presenter.running = false) :
      Move calls system .shutdown { system with shuttingDown := true }
  | joined (exited : system.phase = .exited) (asked : system.shuttingDown = true) :
      Move calls system .joined
        { system with presenter := system.presenter.endShutdown, shuttingDown := false }
  | exited {label : Label Input} (sleeping : system.phase = .waiting ∨ system.phase = .rateLimited)
      (stopping : system.presenter.stopping = true) :
      Move calls system label { system with phase := .exited }
  | resetStarted (sleeping : system.phase = .waiting)
      (going : system.presenter.stopping = false)
      (requested : system.presenter.resetRequested = true) :
      Move calls system .wake
        { system with
          presenter := { system.presenter with resetRequested := false }
          phase := .resetting
          log := .resetStarted :: system.log }
  | limited (sleeping : system.phase = .waiting) (going : system.presenter.stopping = false)
      (fresh : system.presenter.resetRequested = false)
      (occupied : system.presenter.waiting = true) :
      Move calls system .wake { system with phase := .rateLimited }
  | handed (sleeping : system.phase = .waiting) (going : system.presenter.stopping = false)
      (fresh : system.presenter.resetRequested = false)
      (occupied : system.presenter.waiting = true) :
      Move calls system .wake system.handOver
  | handedLate (sleeping : system.phase = .rateLimited)
      (going : system.presenter.stopping = false) :
      Move calls system .elapsed system.handOver
  | reset (resetting : system.phase = .resetting) :
      Move calls system .reset
        { system with
          device := calls.reset system.device
          phase := .waiting
          log := .resetExecuted :: system.log }
  | rendered {input : Input} {handed : Handed} (rendering : system.phase = .rendering handed) :
      Move calls system (.render input)
        { system with
          device := (calls.present input handed system.device).1
          phase := .rendered (calls.present input handed system.device).2 }
  | finished {stats : RenderStats} (rendered : system.phase = .rendered stats) :
      Move calls system .finish
        { system with
          presenter := system.presenter.finish stats (calls.status system.device)
          phase := .waiting
          log := .finished stats :: system.log }

variable {calls : EngineCalls Device Input} {system next : System Device} {label : Label Input}

theorem noted_rejectLocked (presenter : Presenter) (code : ErrorCode) (message : String) :
    Noted presenter (presenter.rejectLocked code message) :=
  ⟨1, _, rfl⟩

theorem noted_status (presenter : Presenter) (status : Status) :
    Noted presenter { presenter with latestStatus := status } :=
  ⟨0, status, rfl⟩

theorem move_submit (heap : Heap) (submission : Submission)
    (taken : step calls (.submit heap submission) system = some next) :
    Move calls system (.submit heap submission) next := by
  have call := system.presenter.submits_submit heap submission
  simp only [step] at taken
  generalize system.presenter.submit heap submission = answer at call taken
  cases call with
  | accepted entered served accepted =>
      rw [← Option.some.inj taken]
      exact .accepted entered accepted
  | interrupted entered failed interrupted reported =>
      obtain ⟨allocation, -, fails⟩ := failed
      obtain ⟨left, outcome⟩ := answer
      cases outcome with
      | accepted dropped => cases reported
      | refused =>
          rw [← Option.some.inj taken]
          exact .interrupted ⟨allocation, fails⟩ interrupted
      | threw =>
          rw [← Option.some.inj taken]
          exact .interrupted ⟨allocation, fails⟩ interrupted
  | rejected code message refused =>
      rw [← Option.some.inj taken]
      exact .noted (noted_rejectLocked _ code message)

theorem move_wake (sleeping : system.phase = .waiting) (taken : system.wake = some next) :
    Move calls system .wake next := by
  unfold wake at taken
  split_ifs at taken with stopping requested occupied limit
  · rw [← Option.some.inj taken]
    exact .exited (Or.inl sleeping) stopping
  · rw [← Option.some.inj taken]
    exact .resetStarted sleeping (Bool.eq_false_iff.mpr stopping) requested
  · rw [← Option.some.inj taken]
    exact .limited sleeping (Bool.eq_false_iff.mpr stopping) (Bool.eq_false_iff.mpr requested)
      occupied
  · rw [← Option.some.inj taken]
    exact .handed sleeping (Bool.eq_false_iff.mpr stopping) (Bool.eq_false_iff.mpr requested)
      occupied

theorem move_shutdown (taken : step calls .shutdown system = some next) :
    Move calls system .shutdown next := by
  simp only [step] at taken
  split_ifs at taken with outside stops
  all_goals rw [Bool.not_eq_true] at outside; rw [← Option.some.inj taken]
  · rw [Bool.and_eq_true] at stops
    rw [Presenter.beginShutdown, if_pos stops.1, if_pos stops.2]
    exact .cancelled outside stops.1 stops.2
  · cases running : system.presenter.running with
    | true =>
        rw [running, Bool.true_and, Bool.not_eq_true] at stops
        rw [Presenter.beginShutdown, if_pos running, if_neg (ne_true_of_eq_false stops)]
        exact .stopped outside running stops
    | false =>
        rw [Presenter.beginShutdown, if_neg (ne_true_of_eq_false running)]
        exact .stoppedAgain outside running

/-- There is nothing a step can do but these. -/
theorem move_of_step (label : Label Input) (taken : step calls label system = some next) :
    Move calls system label next := by
  cases label with
  | submit heap submission => exact move_submit heap submission taken
  | emitDropped position =>
      simp only [step] at taken
      split at taken
      · rename_i metadata found
        rw [← Option.some.inj taken]
        exact .emitted found
      · cases taken
  | invalidate =>
      simp only [step] at taken
      by_cases stopped : (!system.presenter.running || system.presenter.stopping) = true
      · rw [Presenter.invalidate, if_pos stopped] at taken
        rw [← Option.some.inj taken]
        exact .noted (noted_rejectLocked system.presenter _ _)
      · rw [Presenter.invalidate, if_neg stopped] at taken
        simp only [Bool.or_eq_true, Bool.not_eq_true', not_or, Bool.not_eq_false,
          Bool.not_eq_true] at stopped
        rw [← Option.some.inj taken]
        exact .invalidated stopped.1 stopped.2
  | waitUntilIdle fromWorker timeout =>
      simp only [step] at taken
      split_ifs at taken with outside
      split at taken
      · rw [← Option.some.inj taken]
        exact .noted (noted_status _ _)
      · rename_i admitted
        rw [← Option.some.inj taken]
        simp only [Presenter.beginWait] at admitted
        split_ifs at admitted with inside stopped negative
        simp only [Bool.or_eq_true, Bool.not_eq_true', not_or, Bool.not_eq_false,
          Bool.not_eq_true] at stopped
        rw [Bool.not_eq_true] at inside
        rw [inside]
        exact .waits stopped.1 stopped.2
  | endWait =>
      simp only [step] at taken
      split_ifs at taken
      rw [← Option.some.inj taken]
      exact .drained
  | shutdown => exact move_shutdown taken
  | shutdownFromWorker =>
      simp only [step] at taken
      split_ifs at taken with inside
      rw [← Option.some.inj taken]
      exact .refusedShutdown inside
  | joined =>
      simp only [step] at taken
      split at taken
      · rename_i exited
        split_ifs at taken with asked
        rw [← Option.some.inj taken]
        exact .joined exited asked
      · cases taken
  | wake =>
      simp only [step] at taken
      split at taken
      · rename_i sleeping
        exact move_wake sleeping taken
      · cases taken
  | elapsed =>
      simp only [step] at taken
      split at taken
      · rename_i sleeping
        split_ifs at taken with stopping
        · rw [← Option.some.inj taken]
          exact .exited (Or.inr sleeping) stopping
        · rw [← Option.some.inj taken]
          exact .handedLate sleeping (Bool.eq_false_iff.mpr stopping)
      · cases taken
  | reset =>
      simp only [step] at taken
      split at taken
      · rename_i resetting
        rw [← Option.some.inj taken]
        exact .reset resetting
      · cases taken
  | render input =>
      simp only [step] at taken
      split at taken
      · rename_i handed rendering
        rw [← Option.some.inj taken]
        exact .rendered rendering
      · cases taken
  | finish =>
      simp only [step] at taken
      split at taken
      · rename_i stats rendered
        rw [← Option.some.inj taken]
        exact .finished rendered
      · cases taken

/-- The log only grows. -/
theorem log_move (move : Move calls system label next) :
    ∃ newer, next.log = newer ++ system.log := by
  cases move with
  | accepted entered accepted => exact ⟨[_], rfl⟩
  | interrupted failed interrupted => exact ⟨[], rfl⟩
  | noted noted => exact ⟨[], rfl⟩
  | emitted found => exact ⟨[], rfl⟩
  | invalidated running going => exact ⟨[_], rfl⟩
  | waits running going => exact ⟨[], rfl⟩
  | drained => exact ⟨[_], rfl⟩
  | refusedShutdown inside => exact ⟨[], rfl⟩
  | cancelled outside running occupied => exact ⟨[_], rfl⟩
  | stopped outside running empty => exact ⟨[], rfl⟩
  | stoppedAgain outside gone => exact ⟨[], rfl⟩
  | joined exited asked => exact ⟨[], rfl⟩
  | exited sleeping stopping => exact ⟨[], rfl⟩
  | resetStarted sleeping going requested => exact ⟨[_], rfl⟩
  | limited sleeping going fresh occupied => exact ⟨[], rfl⟩
  | handed sleeping going fresh occupied => exact ⟨[_], rfl⟩
  | handedLate sleeping going => exact ⟨[_], rfl⟩
  | reset resetting => exact ⟨[_], rfl⟩
  | rendered rendering => exact ⟨[], rfl⟩
  | finished rendered => exact ⟨[_], rfl⟩

/-! ### Flags, generations and phases -/

structure Consistent (system : System Device) : Prop where
  generations : system.presenter.consumedGeneration ≤ system.presenter.pendingGeneration
  active : system.presenter.renderingActive = system.phase.holdsFrame
  /-- Only a shutdown takes the frame a rate limit holds back. -/
  occupied : system.phase.isRateLimited = true → system.presenter.stopping = false →
    system.presenter.waiting = true
  running : system.presenter.running = false →
    system.phase.isExited = true ∧ system.presenter.waiting = false
  exited : system.phase.isExited = true → system.presenter.running = true →
    system.presenter.stopping = true
  leaving : system.shuttingDown = true → system.presenter.running = true →
    system.presenter.stopping = true ∧ system.presenter.waiting = false

theorem consistent_start (started : Started system) : system.Consistent := by
  cases started with
  | intro before options device succeeded =>
      rw [Presenter.initializeWith_of_succeeded succeeded]
      exact ⟨Nat.le_refl _, rfl, (fun limited => by cases limited), (fun gone => by cases gone),
        (fun exited => by cases exited), (fun leaving => by cases leaving)⟩

/-- A worker that sleeps belongs to a Presenter that runs. -/
theorem Consistent.running_of_present (consistent : system.Consistent)
    (present : system.phase.isExited = false) : system.presenter.running = true := by
  by_contra gone
  rw [Bool.not_eq_true] at gone
  rw [(consistent.running gone).1] at present
  cases present

theorem Consistent.handOver (consistent : system.Consistent)
    (present : system.phase.isExited = false) (going : system.presenter.stopping = false) :
    system.handOver.Consistent where
  generations := Nat.le_refl _
  active := rfl
  occupied := fun limited => by cases limited
  running := by
    intro gone
    have running := consistent.running_of_present present
    change system.presenter.running = false at gone
    rw [running] at gone
    cases gone
  exited := fun exited => by cases exited
  leaving := by
    intro asked running
    have stopped := (consistent.leaving asked running).1
    rw [going] at stopped
    cases stopped

/-- A worker that is there goes on to its next place: the mailbox and the flags of a
shutdown stay as they are. -/
theorem Consistent.advance (consistent : system.Consistent)
    (present : system.phase.isExited = false) (there : next.phase.isExited = false)
    (pending : next.presenter.pendingGeneration = system.presenter.pendingGeneration)
    (consumed : next.presenter.consumedGeneration = system.presenter.consumedGeneration)
    (stopping : next.presenter.stopping = system.presenter.stopping)
    (running : next.presenter.running = system.presenter.running)
    (asked : next.shuttingDown = system.shuttingDown)
    (active : next.presenter.renderingActive = next.phase.holdsFrame)
    (occupied : next.phase.isRateLimited = true → system.presenter.waiting = true) :
    next.Consistent := by
  have waiting : next.presenter.waiting = system.presenter.waiting := by
    rw [Presenter.waiting, Presenter.waiting, pending, consumed]
  constructor
  · rw [pending, consumed]
    exact consistent.generations
  · exact active
  · intro limited _
    rw [waiting]
    exact occupied limited
  · intro gone
    rw [running, consistent.running_of_present present] at gone
    cases gone
  · intro exited
    rw [there] at exited
    cases exited
  · rw [asked, running, stopping, waiting]
    exact consistent.leaving

theorem consistent_move (move : Move calls system label next) (consistent : system.Consistent) :
    next.Consistent := by
  cases move with
  | @accepted heap submission after entered accepted =>
      obtain ⟨running, going⟩ := Presenter.running_of_enters entered
      have ordered := consistent.generations
      constructor
      · change after.consumedGeneration ≤ after.pendingGeneration
        rw [accepted.consumedGeneration, accepted.pendingGeneration]
        exact Nat.le_succ_of_le ordered
      · change after.renderingActive = system.phase.holdsFrame
        rw [accepted.renderingActive]
        exact consistent.active
      · intro _ _
        change (after.pendingGeneration != after.consumedGeneration) = true
        rw [accepted.consumedGeneration, accepted.pendingGeneration, bne_iff_ne]
        omega
      · intro gone
        change after.running = false at gone
        rw [accepted.running, running] at gone
        cases gone
      · intro exited _
        change after.stopping = true
        rw [accepted.stopping]
        exact consistent.exited exited running
      · intro asked _
        have stopped := (consistent.leaving asked running).1
        rw [going] at stopped
        cases stopped
  | interrupted failed interrupted =>
      rw [interrupted.rest]
      exact ⟨consistent.generations, consistent.active, consistent.occupied, consistent.running,
        consistent.exited, consistent.leaving⟩
  | noted noted =>
      obtain ⟨rejected, status, rfl⟩ := noted
      exact ⟨consistent.generations, consistent.active, consistent.occupied, consistent.running,
        consistent.exited, consistent.leaving⟩
  | emitted found =>
      exact ⟨consistent.generations, consistent.active, consistent.occupied, consistent.running,
        consistent.exited, consistent.leaving⟩
  | invalidated running going =>
      exact ⟨consistent.generations, consistent.active, consistent.occupied, consistent.running,
        consistent.exited, consistent.leaving⟩
  | waits running going =>
      exact ⟨consistent.generations, consistent.active, consistent.occupied, consistent.running,
        consistent.exited, consistent.leaving⟩
  | drained =>
      exact ⟨consistent.generations, consistent.active, consistent.occupied, consistent.running,
        consistent.exited, consistent.leaving⟩
  | refusedShutdown inside =>
      constructor
      · exact consistent.generations
      · exact consistent.active
      · exact fun _ going => by cases going
      · exact consistent.running
      · exact fun _ _ => rfl
      · exact fun asked running => ⟨rfl, (consistent.leaving asked running).2⟩
  | cancelled outside running occupied =>
      constructor
      · exact Nat.le_refl _
      · exact consistent.active
      · exact fun _ going => by cases going
      · intro gone
        change system.presenter.running = false at gone
        rw [running] at gone
        cases gone
      · exact fun _ _ => rfl
      · exact fun _ _ => ⟨rfl, bne_self_eq_false _⟩
  | stopped outside running empty =>
      constructor
      · exact consistent.generations
      · exact consistent.active
      · exact fun _ going => by cases going
      · exact consistent.running
      · exact fun _ _ => rfl
      · exact fun _ _ => ⟨rfl, empty⟩
  | stoppedAgain outside gone =>
      constructor
      · exact consistent.generations
      · exact consistent.active
      · exact consistent.occupied
      · exact consistent.running
      · exact consistent.exited
      · intro _ running
        change system.presenter.running = true at running
        rw [gone] at running
        cases running
  | joined exited asked =>
      constructor
      · exact Nat.le_refl _
      · change false = system.phase.holdsFrame
        rw [exited]
        rfl
      · intro limited
        change system.phase.isRateLimited = true at limited
        rw [exited] at limited
        cases limited
      · intro _
        change system.phase.isExited = true ∧ _
        rw [exited]
        exact ⟨rfl, rfl⟩
      · exact fun _ running => by cases running
      · exact fun asked => by cases asked
  | exited sleeping stopping =>
      constructor
      · exact consistent.generations
      · have idle : system.phase.holdsFrame = false := by
          rcases sleeping with sleeping | sleeping <;> rw [sleeping] <;> rfl
        have active := consistent.active
        rw [idle] at active
        exact active
      · exact fun limited => by cases limited
      · intro gone
        exact ⟨rfl, (consistent.running gone).2⟩
      · exact fun _ _ => stopping
      · exact consistent.leaving
  | resetStarted sleeping going requested =>
      have active := consistent.active
      rw [sleeping] at active
      exact consistent.advance (by rw [sleeping]; rfl) rfl rfl rfl rfl rfl rfl active
        fun limited => by cases limited
  | limited sleeping going fresh occupied =>
      have active := consistent.active
      rw [sleeping] at active
      exact consistent.advance (by rw [sleeping]; rfl) rfl rfl rfl rfl rfl rfl active
        fun _ => occupied
  | handed sleeping going fresh occupied =>
      exact consistent.handOver (by rw [sleeping]; rfl) going
  | handedLate sleeping going =>
      exact consistent.handOver (by rw [sleeping]; rfl) going
  | reset resetting =>
      have active := consistent.active
      rw [resetting] at active
      exact consistent.advance (by rw [resetting]; rfl) rfl rfl rfl rfl rfl rfl active
        fun limited => by cases limited
  | rendered rendering =>
      have active := consistent.active
      rw [rendering] at active
      exact consistent.advance (by rw [rendering]; rfl) rfl rfl rfl rfl rfl rfl active
        fun limited => by cases limited
  | finished rendered =>
      rw [Presenter.finish_eq]
      exact consistent.advance (by rw [rendered]; rfl) rfl rfl rfl rfl rfl rfl rfl
        fun limited => by cases limited

/-! ### A run -/

/-- An engine that presents whatever it gets. -/
def presenting : EngineCalls Unit Unit where
  renderFrame := fun _ _ device => (device, { rendered := true })
  renderValidatedIndexedFrame := fun _ _ device => (device, { rendered := true })
  reset := id
  status := fun _ => {}

def fresh : System Unit where
  presenter := (({} : Presenter).endShutdown.initializeWith {} {} {}).1
  device := ()

theorem started_fresh : Started fresh := .intro {} {} () (by decide)

/-- Two pixels, of which the second has changed if anything has. -/
def twoPixels (second : UInt8) : Submission :=
  .packed
    { data := dataOf false [10, 20, 30, second, 50, 60]
      width := 2
      height := 1
      stride := 6
      metadata := { frameId := second.toNat, damage := DamageView.ofList [⟨1, 0, 1, 1⟩] true } }

/-- A frame is presented, and of two more the second replaces the first. -/
def threeFrames : List (Label Unit) :=
  [.submit {} (twoPixels 1), .wake, .render (), .finish, .submit {} (twoPixels 2),
    .submit {} (twoPixels 3), .wake, .emitDropped 0, .render (), .finish]

def afterThreeFrames : System Unit :=
  (Transition.exec (step presenting) threeFrames fresh).get (by decide +kernel)

theorem run_threeFrames :
    Transition.Run (step presenting) fresh threeFrames afterThreeFrames :=
  Transition.run_iff_exec.mpr (Option.some_get _).symm

theorem serves_threeFrames : ∀ label ∈ threeFrames, label.Serves := by
  simp [threeFrames, Label.Serves]

end System

end Rasterm
