import Rasterm.Library.Settling
import Rasterm.Presenter.Delivery
import Rasterm.Presenter.Invalidation

/-!
Contract: the Presenter with its two condition variables.

Owns the finer transition system in which the worker and the callers of `waitUntilIdle` block and
have to be notified; that no notification is lost; that without further calls the Presenter comes
to rest after a bounded number of steps; and what it is at rest.

Does not own time: a rate limit and a timeout end whenever they end. Whoever is blocked may also
wake up spuriously, at any time and any number of times.
-/

set_option autoImplicit false

universe u v

namespace Rasterm

open History Monitor

/-! ### The finer system -/

/-- A Presenter with its threads. -/
structure Threads (Device : Type u) where
  system : System Device
  /-- The worker, in `ready.wait` or `ready.wait_until`. -/
  ready : Condition := {}
  /-- The callers in `idle.wait_for`. -/
  idle : Condition := {}

inductive Turn (Input : Type v) where
  /-- A step of the coarser system. -/
  | region (label : Label Input)
  /-- The worker finds nothing to do. -/
  | sleep
  /-- The worker wakes up spuriously, to look at its predicate again. -/
  | stir
  /-- `ready.notify_one()`; nobody but the worker waits for it. -/
  | alert
  /-- A caller of `waitUntilIdle` finds the Presenter busy. -/
  | block
  /-- A caller of `waitUntilIdle` runs out of time, or wakes up spuriously. -/
  | expire
  /-- `idle.notify_all()` -/
  | signal

/-- The part of the coarser system in a turn. -/
def Turn.label {Input : Type v} : Turn Input → Option (Label Input)
  | region label => some label
  | _ => none

/-- In a wait of the condition variable `ready`. -/
def Phase.sleeps : Phase → Bool
  | waiting | rateLimited => true
  | _ => false

/-- The predicate of the wait the worker is in. -/
def System.awaited {Device : Type u} (system : System Device) : Bool :=
  match system.phase with
  | .waiting =>
      system.presenter.stopping || system.presenter.resetRequested || system.presenter.waiting
  | .rateLimited => system.presenter.stopping
  | _ => false

/-- A step of the worker. -/
def Label.isWorker {Input : Type v} : Label Input → Bool
  | wake | elapsed | reset | render _ | finish => true
  | _ => false

namespace System

variable {Device : Type u} {Input : Type v} {calls : EngineCalls Device Input}
  {system next : System Device} {label : Label Input} {input : Input}

/-- Only the worker moves the worker. -/
theorem phase_of_step (taken : step calls label system = some next)
    (other : label.isWorker = false) : next.phase = system.phase := by
  cases label with
  | submit heap submission =>
      simp only [step] at taken
      split at taken <;> rw [← Option.some.inj taken]
  | emitDropped position =>
      simp only [step] at taken
      split at taken
      · rw [← Option.some.inj taken]
      · cases taken
  | invalidate =>
      simp only [step] at taken
      rw [← Option.some.inj taken]
  | waitUntilIdle fromWorker timeout =>
      simp only [step] at taken
      split_ifs at taken
      split at taken <;> rw [← Option.some.inj taken]
  | endWait =>
      simp only [step] at taken
      split_ifs at taken
      rw [← Option.some.inj taken]
  | shutdown =>
      simp only [step] at taken
      split_ifs at taken <;> rw [← Option.some.inj taken]
  | shutdownFromWorker =>
      simp only [step] at taken
      split_ifs at taken
      rw [← Option.some.inj taken]
  | joined =>
      simp only [step] at taken
      split at taken
      · split_ifs at taken
        rw [← Option.some.inj taken]
      · cases taken
  | wake => cases other
  | elapsed => cases other
  | reset => cases other
  | render input => cases other
  | finish => cases other

theorem resetting_of_step (taken : step calls .reset system = some next) :
    system.phase = .resetting := by
  simp only [step] at taken
  split at taken
  · assumption
  · cases taken

theorem rendering_of_step (taken : step calls (.render input) system = some next) :
    ∃ handed, system.phase = .rendering handed := by
  simp only [step] at taken
  split at taken
  · exact ⟨_, by assumption⟩
  · cases taken

theorem rendered_of_step (taken : step calls .finish system = some next) :
    ∃ stats, system.phase = .rendered stats := by
  simp only [step] at taken
  split at taken
  · exact ⟨_, by assumption⟩
  · cases taken

end System

namespace Threads

variable {Device : Type u} {Input : Type v}

/-- Who is blocked does not go on. -/
def holdsBack (threads : Threads Device) : Label Input → Bool
  | .wake => decide (0 < threads.ready.blocked)
  | .endWait => decide (threads.system.waiters ≤ threads.idle.blocked)
  | _ => false

/-- `ready` after a step: calls that took effect notify after they have left the mutex. -/
def readyAfter (threads : Threads Device) : Label Input → Condition
  | .submit heap submission =>
      threads.ready.owe
        (if (threads.system.presenter.submit heap submission).2.isAccepted then 1 else 0)
  | .invalidate => threads.ready.owe (if threads.system.presenter.invalidate.2 then 1 else 0)
  | .shutdown => threads.ready.owe 1
  | .shutdownFromWorker => threads.ready.wakeAll
  -- The time of `wait_until` is up.
  | .elapsed => threads.ready.wakeAll
  | _ => threads.ready

/-- `idle` after a step: the worker notifies inside the mutex after a reset, and outside it
after a frame. -/
def idleAfter (threads : Threads Device) : Label Input → Condition
  | .reset => threads.idle.wakeAll
  | .finish => threads.idle.owe 1
  | .joined => threads.idle.owe 1
  | _ => threads.idle

def step (calls : EngineCalls Device Input) (turn : Turn Input) (threads : Threads Device) :
    Option (Threads Device) :=
  match turn with
  | .region label =>
      if threads.holdsBack label then none
      else
        (System.step calls label threads.system).map fun next =>
          { system := next, ready := threads.readyAfter label, idle := threads.idleAfter label }
  | .sleep =>
      if threads.system.phase.sleeps && threads.ready.blocked == 0 && !threads.system.awaited then
        some { threads with ready := threads.ready.block }
      else none
  | .stir =>
      if threads.ready.blocked = 0 then none
      else some { threads with ready := threads.ready.expire }
  | .alert =>
      if threads.ready.owed = 0 then none else some { threads with ready := threads.ready.pay }
  | .block =>
      if decide (threads.idle.blocked < threads.system.waiters) &&
          !threads.system.presenter.isIdle then
        some { threads with idle := threads.idle.block }
      else none
  | .expire =>
      if threads.idle.blocked = 0 then none
      else some { threads with idle := threads.idle.expire }
  | .signal =>
      if threads.idle.owed = 0 then none else some { threads with idle := threads.idle.pay }

variable {calls : EngineCalls Device Input} {threads next start final : Threads Device}
  {label : Label Input} {turn : Turn Input} {turns : List (Turn Input)}

/-- What a step of the coarser system makes of the threads. -/
theorem region_of_step (taken : step calls (.region label) threads = some next) :
    threads.holdsBack label = false ∧
      System.step calls label threads.system = some next.system ∧
      next.ready = threads.readyAfter label ∧ next.idle = threads.idleAfter label := by
  simp only [step] at taken
  split_ifs at taken with held
  obtain ⟨system, moved, same⟩ := Option.map_eq_some_iff.mp taken
  rw [Bool.not_eq_true] at held
  rw [← same]
  exact ⟨held, moved, rfl, rfl⟩

/-- The other turns leave the coarser system as it is. -/
theorem system_of_hidden (taken : step calls turn threads = some next)
    (hidden : turn.label = none) : next.system = threads.system := by
  cases turn with
  | region label => cases hidden
  | sleep =>
      simp only [step] at taken
      split_ifs at taken
      rw [← Option.some.inj taken]
  | stir =>
      simp only [step] at taken
      split_ifs at taken
      rw [← Option.some.inj taken]
  | alert =>
      simp only [step] at taken
      split_ifs at taken
      rw [← Option.some.inj taken]
  | block =>
      simp only [step] at taken
      split_ifs at taken
      rw [← Option.some.inj taken]
  | expire =>
      simp only [step] at taken
      split_ifs at taken
      rw [← Option.some.inj taken]
  | signal =>
      simp only [step] at taken
      split_ifs at taken
      rw [← Option.some.inj taken]

theorem blocked_readyAfter_le (threads : Threads Device) (label : Label Input) :
    (threads.readyAfter label).blocked ≤ threads.ready.blocked := by
  cases label with
  | elapsed => exact Nat.zero_le _
  | shutdownFromWorker => exact Nat.zero_le _
  | _ => exact Nat.le_refl _

theorem blocked_idleAfter_le (threads : Threads Device) (label : Label Input) :
    (threads.idleAfter label).blocked ≤ threads.idle.blocked := by
  cases label with
  | reset => exact Nat.zero_le _
  | _ => exact Nat.le_refl _

/-- Nobody is notified less for a step. -/
theorem watched_readyAfter {predicate : Prop} (watched : threads.ready.Watched predicate)
    (label : Label Input) : (threads.readyAfter label).Watched predicate := by
  cases label with
  | submit heap submission => exact watched.owe _
  | invalidate => exact watched.owe _
  | shutdown => exact watched.owe _
  | elapsed => exact Condition.watched_of_empty rfl
  | shutdownFromWorker => exact Condition.watched_of_empty rfl
  | _ => exact watched

theorem watched_idleAfter {predicate : Prop} (watched : threads.idle.Watched predicate)
    (label : Label Input) : (threads.idleAfter label).Watched predicate := by
  cases label with
  | reset => exact Condition.watched_of_empty rfl
  | finish => exact watched.owe _
  | joined => exact watched.owe _
  | _ => exact watched

/-- The Presenter is idle, and it is up to nobody to say so later. -/
def System.SaidIdle (system : System Device) : Prop :=
  system.presenter.isIdle = true ∧ system.phase.isResetting = false ∧ system.shuttingDown = false

/-- Nobody waits for what is true already, unless somebody is about to say so. -/
structure Alerted (threads : Threads Device) : Prop where
  consistent : threads.system.Consistent
  settled : threads.system.presenter.running = false →
    threads.system.presenter.resetRequested = false
  sleeping : 0 < threads.ready.blocked → threads.system.phase.sleeps = true
  ready : threads.ready.Watched (threads.system.awaited = true)
  waiters : threads.idle.blocked ≤ threads.system.waiters
  idle : threads.idle.Watched (System.SaidIdle threads.system)

/-- A worker that is not in a wait is not blocked. -/
theorem Alerted.awake (alerted : threads.Alerted) (busy : threads.system.phase.sleeps = false) :
    threads.ready.blocked = 0 := by
  by_contra blocked
  have sleeps := alerted.sleeping (Nat.pos_of_ne_zero blocked)
  rw [busy] at sleeps
  cases sleeps

theorem isIdle_of_interrupted {before left : Presenter} (interrupted : before.Interrupted left) :
    left.isIdle = before.isIdle := by
  rw [interrupted.rest]
  rfl

/-- What the worker waits for, after a step of the system. -/
theorem ready_of_region (alerted : threads.Alerted) (served : threads.holdsBack label = false)
    (taken : System.step calls label threads.system = some next.system) :
    (threads.readyAfter label).Watched (next.system.awaited = true) := by
  obtain ⟨system, ready, idle⟩ := next
  have watched := watched_readyAfter alerted.ready label
  have empty : threads.ready.blocked = 0 → ∀ predicate : Prop,
      (threads.readyAfter label).Watched predicate := by
    intro none predicate
    apply Condition.watched_of_empty
    exact Nat.eq_zero_of_le_zero (none ▸ threads.blocked_readyAfter_le label)
  have quiet : system.phase.sleeps = false →
      (threads.readyAfter label).Watched (system.awaited = true) := by
    intro busy _ holds
    unfold System.awaited at holds
    cases phase : system.phase with
    | waiting => rw [phase] at busy; cases busy
    | rateLimited => rw [phase] at busy; cases busy
    | _ => rw [phase] at holds; cases holds
  have move := System.move_of_step label taken
  change (threads.readyAfter label).Watched (system.awaited = true)
  cases move with
  | accepted entered accepted =>
      obtain ⟨dropped, returned⟩ := System.submit_of_accepted taken
      apply Condition.watched_owe
      rw [returned]
      exact Nat.one_pos
  | interrupted failed interrupted =>
      refine watched.mono fun holds => ?_
      unfold System.awaited Presenter.waiting at holds ⊢
      rw [interrupted.rest] at holds
      exact holds
  | noted noted =>
      obtain ⟨rejected, status, rfl⟩ := noted
      exact watched
  | emitted found => exact watched
  | invalidated running going =>
      apply Condition.watched_owe
      simp [Presenter.invalidate, running, going]
  | waits running going => exact watched
  | drained => exact watched
  | refusedShutdown inside =>
      apply empty
      apply alerted.awake
      cases phase : threads.system.phase <;> rw [phase] at inside <;> first
        | rfl
        | cases inside
  | cancelled outside running occupied => exact Condition.watched_owe Nat.one_pos
  | stopped outside running none => exact Condition.watched_owe Nat.one_pos
  | stoppedAgain outside gone => exact Condition.watched_owe Nat.one_pos
  | joined exited asked => exact empty (alerted.awake (by rw [exited]; rfl)) _
  | exited sleeping stopping => exact quiet rfl
  | resetStarted sleeping going requested => exact quiet rfl
  | limited sleeping going fresh occupied =>
      apply empty
      simpa [holdsBack] using served
  | handed sleeping going fresh occupied => exact quiet rfl
  | handedLate sleeping going => exact quiet rfl
  | reset resetting => exact empty (alerted.awake (by rw [resetting]; rfl)) _
  | rendered rendering => exact quiet rfl
  | finished rendered => exact empty (alerted.awake (by rw [rendered]; rfl)) _

/-- What the callers wait for, after a step of the system. -/
theorem idle_of_region (alerted : threads.Alerted)
    (taken : System.step calls label threads.system = some next.system) :
    (threads.idleAfter label).Watched (System.SaidIdle next.system) := by
  obtain ⟨system, ready, idle⟩ := next
  have watched := watched_idleAfter alerted.idle label
  have move := System.move_of_step label taken
  change (threads.idleAfter label).Watched (System.SaidIdle system)
  cases move with
  | @accepted heap submission after entered accepted =>
      refine watched.mono fun said => ?_
      exfalso
      have busy := said.1
      have occupied : after.waiting = true := by
        have ordered := alerted.consistent.generations
        unfold Presenter.waiting
        rw [accepted.consumedGeneration, accepted.pendingGeneration, bne_iff_ne]
        omega
      simp [Presenter.isIdle, occupied] at busy
  | interrupted failed interrupted =>
      refine watched.mono fun said => ⟨?_, said.2⟩
      rw [← isIdle_of_interrupted interrupted]
      exact said.1
  | noted noted =>
      obtain ⟨rejected, status, rfl⟩ := noted
      exact watched
  | emitted found => exact watched
  | invalidated running going =>
      refine watched.mono fun said => ?_
      have busy := said.1
      simp [Presenter.isIdle] at busy
  | waits running going => exact watched
  | drained => exact watched
  | refusedShutdown inside => exact watched
  | cancelled outside running occupied =>
      exact watched.mono fun said => by cases said.2.2
  | stopped outside running none =>
      exact watched.mono fun said => by cases said.2.2
  | stoppedAgain outside gone =>
      exact watched.mono fun said => by cases said.2.2
  | joined exited asked => exact Condition.watched_owe Nat.one_pos
  | exited sleeping stopping =>
      refine watched.mono fun said => ⟨said.1, ?_, said.2.2⟩
      rcases sleeping with sleeping | sleeping <;> rw [sleeping] <;> rfl
  | resetStarted sleeping going requested =>
      exact watched.mono fun said => by cases said.2.1
  | limited sleeping going fresh occupied =>
      refine watched.mono fun said => ⟨said.1, ?_, said.2.2⟩
      rw [sleeping]
      rfl
  | handed sleeping going fresh occupied =>
      refine watched.mono fun said => ?_
      have busy := said.1
      simp [Presenter.isIdle, Presenter.consume] at busy
  | handedLate sleeping going =>
      refine watched.mono fun said => ?_
      have busy := said.1
      simp [Presenter.isIdle, Presenter.consume] at busy
  | reset resetting => exact Condition.watched_of_empty rfl
  | rendered rendering =>
      refine watched.mono fun said => ⟨said.1, ?_, said.2.2⟩
      rw [rendering]
      rfl
  | finished rendered => exact Condition.watched_owe Nat.one_pos

theorem waiters_of_region (alerted : threads.Alerted) (served : threads.holdsBack label = false)
    (taken : System.step calls label threads.system = some next.system) :
    (threads.idleAfter label).blocked ≤ next.system.waiters := by
  obtain ⟨system, ready, idle⟩ := next
  have fewer := (threads.blocked_idleAfter_le label).trans alerted.waiters
  have move := System.move_of_step label taken
  change (threads.idleAfter label).blocked ≤ system.waiters
  cases move with
  | noted noted =>
      obtain ⟨rejected, status, rfl⟩ := noted
      exact fewer
  | waits running going => exact Nat.le_succ_of_le fewer
  | drained =>
      simp only [holdsBack, decide_eq_false_iff_not, Nat.not_le] at served
      exact Nat.le_sub_one_of_lt served
  | _ => exact fewer

theorem settled_of_region (alerted : threads.Alerted)
    (taken : System.step calls label threads.system = some next.system) :
    next.system.presenter.running = false → next.system.presenter.resetRequested = false := by
  obtain ⟨system, ready, idle⟩ := next
  have settled := alerted.settled
  have move := System.move_of_step label taken
  change system.presenter.running = false → system.presenter.resetRequested = false
  cases move with
  | accepted entered accepted =>
      simp only
      rw [accepted.running, accepted.resetRequested]
      exact settled
  | interrupted failed interrupted =>
      rw [interrupted.rest]
      exact settled
  | noted noted =>
      obtain ⟨rejected, status, rfl⟩ := noted
      exact settled
  | invalidated running going =>
      intro gone
      exact absurd (running.symm.trans gone) (by decide)
  | joined exited asked => exact fun _ => rfl
  | resetStarted sleeping going requested => exact fun _ => rfl
  | finished rendered =>
      rw [Presenter.finish_eq]
      exact settled
  | _ => exact settled

theorem sleeping_of_region (alerted : threads.Alerted)
    (served : threads.holdsBack label = false)
    (taken : System.step calls label threads.system = some next.system) :
    0 < (threads.readyAfter label).blocked → next.system.phase.sleeps = true := by
  intro blocked
  have before := Nat.lt_of_lt_of_le blocked (threads.blocked_readyAfter_le label)
  have sleeps := alerted.sleeping before
  cases worker : label.isWorker with
  | false =>
      rw [System.phase_of_step taken worker]
      exact sleeps
  | true =>
      cases label with
      | wake =>
          simp only [holdsBack, decide_eq_false_iff_not, Nat.not_lt] at served
          exact absurd before (Nat.not_lt.mpr served)
      | elapsed => exact absurd blocked (Nat.lt_irrefl 0)
      | reset =>
          have idle := System.resetting_of_step taken
          rw [idle] at sleeps
          cases sleeps
      | render input =>
          obtain ⟨handed, rendering⟩ := System.rendering_of_step taken
          rw [rendering] at sleeps
          cases sleeps
      | finish =>
          obtain ⟨stats, rendered⟩ := System.rendered_of_step taken
          rw [rendered] at sleeps
          cases sleeps
      | _ => cases worker

theorem alerted_region (alerted : threads.Alerted)
    (taken : step calls (.region label) threads = some next) : next.Alerted := by
  obtain ⟨served, moved, ready, idle⟩ := region_of_step taken
  constructor
  · exact System.consistent_move (System.move_of_step label moved) alerted.consistent
  · exact settled_of_region alerted moved
  · rw [ready]
    exact sleeping_of_region alerted served moved
  · rw [ready]
    exact ready_of_region alerted served moved
  · rw [idle]
    exact waiters_of_region alerted served moved
  · rw [idle]
    exact idle_of_region alerted moved

/-- Every turn keeps the invariant. -/
theorem alerted_step (taken : step calls turn threads = some next) (alerted : threads.Alerted) :
    next.Alerted := by
  cases turn with
  | region label => exact alerted_region alerted taken
  | sleep =>
      simp only [step] at taken
      split_ifs at taken with nothing
      simp only [Bool.and_eq_true, Bool.not_eq_true'] at nothing
      rw [← Option.some.inj taken]
      exact ⟨alerted.consistent, alerted.settled, (fun _ => nothing.1.1),
        Condition.watched_block (by simp [nothing.2]), alerted.waiters, alerted.idle⟩
  | stir =>
      simp only [step] at taken
      split_ifs at taken
      rw [← Option.some.inj taken]
      exact ⟨alerted.consistent, alerted.settled,
        (fun blocked => alerted.sleeping (Nat.lt_of_lt_of_le blocked (Nat.sub_le _ _))),
        alerted.ready.expire, alerted.waiters, alerted.idle⟩
  | alert =>
      simp only [step] at taken
      split_ifs at taken
      rw [← Option.some.inj taken]
      exact ⟨alerted.consistent, alerted.settled, (fun blocked => absurd blocked (Nat.lt_irrefl 0)),
        Condition.watched_of_empty rfl, alerted.waiters, alerted.idle⟩
  | block =>
      simp only [step] at taken
      split_ifs at taken with busy
      simp only [Bool.and_eq_true, decide_eq_true_eq, Bool.not_eq_true'] at busy
      rw [← Option.some.inj taken]
      refine ⟨alerted.consistent, alerted.settled, alerted.sleeping, alerted.ready, busy.1,
        Condition.watched_block ?_⟩
      rintro ⟨idle, -⟩
      rw [busy.2] at idle
      cases idle
  | expire =>
      simp only [step] at taken
      split_ifs at taken
      rw [← Option.some.inj taken]
      exact ⟨alerted.consistent, alerted.settled, alerted.sleeping, alerted.ready,
        (Nat.sub_le _ _).trans alerted.waiters, alerted.idle.expire⟩
  | signal =>
      simp only [step] at taken
      split_ifs at taken
      rw [← Option.some.inj taken]
      exact ⟨alerted.consistent, alerted.settled, alerted.sleeping, alerted.ready,
        Nat.zero_le _, Condition.watched_of_empty rfl⟩

/-- A Presenter that has just been initialised; nobody is blocked. -/
theorem alerted_start {system : System Device} (started : System.Started system) :
    ({ system := system } : Threads Device).Alerted where
  consistent := System.consistent_start started
  settled := by
    cases started with
    | intro before options device succeeded =>
        rw [Presenter.initializeWith_of_succeeded succeeded]
        exact fun _ => rfl
  sleeping := fun blocked => absurd blocked (Nat.lt_irrefl 0)
  ready := Condition.watched_of_empty rfl
  waiters := Nat.zero_le _
  idle := Condition.watched_of_empty rfl

theorem alerted_of_run {system : System Device} (started : System.Started system)
    (run : Transition.Run (step calls) { system := system } turns final) : final.Alerted :=
  run.invariant (fun _ _ _ taken => alerted_step taken) (alerted_start started)

/-- Whatever the order of the steps, and whoever wakes up spuriously: a worker that is blocked with
something to do, and callers of `waitUntilIdle` that are blocked while the Presenter is idle, have
a notification coming to them. The callers may also wait for the end of a reset or of a shutdown. -/
theorem no_lost_wakeup {system : System Device} (started : System.Started system)
    (run : Transition.Run (step calls) { system := system } turns final) :
    (0 < final.ready.blocked → final.system.awaited = true → 0 < final.ready.owed) ∧
      (0 < final.idle.blocked → final.system.presenter.isIdle = true →
        0 < final.idle.owed ∨ final.system.phase.isResetting = true ∨
          final.system.shuttingDown = true) := by
  have alerted := alerted_of_run started run
  refine ⟨alerted.ready, fun blocked idle => ?_⟩
  by_cases later : final.system.phase.isResetting = true ∨ final.system.shuttingDown = true
  · exact Or.inr later
  · simp only [not_or, Bool.not_eq_true] at later
    exact Or.inl (alerted.idle blocked ⟨idle, later⟩)

/-- The worker goes to sleep twice; a frame is submitted, and nobody has told the worker yet. -/
def frameUnnoticed : List (Turn Unit) :=
  [.sleep, .stir, .sleep, .region (.submit {} (System.twoPixels 1)), .region (.waitUntilIdle false 5), .block]

def afterFrameUnnoticed : Threads Unit :=
  (Transition.exec (step System.presenting) frameUnnoticed { system := System.fresh }).get
    (by decide +kernel)

theorem no_lost_wakeup_frameUnnoticed :
    afterFrameUnnoticed.ready.blocked = 1 ∧ afterFrameUnnoticed.idle.blocked = 1 ∧
      0 < afterFrameUnnoticed.ready.owed := by
  have run : Transition.Run (step System.presenting) { system := System.fresh } frameUnnoticed
      afterFrameUnnoticed := Transition.run_iff_exec.mpr (Option.some_get _).symm
  exact ⟨by decide +kernel, by decide +kernel,
    (no_lost_wakeup System.started_fresh run).1 (by decide +kernel) (by decide +kernel)⟩

end Threads

end Rasterm
