import Rasterm.Presenter.Invalidation

/-!
Contract: what a `waitUntilIdle` that returns true has waited for.

Owns: the predicate of the wait against the mailbox and the place of the worker, in
every run, failing allocations and shutdowns included; and the calls and steps that
bring a wait and a reset together, the one way in which the predicate comes to hold
while the worker is inside its engine.

Does not own when a wait ends without the predicate, which is a matter of time.
-/

set_option autoImplicit false

universe u v

namespace Rasterm

open History

namespace System

variable {Device : Type u} {Input : Type v} {calls : EngineCalls Device Input}
  {system next : System Device} {label : Label Input}

/-! ### What waits -/

/-- A frame waits in the history of the mailbox exactly when the generations differ. -/
def Occupied (system : System Device) : Prop :=
  (Mailbox.slot (mailboxHistory system.log)).isSome = system.presenter.waiting

theorem occupied_start (started : Started system) : system.Occupied := by
  cases started with
  | intro before options device succeeded =>
      unfold Occupied
      rw [Presenter.initializeWith_of_succeeded succeeded]
      rfl

theorem Occupied.handOver (system : System Device) : system.handOver.Occupied := by
  unfold Occupied
  change false = (system.presenter.pendingGeneration != system.presenter.pendingGeneration)
  rw [bne_self_eq_false]

theorem occupied_move (move : Move calls system label next) (consistent : system.Consistent)
    (occupied : system.Occupied) : next.Occupied := by
  cases move with
  | @accepted heap submission after entered accepted =>
      have ordered := consistent.generations
      unfold Occupied Presenter.waiting
      change true = (after.pendingGeneration != after.consumedGeneration)
      rw [accepted.consumedGeneration, accepted.pendingGeneration, eq_comm, bne_iff_ne]
      omega
  | interrupted failed interrupted =>
      unfold Occupied Presenter.waiting
      rw [interrupted.rest]
      exact occupied
  | noted noted =>
      obtain ⟨rejected, status, rfl⟩ := noted
      exact occupied
  | emitted found => exact occupied
  | invalidated running going => exact occupied
  | waits running going => exact occupied
  | drained => exact occupied
  | refusedShutdown inside => exact occupied
  | cancelled outside running waits =>
      unfold Occupied
      change false = (system.presenter.pendingGeneration != system.presenter.pendingGeneration)
      rw [bne_self_eq_false]
  | stopped outside running empty => exact occupied
  | stoppedAgain outside gone => exact occupied
  | joined exited asked =>
      have empty : system.presenter.waiting = false := by
        cases running : system.presenter.running with
        | false => exact (consistent.running running).2
        | true => exact (consistent.leaving asked running).2
      exact occupied.trans empty
  | exited sleeping stopping => exact occupied
  | resetStarted sleeping going requested => exact occupied
  | limited sleeping going fresh waits => exact occupied
  | handed sleeping going fresh waits => exact Occupied.handOver system
  | handedLate sleeping going => exact Occupied.handOver system
  | reset resetting => exact occupied
  | rendered rendering => exact occupied
  | finished rendered =>
      unfold Occupied Presenter.waiting
      rw [Presenter.finish_eq]
      exact occupied

/-! ### Idle states -/

/-- Nothing waits, and the worker is not inside its engine. -/
structure Idle (system : System Device) : Prop where
  empty : Mailbox.slot (mailboxHistory system.log) = none
  outside : system.phase.callsBack = false

/-- A caller inside `waitUntilIdle` that looks at its predicate here returns true only when the
Presenter is idle. -/
def ReturnsIdle (system : System Device) : Prop :=
  0 < system.waiters → system.presenter.isIdle = true → system.Idle

/-- While the worker is in a reset, nobody is inside `waitUntilIdle`, or the wait has something
else to wait for. -/
def Apart (system : System Device) : Prop :=
  system.phase.isResetting = true → system.waiters = 0 ∨ system.presenter.waiting = true ∨
    system.presenter.resetRequested = true

/-- When the predicate holds, only a reset that is under way keeps the worker busy. -/
theorem idle_of_isIdle (consistent : system.Consistent) (occupied : system.Occupied)
    (holds : system.presenter.isIdle = true) (resting : system.phase.isResetting = false) :
    system.Idle := by
  simp only [Presenter.isIdle, Bool.and_eq_true, Bool.not_eq_true'] at holds
  obtain ⟨⟨empty, inactive⟩, -⟩ := holds
  have active := consistent.active
  rw [inactive] at active
  constructor
  · rw [← Option.not_isSome_iff_eq_none, occupied, empty]
    exact Bool.false_ne_true
  · cases place : system.phase with
    | resetting =>
        rw [place] at resting
        exact resting
    | rendering handed =>
        rw [place] at active
        exact active.symm
    | waiting => rfl
    | rateLimited => rfl
    | rendered stats => rfl
    | exited => rfl

theorem returnsIdle_of_apart (consistent : system.Consistent) (occupied : system.Occupied)
    (apart : system.Apart) : system.ReturnsIdle := by
  intro inside holds
  apply idle_of_isIdle consistent occupied holds
  simp only [Presenter.isIdle, Bool.and_eq_true, Bool.not_eq_true'] at holds
  by_contra resetting
  rw [Bool.not_eq_false] at resetting
  rcases apart resetting with outside | waits | requested
  · omega
  · rw [holds.1.1] at waits
    cases waits
  · rw [holds.2] at requested
    cases requested

/-- In a reset the engine is busy, whatever the predicate says. -/
theorem not_returnsIdle_of_resetting (resetting : system.phase.isResetting = true)
    (consistent : system.Consistent) (inside : system.waiters ≠ 0)
    (empty : system.presenter.waiting = false)
    (settled : system.presenter.resetRequested = false) : ¬ system.ReturnsIdle := by
  intro returns
  have place : system.phase = .resetting := by
    cases phase : system.phase <;> rw [phase] at resetting <;> first
      | rfl
      | cases resetting
  have inactive := consistent.active
  rw [place] at inactive
  have idle := returns (Nat.pos_of_ne_zero inside) (by
    rw [Presenter.isIdle, empty, inactive, settled]
    rfl)
  have outside := idle.outside
  rw [place] at outside
  cases outside

/-! ### Calls and steps that keep waits and resets apart -/

/-- The worker takes a requested reset only when nobody is inside `waitUntilIdle` or a frame
waits; nobody enters `waitUntilIdle` during a reset, and no `shutdown` takes the waiting frame
away then, unless that leaves the wait something to wait for. -/
def KeepsApart (label : Label Input) (system : System Device) : Prop :=
  match label with
  | .wake =>
      system.presenter.stopping = false → system.presenter.resetRequested = true →
        system.waiters = 0 ∨ system.presenter.waiting = true
  | .waitUntilIdle fromWorker timeout =>
      system.phase.isResetting = true → (system.presenter.beginWait fromWorker timeout).isNone →
        system.presenter.waiting = true ∨ system.presenter.resetRequested = true
  | .shutdown =>
      system.phase.isResetting = true → system.presenter.waiting = true →
        system.waiters = 0 ∨ system.presenter.resetRequested = true
  | _ => True

instance (label : Label Input) (system : System Device) : Decidable (KeepsApart label system) := by
  cases label <;> unfold KeepsApart <;> infer_instance

theorem apart_start (started : Started system) : system.Apart := by
  cases started with
  | intro before options device succeeded => exact fun resetting => by cases resetting

/-- A wait that was admitted stands among the callers inside. -/
theorem admitted_of_waits {fromWorker : Bool} {timeout : Int}
    (taken : step calls (.waitUntilIdle fromWorker timeout) system = some next)
    (entered : next.waiters = system.waiters + 1) :
    (system.presenter.beginWait fromWorker timeout).isNone := by
  simp only [step] at taken
  split_ifs at taken
  split at taken
  · rw [← Option.some.inj taken] at entered
    exact absurd entered (Nat.lt_succ_self _).ne
  · rename_i admitted
    rw [admitted]
    rfl

theorem apart_step (taken : step calls label system = some next)
    (keeps : KeepsApart label system) (consistent : system.Consistent) (apart : system.Apart) :
    next.Apart := by
  have move := move_of_step label taken
  cases move with
  | @accepted heap submission after entered accepted =>
      intro _
      refine Or.inr (Or.inl ?_)
      have ordered := consistent.generations
      change after.waiting = true
      unfold Presenter.waiting
      rw [accepted.consumedGeneration, accepted.pendingGeneration, bne_iff_ne]
      omega
  | interrupted failed interrupted =>
      unfold Apart Presenter.waiting
      rw [interrupted.rest]
      exact apart
  | noted noted =>
      obtain ⟨rejected, status, rfl⟩ := noted
      exact apart
  | emitted found => exact apart
  | invalidated running going => exact fun _ => Or.inr (Or.inr rfl)
  | waits running going =>
      exact fun resetting => Or.inr (keeps resetting (admitted_of_waits taken rfl))
  | drained =>
      intro resetting
      rcases apart resetting with outside | busy
      · left
        change system.waiters - 1 = 0
        omega
      · exact Or.inr busy
  | refusedShutdown inside => exact apart
  | cancelled outside running waits =>
      intro resetting
      rcases keeps resetting waits with outside | requested
      · exact Or.inl outside
      · exact Or.inr (Or.inr requested)
  | stopped outside running empty => exact apart
  | stoppedAgain outside gone => exact apart
  | joined exited asked =>
      intro resetting
      change system.phase.isResetting = true at resetting
      rw [exited] at resetting
      cases resetting
  | exited sleeping stopping => exact fun resetting => by cases resetting
  | resetStarted sleeping going requested =>
      intro _
      rcases keeps going requested with outside | waits
      · exact Or.inl outside
      · exact Or.inr (Or.inl waits)
  | limited sleeping going fresh waits => exact fun resetting => by cases resetting
  | handed sleeping going fresh waits => exact fun resetting => by cases resetting
  | handedLate sleeping going => exact fun resetting => by cases resetting
  | reset resetting => exact fun resetting => by cases resetting
  | rendered rendering => exact fun resetting => by cases resetting
  | finished rendered => exact fun resetting => by cases resetting

/-- Any other step leaves a caller inside `waitUntilIdle` that may return during the reset. -/
theorem not_returnsIdle_step (taken : step calls label system = some next)
    (breaks : ¬ KeepsApart label system) (consistent : system.Consistent) :
    ¬ next.ReturnsIdle := by
  have after := consistent_move (move_of_step label taken) consistent
  cases label with
  | wake =>
      simp only [KeepsApart, Classical.not_imp, not_or, Bool.not_eq_true] at breaks
      obtain ⟨going, requested, inside, empty⟩ := breaks
      simp only [step] at taken
      split at taken
      · rw [wake, if_neg (ne_true_of_eq_false going), if_pos requested, Option.some.injEq] at taken
        subst taken
        exact not_returnsIdle_of_resetting rfl after inside empty rfl
      · cases taken
  | waitUntilIdle fromWorker timeout =>
      simp only [KeepsApart, Classical.not_imp, not_or, Bool.not_eq_true,
        Option.isNone_iff_eq_none] at breaks
      obtain ⟨resetting, admitted, empty, settled⟩ := breaks
      simp only [step, admitted] at taken
      split_ifs at taken
      rw [Option.some.injEq] at taken
      subst taken
      exact not_returnsIdle_of_resetting resetting after (Nat.succ_ne_zero _) empty settled
  | shutdown =>
      simp only [KeepsApart, Classical.not_imp, not_or, Bool.not_eq_true] at breaks
      obtain ⟨resetting, waits, inside, settled⟩ := breaks
      have present : system.phase.isExited = false := by
        cases phase : system.phase <;> rw [phase] at resetting <;> first
          | rfl
          | cases resetting
      have running := consistent.running_of_present present
      have empty : system.presenter.beginShutdown.waiting = false := by
        rw [Presenter.beginShutdown, if_pos running, if_pos waits]
        exact bne_self_eq_false _
      have kept : system.presenter.beginShutdown.resetRequested = false := by
        rw [Presenter.beginShutdown, if_pos running, if_pos waits]
        exact settled
      simp only [step] at taken
      split_ifs at taken
      all_goals
        rw [Option.some.injEq] at taken
        subst taken
        exact not_returnsIdle_of_resetting resetting after inside empty kept
  | _ => exact absurd trivial breaks

/-! ### Runs -/

variable {start final : System Device} {labels : List (Label Input)}

/-- What every step keeps of the mailbox, and the steps above of the waits. -/
structure Guarded (system : System Device) : Prop where
  consistent : system.Consistent
  occupied : system.Occupied
  apart : system.Apart

/-- In every run: wherever a caller inside `waitUntilIdle` looks and returns true, no accepted frame
waits and the worker is in no call of the engine, if and only if every step of the run keeps waits
and resets apart. -/
theorem idle_iff (started : Started start)
    (run : Transition.Run (step calls) start labels final) :
    (∀ before after state, labels = before ++ after →
        Transition.Run (step calls) start before state → ReturnsIdle state) ↔
      ∀ before label after state, labels = before ++ label :: after →
        Transition.Run (step calls) start before state → KeepsApart label state := by
  apply @Transition.Run.throughout_iff _ _ _ ReturnsIdle Guarded KeepsApart
  · exact fun state guarded => returnsIdle_of_apart guarded.consistent guarded.occupied guarded.apart
  · rintro label state next taken keeps ⟨consistent, occupied, apart⟩
    have move := move_of_step label taken
    exact ⟨consistent_move move consistent, occupied_move move consistent occupied,
      apart_step taken keeps consistent apart⟩
  · exact fun label state next taken breaks guarded =>
      not_returnsIdle_step taken breaks guarded.consistent
  · exact run
  · exact ⟨consistent_start started, occupied_start started, apart_start started⟩

/-! ### A reset and a wait -/

theorem started_unlimited : Started (limited (.finite 0)) :=
  .intro {} { maximumFramesPerSecond := .finite 0 } _ (by decide +kernel)

/-- A reset is executed before anybody waits; the next one while a frame waits as well. -/
def waitedFor : List (Label TerminalGeometry) :=
  [.invalidate, .wake, .reset, .waitUntilIdle false 1000, .submit {} (twoPixels 1), .invalidate,
    .wake, .reset, .wake, .render {}, .finish]

def afterWaitedFor : System Engine :=
  (Transition.exec (step (Engine.calls Host.plain)) waitedFor (limited (.finite 0))).get
    (by decide +kernel)

theorem run_waitedFor :
    Transition.Run (step (Engine.calls Host.plain)) (limited (.finite 0)) waitedFor
      afterWaitedFor :=
  Transition.run_iff_exec.mpr (Option.some_get _).symm

theorem keepsApart_waitedFor :
    Transition.checks (step (Engine.calls Host.plain))
      (fun label system => decide (KeepsApart label system)) waitedFor (limited (.finite 0)) =
        true := by
  decide +kernel

theorem idle_iff_waitedFor :
    afterWaitedFor.waiters = 1 ∧ afterWaitedFor.presenter.isIdle = true ∧ afterWaitedFor.Idle := by
  have idle : afterWaitedFor.presenter.isIdle = true := by decide +kernel
  refine ⟨by decide +kernel, idle, ?_⟩
  apply (idle_iff started_unlimited run_waitedFor).mpr _ waitedFor [] afterWaitedFor
    (List.append_nil _).symm run_waitedFor (by decide +kernel) idle
  intro before label after state split head
  have checked := Transition.allowed_of_checks keepsApart_waitedFor split head
  exact of_decide_eq_true checked

/-- The wait looks at the flags while the worker is in the reset. -/
def waitedInReset : System Engine :=
  (Transition.exec (step (Engine.calls Host.plain))
    [.invalidate, .waitUntilIdle false 1000, .wake] (limited (.finite 0))).get (by decide +kernel)

def returnedInReset : System Engine :=
  (step (Engine.calls Host.plain) .endWait waitedInReset).get (by decide +kernel)

/-- The wait returns true, and the worker has not left `engine.reset()`. -/
theorem busy_when_idle :
    Started (limited (.finite 0)) ∧
      Transition.Run (step (Engine.calls Host.plain)) (limited (.finite 0))
        [.invalidate, .waitUntilIdle false 1000, .wake] waitedInReset ∧
      step (Engine.calls Host.plain) .endWait waitedInReset = some returnedInReset ∧
      waitedInReset.presenter.isIdle = true ∧ ¬ waitedInReset.Idle := by
  refine ⟨started_unlimited, Transition.run_iff_exec.mpr (Option.some_get _).symm,
    (Option.some_get _).symm, by decide +kernel, fun idle => ?_⟩
  have inside : waitedInReset.phase.callsBack = true := by decide +kernel
  rw [idle.outside] at inside
  cases inside

end System

end Rasterm
