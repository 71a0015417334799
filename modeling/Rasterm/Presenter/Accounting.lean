import Rasterm.Presenter.Mailbox

/-!
Contract: every frame a Presenter accepts has one outcome. The counters are the lengths
of what the mailbox has done with its submissions, and the account of the one-item
mailbox closes them.

Owns the reading of each counter, the growth of the counters, and the emission of
`FrameDropped` for exactly the frames that were replaced.
-/

set_option autoImplicit false

universe u v

namespace Rasterm

variable {Device : Type u} {Input : Type v} {calls : EngineCalls Device Input}
  {system next : System Device} {label : Label Input}

/-- No counter goes back. -/
structure PresenterStats.Grown (before after : PresenterStats) : Prop where
  submitted : before.submittedFrames ≤ after.submittedFrames
  presented : before.presentedFrames ≤ after.presentedFrames
  replaced : before.replacedFrames ≤ after.replacedFrames
  unchanged : before.unchangedFrames ≤ after.unchangedFrames
  failed : before.failedFrames ≤ after.failedFrames
  rejected : before.rejectedFrames ≤ after.rejectedFrames
  cancelled : before.cancelledFrames ≤ after.cancelledFrames

theorem PresenterStats.Grown.refl (stats : PresenterStats) : stats.Grown stats :=
  ⟨Nat.le_refl _, Nat.le_refl _, Nat.le_refl _, Nat.le_refl _, Nat.le_refl _, Nat.le_refl _,
    Nat.le_refl _⟩

theorem PresenterStats.Grown.trans {first second third : PresenterStats}
    (early : first.Grown second) (late : second.Grown third) : first.Grown third where
  submitted := early.submitted.trans late.submitted
  presented := early.presented.trans late.presented
  replaced := early.replaced.trans late.replaced
  unchanged := early.unchanged.trans late.unchanged
  failed := early.failed.trans late.failed
  rejected := early.rejected.trans late.rejected
  cancelled := early.cancelled.trans late.cancelled

/-- Frames whose rendering has been concluded. -/
def PresenterStats.rendered (stats : PresenterStats) : Nat :=
  stats.presentedFrames + stats.unchangedFrames + stats.failedFrames

namespace Presenter

/-- The finish region counts one outcome. -/
theorem rendered_finish (presenter : Presenter) (stats : RenderStats) (status : Status) :
    (presenter.finish stats status).statistics.rendered = presenter.statistics.rendered + 1 := by
  unfold finish PresenterStats.rendered
  simp only
  split_ifs <;> simp only <;> omega

/-- The other counters are not the worker's. -/
theorem counters_finish (presenter : Presenter) (stats : RenderStats) (status : Status) :
    (presenter.finish stats status).statistics.submittedFrames =
        presenter.statistics.submittedFrames ∧
      (presenter.finish stats status).statistics.replacedFrames =
        presenter.statistics.replacedFrames ∧
      (presenter.finish stats status).statistics.rejectedFrames =
        presenter.statistics.rejectedFrames ∧
      (presenter.finish stats status).statistics.cancelledFrames =
        presenter.statistics.cancelledFrames := by
  unfold finish
  simp only
  split_ifs <;> exact ⟨rfl, rfl, rfl, rfl⟩

theorem grown_finish (presenter : Presenter) (stats : RenderStats) (status : Status) :
    presenter.statistics.Grown (presenter.finish stats status).statistics := by
  unfold finish
  simp only
  split_ifs <;> constructor <;> simp only <;> omega

theorem countReplaced_statistics (presenter : Presenter) :
    presenter.countReplaced.statistics =
      { presenter.statistics with
        replacedFrames :=
          presenter.statistics.replacedFrames + if presenter.waiting then 1 else 0 } := by
  unfold countReplaced
  split_ifs <;> rfl

theorem grown_countReplaced (presenter : Presenter) :
    presenter.statistics.Grown
      { presenter.countReplaced.statistics with
        submittedFrames := presenter.statistics.submittedFrames + 1 } := by
  unfold countReplaced
  split_ifs <;> constructor <;> simp only <;> omega

end Presenter

namespace System

/-! ### Growth -/

theorem grown_move (served : label.Serves) (move : Move calls system label next) :
    system.presenter.statistics.Grown next.presenter.statistics := by
  cases move with
  | accepted entered accepted =>
      simp only
      rw [accepted.statistics]
      exact system.presenter.grown_countReplaced
  | interrupted failed interrupted => exact absurd failed served.not_fails
  | noted noted =>
      obtain ⟨rejected, status, rfl⟩ := noted
      exact ⟨Nat.le_refl _, Nat.le_refl _, Nat.le_refl _, Nat.le_refl _, Nat.le_refl _,
        Nat.le_add_right _ _, Nat.le_refl _⟩
  | emitted found => exact .refl _
  | invalidated running going => exact .refl _
  | waits running going => exact .refl _
  | drained => exact .refl _
  | refusedShutdown inside => exact .refl _
  | cancelled outside running occupied =>
      exact ⟨Nat.le_refl _, Nat.le_refl _, Nat.le_refl _, Nat.le_refl _, Nat.le_refl _,
        Nat.le_refl _, Nat.le_succ _⟩
  | stopped outside running empty => exact .refl _
  | stoppedAgain outside gone => exact .refl _
  | joined exited asked => exact .refl _
  | exited sleeping stopping => exact .refl _
  | resetStarted sleeping going requested => exact .refl _
  | limited sleeping going fresh occupied => exact .refl _
  | handed sleeping going fresh occupied => exact .refl _
  | handedLate sleeping going => exact .refl _
  | reset resetting => exact .refl _
  | rendered rendering => exact .refl _
  | finished rendered => exact system.presenter.grown_finish _ _

theorem grown_of_run {start final : System Device} {labels : List (Label Input)}
    (served : ∀ label ∈ labels, label.Serves)
    (run : Transition.Run (step calls) start labels final) :
    start.presenter.statistics.Grown final.presenter.statistics := by
  induction run with
  | nil state => exact .refl _
  | @cons state middle final label labels head tail inductionHypothesis =>
      have first := grown_move (served label List.mem_cons_self) (move_of_step label head)
      apply first.trans
      apply inductionHypothesis
      intro later member
      exact served later (List.mem_cons_of_mem label member)

/-! ### The account -/

/-- The counters tell what the mailbox has done. -/
structure Counted (system : System Device) : Prop where
  submitted : system.presenter.statistics.submittedFrames =
    (Mailbox.puts (mailboxHistory system.log)).length
  replaced : system.presenter.statistics.replacedFrames =
    (Mailbox.replaced (mailboxHistory system.log)).length
  cancelled : system.presenter.statistics.cancelledFrames =
    (Mailbox.discarded (mailboxHistory system.log)).length
  rendered : system.presenter.statistics.rendered +
      (if system.presenter.renderingActive then 1 else 0) =
    (Mailbox.taken (mailboxHistory system.log)).length

theorem Holds.length_slot (holds : system.Holds) :
    (Mailbox.slot (mailboxHistory system.log)).toList.length =
      if system.presenter.waiting then 1 else 0 := by
  cases occupied : system.presenter.waiting with
  | false =>
      rw [holds.slot_eq_none occupied]
      rfl
  | true =>
      obtain ⟨submission, held, -⟩ := holds.slot occupied
      rw [held]
      rfl

theorem counted_start (started : Started system) : system.Counted := by
  cases started with
  | intro before options device succeeded =>
      rw [Presenter.initializeWith_of_succeeded succeeded]
      exact ⟨rfl, rfl, rfl, rfl⟩

theorem counted_handOver (consistent : system.Consistent) (holds : system.Holds)
    (idle : system.phase.holdsFrame = false) (occupied : system.presenter.waiting = true)
    (counted : system.Counted) : system.handOver.Counted where
  submitted := counted.submitted
  replaced := counted.replaced
  cancelled := counted.cancelled
  rendered := by
    have earlier := counted.rendered
    rw [consistent.active, idle] at earlier
    obtain ⟨submission, held, -⟩ := holds.slot occupied
    change system.presenter.statistics.rendered + 1 =
      ((Mailbox.slot (mailboxHistory system.log)).toList ++
        Mailbox.taken (mailboxHistory system.log)).length
    rw [held, List.length_append, ← earlier]
    simp only [Option.toList_some, List.length_singleton, Bool.false_eq_true, if_false]
    omega

theorem counted_move (served : label.Serves) (mailboxed : system.Mailboxed)
    (move : Move calls system label next) (counted : system.Counted) : next.Counted := by
  have consistent := mailboxed.consistent
  have holds := mailboxed.holds
  have submitted := counted.submitted
  have replaced := counted.replaced
  have cancelled := counted.cancelled
  have rendered := counted.rendered
  cases move with
  | @accepted heap submission after entered accepted =>
      constructor
      · change after.statistics.submittedFrames = _
        rw [accepted.statistics]
        exact congrArg (· + 1) submitted
      · change after.statistics.replacedFrames =
          ((Mailbox.slot (mailboxHistory system.log)).toList ++
            Mailbox.replaced (mailboxHistory system.log)).length
        rw [accepted.statistics, Presenter.countReplaced_statistics, List.length_append,
          holds.length_slot, ← replaced]
        exact Nat.add_comm _ _
      · change after.statistics.cancelledFrames = _
        rw [accepted.statistics, Presenter.countReplaced_statistics]
        exact cancelled
      · change after.statistics.rendered + (if after.renderingActive then 1 else 0) = _
        rw [accepted.statistics, Presenter.countReplaced_statistics, accepted.renderingActive]
        exact rendered
  | interrupted failed interrupted => exact absurd failed served.not_fails
  | noted noted =>
      obtain ⟨rejected, status, rfl⟩ := noted
      exact ⟨submitted, replaced, cancelled, rendered⟩
  | emitted found => exact ⟨submitted, replaced, cancelled, rendered⟩
  | invalidated running going => exact ⟨submitted, replaced, cancelled, rendered⟩
  | waits running going => exact ⟨submitted, replaced, cancelled, rendered⟩
  | drained => exact ⟨submitted, replaced, cancelled, rendered⟩
  | refusedShutdown inside => exact ⟨submitted, replaced, cancelled, rendered⟩
  | cancelled outside running occupied =>
      refine ⟨submitted, replaced, ?_, rendered⟩
      change system.presenter.statistics.cancelledFrames + 1 =
        ((Mailbox.slot (mailboxHistory system.log)).toList ++
          Mailbox.discarded (mailboxHistory system.log)).length
      rw [List.length_append, holds.length_slot, occupied, ← cancelled]
      exact Nat.add_comm _ _
  | stopped outside running empty => exact ⟨submitted, replaced, cancelled, rendered⟩
  | stoppedAgain outside gone => exact ⟨submitted, replaced, cancelled, rendered⟩
  | joined exited asked =>
      have active := consistent.active
      rw [exited] at active
      rw [active] at rendered
      exact ⟨submitted, replaced, cancelled, rendered⟩
  | exited sleeping stopping => exact ⟨submitted, replaced, cancelled, rendered⟩
  | resetStarted sleeping going requested => exact ⟨submitted, replaced, cancelled, rendered⟩
  | limited sleeping going fresh occupied => exact ⟨submitted, replaced, cancelled, rendered⟩
  | handed sleeping going fresh occupied =>
      exact counted_handOver consistent holds (by rw [sleeping]; rfl) occupied counted
  | handedLate sleeping going =>
      exact counted_handOver consistent holds (by rw [sleeping]; rfl)
        (consistent.occupied (by rw [sleeping]; rfl) going) counted
  | reset resetting => exact ⟨submitted, replaced, cancelled, rendered⟩
  | rendered rendering => exact ⟨submitted, replaced, cancelled, rendered⟩
  | @finished stats concluded =>
      have active := consistent.active
      rw [concluded] at active
      rw [active] at rendered
      obtain ⟨sameSubmitted, sameReplaced, -, sameCancelled⟩ :=
        system.presenter.counters_finish stats (calls.status system.device)
      constructor
      · exact sameSubmitted.trans submitted
      · exact sameReplaced.trans replaced
      · exact sameCancelled.trans cancelled
      · change (system.presenter.finish stats _).statistics.rendered +
          (if (system.presenter.finish stats (calls.status system.device)).renderingActive
            then 1 else 0) = _
        rw [Presenter.rendered_finish, Presenter.finish_eq]
        exact rendered

/-! ### Dropped frames -/

/-- Every replaced frame has its `FrameDropped`, emitted or still to be emitted. -/
def Drops (system : System Device) : Prop :=
  (system.events ++ system.dropping.map dropEvent).Perm
    ((Mailbox.replaced (mailboxHistory system.log)).map
      fun submission => dropEvent submission.frame.metadata)

/-- The waiting frame is dropped under its own identity. -/
theorem dropEvent_waitingMetadata {submission : Submission} {presenter : Presenter}
    (carried : submission.Carried presenter.consume.2) :
    dropEvent presenter.waitingMetadata = dropEvent submission.frame.metadata := by
  have same := (presenter.metadata_consume).symm.trans carried.copies.metadata
  have frameId := congrArg FrameMetadata.frameId same
  have timestamp := congrArg FrameMetadata.timestampNanoseconds same
  simp only at frameId timestamp
  rw [dropEvent, dropEvent, frameId, timestamp]

theorem drops_accepted (holds : system.Holds) (submission : Submission) (after : Presenter)
    (drops : system.Drops) :
    Drops
      { system with
        presenter := after
        dropping := system.dropping ++ system.presenter.dropped.toList
        log := .accepted submission :: system.log } := by
  have dropped : system.presenter.dropped.toList.map dropEvent =
      (Mailbox.slot (mailboxHistory system.log)).toList.map
        fun submission => dropEvent submission.frame.metadata := by
    unfold Presenter.dropped
    cases occupied : system.presenter.waiting with
    | false =>
        rw [holds.slot_eq_none occupied]
        rfl
    | true =>
        obtain ⟨waiting, held, carried⟩ := holds.slot occupied
        rw [held]
        exact congrArg (fun event => [event]) (dropEvent_waitingMetadata carried)
  change (system.events ++
      (system.dropping ++ system.presenter.dropped.toList).map dropEvent).Perm
    (((Mailbox.slot (mailboxHistory system.log)).toList ++
      Mailbox.replaced (mailboxHistory system.log)).map _)
  rw [List.map_append, List.map_append, dropped, ← List.append_assoc]
  apply List.Perm.trans (List.Perm.append_right _ drops)
  exact List.perm_append_comm

theorem drops_move (served : label.Serves) (holds : system.Holds)
    (move : Move calls system label next) (drops : system.Drops) : next.Drops := by
  cases move with
  | @accepted heap submission after entered accepted =>
      exact drops_accepted holds submission after drops
  | interrupted failed interrupted => exact drops
  | noted noted => exact drops
  | @emitted position metadata found =>
      obtain ⟨inside, rfl⟩ := List.getElem?_eq_some_iff.mp found
      change ((system.events ++ [dropEvent system.dropping[position]]) ++
        (system.dropping.eraseIdx position).map dropEvent).Perm _
      rw [List.append_assoc, List.singleton_append, ← List.map_cons]
      apply List.Perm.trans _ drops
      exact List.Perm.append_left _ ((List.getElem_cons_eraseIdx_perm inside).map dropEvent)
  | invalidated running going => exact drops
  | waits running going => exact drops
  | drained => exact drops
  | refusedShutdown inside => exact drops
  | cancelled outside running occupied => exact drops
  | stopped outside running empty => exact drops
  | stoppedAgain outside gone => exact drops
  | joined exited asked => exact drops
  | exited sleeping stopping => exact drops
  | resetStarted sleeping going requested => exact drops
  | limited sleeping going fresh occupied => exact drops
  | handed sleeping going fresh occupied => exact drops
  | handedLate sleeping going => exact drops
  | reset resetting => exact drops
  | rendered rendering => exact drops
  | finished rendered => exact drops

/-! ### Runs -/

/-- What is true of the counters in every state. -/
structure Accounted (system : System Device) : Prop where
  mailboxed : system.Mailboxed
  counted : system.Counted
  drops : system.Drops

variable {start final : System Device} {labels : List (Label Input)}

theorem accounted_of_run (started : Started start) (served : ∀ label ∈ labels, label.Serves)
    (run : Transition.Run (step calls) start labels final) : final.Accounted := by
  apply run.invariant_of_labels _ served
  · refine ⟨mailboxed_start started, counted_start started, ?_⟩
    cases started with
    | intro before options device succeeded => exact List.Perm.refl _
  · intro label system next taken serves accounted
    have move := move_of_step label taken
    exact ⟨mailboxed_move serves move accounted.mailboxed,
      counted_move serves accounted.mailboxed move accounted.counted,
      drops_move serves accounted.mailboxed.holds move accounted.drops⟩

/-- Each accepted frame has one outcome, or waits, or is being rendered. -/
theorem Accounted.balance (accounted : system.Accounted) :
    system.presenter.statistics.submittedFrames =
      system.presenter.statistics.presentedFrames + system.presenter.statistics.unchangedFrames +
        system.presenter.statistics.failedFrames + system.presenter.statistics.replacedFrames +
        system.presenter.statistics.cancelledFrames +
        (if system.presenter.waiting then 1 else 0) +
        (if system.presenter.renderingActive then 1 else 0) := by
  have counted := accounted.counted
  have rendered := counted.rendered
  unfold PresenterStats.rendered at rendered
  have account := Mailbox.length_puts (mailboxHistory system.log)
  rw [accounted.mailboxed.holds.length_slot, ← counted.submitted, ← counted.replaced,
    ← counted.cancelled, ← rendered] at account
  omega

/-- A Presenter that has been shut down stays so. -/
theorem gone_move (move : Move calls system label next)
    (gone : system.presenter.running = false) : next.presenter.running = false := by
  cases move with
  | accepted entered accepted => exact accepted.running.trans gone
  | interrupted failed interrupted =>
      rw [interrupted.rest]
      exact gone
  | noted noted =>
      obtain ⟨rejected, status, rfl⟩ := noted
      exact gone
  | emitted found => exact gone
  | invalidated running going => exact gone
  | waits running going => exact gone
  | drained => exact gone
  | refusedShutdown inside => exact gone
  | cancelled outside running occupied => exact gone
  | stopped outside running empty => exact gone
  | stoppedAgain outside gone => exact gone
  | joined exited asked => rfl
  | exited sleeping stopping => exact gone
  | resetStarted sleeping going requested => exact gone
  | limited sleeping going fresh occupied => exact gone
  | handed sleeping going fresh occupied => exact gone
  | handedLate sleeping going => exact gone
  | reset resetting => exact gone
  | rendered rendering => exact gone
  | finished rendered =>
      rw [Presenter.finish_eq]
      exact gone

/-- An external `shutdown` that has returned leaves the Presenter stopped. -/
theorem gone_of_joined (run : Transition.Run (step calls) start labels final)
    (joined : Label.joined ∈ labels) : final.presenter.running = false := by
  have stays : ∀ {first last : System Device} {steps : List (Label Input)},
      Transition.Run (step calls) first steps last → first.presenter.running = false →
        last.presenter.running = false :=
    fun steps gone => steps.invariant
      (fun label _ _ taken => gone_move (move_of_step label taken)) gone
  induction run with
  | nil state => exact absurd joined List.not_mem_nil
  | @cons state middle final label labels head tail inductionHypothesis =>
      rcases List.mem_cons.mp joined with rfl | later
      · apply stays tail
        simp only [step] at head
        split at head
        · split_ifs at head
          rw [← Option.some.inj head]
          rfl
        · cases head
      · exact inductionHypothesis later

/-- Every accepted frame has exactly one outcome, the counters only grow, nothing waits or
is rendered once an external shutdown has returned, and the frames dropped with an event
are the frames replaced. -/
theorem every_frame_accounted (started : Started start)
    (served : ∀ label ∈ labels, label.Serves)
    (run : Transition.Run (step calls) start labels final) :
    final.presenter.statistics.submittedFrames =
        final.presenter.statistics.presentedFrames +
          final.presenter.statistics.unchangedFrames + final.presenter.statistics.failedFrames +
          final.presenter.statistics.replacedFrames +
          final.presenter.statistics.cancelledFrames +
          (if final.presenter.waiting then 1 else 0) +
          (if final.presenter.renderingActive then 1 else 0) ∧
      (∀ {more later}, (∀ label ∈ more, label.Serves) →
        Transition.Run (step calls) final more later →
          final.presenter.statistics.Grown later.presenter.statistics) ∧
      (Label.joined ∈ labels →
        final.presenter.waiting = false ∧ final.presenter.renderingActive = false) ∧
      final.presenter.statistics.replacedFrames =
        (Mailbox.replaced (mailboxHistory final.log)).length ∧
      (final.events ++ final.dropping.map dropEvent).Perm
        ((Mailbox.replaced (mailboxHistory final.log)).map
          fun submission => dropEvent submission.frame.metadata) := by
  have accounted := accounted_of_run started served run
  refine ⟨accounted.balance, fun serves more => grown_of_run serves more, ?_,
    accounted.counted.replaced, accounted.drops⟩
  intro joined
  have consistent := accounted.mailboxed.consistent
  obtain ⟨exited, empty⟩ := consistent.running (gone_of_joined run joined)
  refine ⟨empty, ?_⟩
  rw [consistent.active]
  cases phase : final.phase <;> rw [phase] at exited <;> first
    | rfl
    | cases exited

/-- A fourth frame waits when the Presenter is shut down. -/
def fourFrames : List (Label Unit) :=
  threeFrames ++ [.submit {} (twoPixels 4), .shutdown, .wake, .joined]

def afterFourFrames : System Unit :=
  (Transition.exec (step presenting) fourFrames fresh).get (by decide +kernel)

theorem run_fourFrames :
    Transition.Run (step presenting) fresh fourFrames afterFourFrames :=
  Transition.run_iff_exec.mpr (Option.some_get _).symm

theorem every_frame_accounted_fourFrames :
    afterFourFrames.presenter.statistics.submittedFrames = 4 ∧
      afterFourFrames.presenter.statistics.replacedFrames = 1 ∧
      afterFourFrames.presenter.statistics.cancelledFrames = 1 ∧
      afterFourFrames.presenter.waiting = false ∧
      (afterFourFrames.events ++ afterFourFrames.dropping.map dropEvent).Perm
        ((Mailbox.replaced (mailboxHistory afterFourFrames.log)).map
          fun submission => dropEvent submission.frame.metadata) := by
  have account := every_frame_accounted started_fresh
    (by simp [fourFrames, threeFrames, Label.Serves]) run_fourFrames
  exact ⟨by decide +kernel, by decide +kernel, by decide +kernel,
    (account.2.2.1 (by simp [fourFrames])).1, account.2.2.2.2⟩

end System

end Rasterm
