import Rasterm.Presenter.Monitor
import Rasterm.Presenter.Screen

/-!
Contract: without further calls a Presenter comes to rest.

Owns the measure that every step of the threads lowers, the states in which no thread can go on,
and what follows for a Presenter that is left alone or is being shut down: it presents what it
has accepted, it lets its callers go, and it stops.

Does not own how long a step takes. Timeouts of `waitUntilIdle` and spurious wake-ups are not
needed for progress and do not count as steps here.
-/

set_option autoImplicit false

universe u v

namespace Rasterm

open History Monitor Transition

/-! ### Work that is left -/

/-- What the worker still does of its loop. -/
def Phase.cost : Phase → Nat
  | exited => 0
  | rateLimited => 1
  | waiting => 2
  | resetting => 3
  | rendered _ => 3
  | rendering _ => 4

namespace System

variable {Device : Type u} {Input : Type v} {calls : EngineCalls Device Input}
  {system next : System Device} {label : Label Input}

/-- The steps that the worker and a `shutdown` still have to do. -/
def work (system : System Device) : Nat :=
  system.phase.cost + (if system.presenter.resetRequested then 2 else 0) +
    (if system.presenter.waiting then 4 else 0) + (if system.shuttingDown then 1 else 0)

/-- A step that does some of the work; who waits for it stays. -/
structure Advances (system next : System Device) : Prop where
  work : next.work < system.work
  waiters : next.waiters = system.waiters
  dropping : next.dropping = system.dropping

/-- Where only the phase changes, its cost changes. -/
theorem work_of_phase (waiting : next.presenter.waiting = system.presenter.waiting)
    (requested : next.presenter.resetRequested = system.presenter.resetRequested)
    (asked : next.shuttingDown = system.shuttingDown) :
    next.work + system.phase.cost = system.work + next.phase.cost := by
  unfold work
  rw [waiting, requested, asked]
  omega

theorem advances_of_phase (waiting : next.presenter.waiting = system.presenter.waiting)
    (requested : next.presenter.resetRequested = system.presenter.resetRequested)
    (asked : next.shuttingDown = system.shuttingDown)
    (cheaper : next.phase.cost < system.phase.cost) (waiters : next.waiters = system.waiters)
    (dropping : next.dropping = system.dropping) : system.Advances next := by
  have moved := work_of_phase waiting requested asked
  exact ⟨by omega, waiters, dropping⟩

theorem advances_handOver (sleeping : system.phase = .waiting ∨ system.phase = .rateLimited)
    (occupied : system.presenter.waiting = true) : system.Advances system.handOver := by
  refine ⟨?_, rfl, rfl⟩
  have empty : system.handOver.presenter.waiting = false := bne_self_eq_false _
  have same : system.handOver.presenter.resetRequested = system.presenter.resetRequested := rfl
  have asked : system.handOver.shuttingDown = system.shuttingDown := rfl
  have cost : system.handOver.phase.cost = 4 := rfl
  rw [work, work, cost, empty, same, asked, occupied]
  rcases sleeping with sleeping | sleeping <;> rw [sleeping] <;>
    simp only [Phase.cost, if_true, Bool.false_eq_true, if_false] <;> omega

theorem advances_wake (taken : step calls .wake system = some next) : system.Advances next := by
  simp only [step] at taken
  split at taken
  · rename_i sleeping
    unfold wake at taken
    split_ifs at taken with stopping requested occupied limit
    · rw [← Option.some.inj taken]
      exact advances_of_phase rfl rfl rfl (by simp [sleeping, Phase.cost]) rfl rfl
    · rw [← Option.some.inj taken]
      refine ⟨?_, rfl, rfl⟩
      have same : { system.presenter with resetRequested := false }.waiting =
          system.presenter.waiting := rfl
      simp only [work, sleeping, requested, same, Phase.cost, if_true, Bool.false_eq_true,
        if_false]
      omega
    · rw [← Option.some.inj taken]
      exact advances_of_phase rfl rfl rfl (by simp [sleeping, Phase.cost]) rfl rfl
    · rw [← Option.some.inj taken]
      exact advances_handOver (Or.inl sleeping) occupied
  · cases taken

theorem advances_elapsed (consistent : system.Consistent)
    (taken : step calls .elapsed system = some next) : system.Advances next := by
  simp only [step] at taken
  split at taken
  · rename_i sleeping
    split_ifs at taken with stopping
    · rw [← Option.some.inj taken]
      exact advances_of_phase rfl rfl rfl (by simp [sleeping, Phase.cost]) rfl rfl
    · rw [← Option.some.inj taken]
      have occupied := consistent.occupied (by rw [sleeping]; rfl) (Bool.eq_false_iff.mpr stopping)
      exact advances_handOver (Or.inr sleeping) occupied
  · cases taken

theorem advances_reset (taken : step calls .reset system = some next) :
    system.Advances next := by
  simp only [step] at taken
  split at taken
  · rename_i resetting
    rw [← Option.some.inj taken]
    exact advances_of_phase rfl rfl rfl (by simp [resetting, Phase.cost]) rfl rfl
  · cases taken

theorem advances_render {input : Input} (taken : step calls (.render input) system = some next) :
    system.Advances next := by
  simp only [step] at taken
  split at taken
  · rename_i handed rendering
    rw [← Option.some.inj taken]
    exact advances_of_phase rfl rfl rfl (by simp [rendering, Phase.cost]) rfl rfl
  · cases taken

theorem advances_finish (taken : step calls .finish system = some next) :
    system.Advances next := by
  simp only [step] at taken
  split at taken
  · rename_i stats rendered
    rw [← Option.some.inj taken, Presenter.finish_eq]
    exact advances_of_phase rfl rfl rfl (by simp [rendered, Phase.cost]) rfl rfl
  · cases taken

theorem advances_joined (taken : step calls .joined system = some next) :
    system.Advances next := by
  simp only [step] at taken
  split at taken
  · rename_i exited
    split_ifs at taken with asked
    rw [← Option.some.inj taken]
    refine ⟨?_, rfl, rfl⟩
    have empty : system.presenter.endShutdown.waiting = false := rfl
    have none : system.presenter.endShutdown.resetRequested = false := rfl
    simp only [work, empty, none, asked, exited, Phase.cost, if_true, Bool.false_eq_true, if_false]
    omega
  · cases taken

/-- Every step of the worker, and the end of a `shutdown`. -/
theorem advances_step (consistent : system.Consistent)
    (taken : step calls label system = some next)
    (internal : label.isWorker = true ∨ label = .joined) : system.Advances next := by
  rcases internal with worker | rfl
  · cases label with
    | wake => exact advances_wake taken
    | elapsed => exact advances_elapsed consistent taken
    | reset => exact advances_reset taken
    | render input => exact advances_render taken
    | finish => exact advances_finish taken
    | _ => cases worker
  · exact advances_joined taken

end System

/-! ### Turns that no new call takes -/

/-- The worker goes on, callers that are inside go on, notifications are made. -/
def Turn.IsInternal {Input : Type v} : Turn Input → Prop
  | region label =>
      match label with
      | .submit _ _ | .invalidate | .waitUntilIdle _ _ | .shutdown | .shutdownFromWorker => False
      | _ => True
  | stir | expire => False
  | _ => True

namespace Threads

variable {Device : Type u} {Input : Type v} {calls : EngineCalls Device Input}
  {threads next start final : Threads Device} {label : Label Input} {turn : Turn Input}
  {turns internal : List (Turn Input)}

/-- Bounds the turns that are left: for each step of the worker every caller may look at its
predicate once more. -/
def rank (threads : Threads Device) : Nat :=
  (2 * threads.system.work + threads.idle.owed) * (threads.system.waiters + 3) +
    (threads.system.waiters - threads.idle.blocked) + 2 * threads.ready.owed +
    (if threads.ready.blocked = 0 then 1 else 0) + threads.system.dropping.length +
    threads.system.waiters

/-- What the notifications and the work left weigh outweighs the callers they wake. -/
theorem rank_lt (fewer : 2 * next.system.work + next.idle.owed + 1 ≤
      2 * threads.system.work + threads.idle.owed)
    (waiters : next.system.waiters = threads.system.waiters)
    (dropping : next.system.dropping = threads.system.dropping)
    (ready : next.ready.owed = threads.ready.owed) : next.rank < threads.rank := by
  have product := Nat.mul_le_mul_right (threads.system.waiters + 3) fewer
  rw [Nat.succ_mul] at product
  have one : (if next.ready.blocked = 0 then 1 else 0) ≤ 1 := by split_ifs <;> omega
  unfold rank
  rw [waiters, dropping, ready]
  omega

theorem rank_lt_of_advances (advances : threads.system.Advances next.system)
    (ready : next.ready.owed = threads.ready.owed)
    (idle : next.idle.owed ≤ threads.idle.owed + 1) : next.rank < threads.rank := by
  have less := advances.work
  apply rank_lt _ advances.waiters advances.dropping ready
  omega

theorem rank_region (alerted : threads.Alerted)
    (taken : step calls (.region label) threads = some next)
    (internal : (Turn.region label).IsInternal) : next.rank < threads.rank := by
  obtain ⟨served, moved, ready, idle⟩ := region_of_step taken
  have advancing : label.isWorker = true ∨ label = .joined → next.rank < threads.rank := by
    intro worker
    apply rank_lt_of_advances (System.advances_step alerted.consistent moved worker)
    · rw [ready]
      cases label <;> first
        | rfl
        | cases internal
    · rw [idle]
      cases label <;> first
        | exact Nat.le_refl _
        | exact Nat.le_succ _
  cases label with
  | emitDropped position =>
      simp only [System.step] at moved
      split at moved
      · rename_i metadata found
        have shorter : (threads.system.dropping.eraseIdx position).length <
            threads.system.dropping.length := by
          have inside := (List.getElem?_eq_some_iff.mp found).1
          rw [List.length_eraseIdx_of_lt inside]
          omega
        obtain ⟨system, nextReady, nextIdle⟩ := next
        simp only at ready idle moved
        obtain rfl : threads.ready = nextReady := ready.symm
        obtain rfl : threads.idle = nextIdle := idle.symm
        rw [← Option.some.inj moved]
        unfold rank
        simp only [System.work]
        omega
      · cases moved
  | endWait =>
      simp only [holdsBack, decide_eq_false_iff_not, Nat.not_le] at served
      simp only [System.step] at moved
      split_ifs at moved with none
      obtain ⟨system, nextReady, nextIdle⟩ := next
      simp only at ready idle moved
      obtain rfl : threads.ready = nextReady := ready.symm
      obtain rfl : threads.idle = nextIdle := idle.symm
      rw [← Option.some.inj moved]
      have fewer : threads.system.waiters - 1 + 3 ≤ threads.system.waiters + 3 := by omega
      have product := Nat.mul_le_mul_left
        (2 * threads.system.work + threads.idle.owed) fewer
      have same : System.work
          { threads.system with
            presenter := threads.system.presenter.endWait.1
            waiters := threads.system.waiters - 1
            log := .drained threads.system.presenter.endWait.2 :: threads.system.log } =
          threads.system.work := rfl
      simp only [rank, same]
      omega
  | joined => exact advancing (Or.inr rfl)
  | wake => exact advancing (Or.inl rfl)
  | elapsed => exact advancing (Or.inl rfl)
  | reset => exact advancing (Or.inl rfl)
  | render input => exact advancing (Or.inl rfl)
  | finish => exact advancing (Or.inl rfl)
  | submit heap submission => cases internal
  | invalidate => cases internal
  | waitUntilIdle fromWorker timeout => cases internal
  | shutdown => cases internal
  | shutdownFromWorker => cases internal

/-- Every internal turn lowers the rank. -/
theorem rank_step (alerted : threads.Alerted) (taken : step calls turn threads = some next)
    (internal : turn.IsInternal) : next.rank < threads.rank := by
  cases turn with
  | region label => exact rank_region alerted taken internal
  | sleep =>
      simp only [step] at taken
      split_ifs at taken with nothing
      simp only [Bool.and_eq_true, beq_iff_eq] at nothing
      rw [← Option.some.inj taken]
      simp only [rank, Condition.block, nothing.1.2, if_true, Nat.succ_ne_zero, if_false]
      omega
  | alert =>
      simp only [step] at taken
      split_ifs at taken with owed
      rw [← Option.some.inj taken]
      simp only [rank, Condition.pay, if_true]
      omega
  | block =>
      simp only [step] at taken
      split_ifs at taken with busy
      simp only [Bool.and_eq_true, decide_eq_true_eq] at busy
      rw [← Option.some.inj taken]
      simp only [rank, Condition.block]
      omega
  | stir => cases internal
  | expire => cases internal
  | signal =>
      simp only [step] at taken
      split_ifs at taken with owed
      rw [← Option.some.inj taken]
      refine rank_lt ?_ rfl rfl rfl
      simp only [Condition.pay]
      omega

theorem settles : Settles (step calls) Turn.IsInternal Alerted rank where
  lowers := fun _ _ _ taken internal alerted => rank_step alerted taken internal
  keeps := fun _ _ _ taken _ alerted => alerted_step taken alerted

/-! ### At rest -/

/-- What is left of a Presenter in which no thread can go on. -/
structure Rests (threads : Threads Device) : Prop where
  emitted : threads.system.dropping = []
  alerted : threads.ready.owed = 0
  signalled : threads.idle.owed = 0
  outside : threads.system.shuttingDown = false
  blocked : threads.system.waiters = threads.idle.blocked
  /-- The worker sleeps with nothing to do, or it is gone. -/
  worker : (threads.system.phase = .waiting ∧ 0 < threads.ready.blocked ∧
      threads.system.presenter.running = true ∧ threads.system.presenter.stopping = false ∧
      threads.system.presenter.isIdle = true) ∨ threads.system.phase = .exited
  /-- Nobody waits for an idle Presenter. -/
  free : threads.system.presenter.isIdle = true → threads.system.waiters = 0

/-- The worker can go on unless it sleeps with nothing to do or is gone. -/
theorem worker_of_atRest [Nonempty Input] (alerted : threads.Alerted)
    (rest : AtRest (step calls) Turn.IsInternal threads) (paid : threads.ready.owed = 0) :
    (threads.system.phase = .waiting ∧ threads.system.awaited = false) ∨
      threads.system.phase = .exited := by
  have refused : ∀ label : Label Input, threads.holdsBack label = false →
      (Turn.region label).IsInternal → System.step calls label threads.system = none := by
    intro label free inside
    have stuck := rest (.region label) inside
    simp only [step, free, Bool.false_eq_true, if_false, Option.map_eq_none_iff] at stuck
    exact stuck
  cases phase : threads.system.phase with
  | waiting =>
      left
      refine ⟨rfl, ?_⟩
      by_contra needed
      rw [Bool.not_eq_false] at needed
      have awake : threads.ready.blocked = 0 := by
        by_contra blocked
        exact alerted.ready.refutes paid (Nat.pos_of_ne_zero blocked) needed
      have stuck := refused .wake (by simp [holdsBack, awake]) trivial
      simp only [System.step, phase, System.wake] at stuck
      simp only [System.awaited, phase, Bool.or_eq_true] at needed
      split_ifs at stuck with stopping requested occupied
      rcases needed with (needed | needed) | needed
      · exact stopping needed
      · exact requested needed
      · exact occupied needed
  | resetting =>
      have stuck := refused .reset rfl trivial
      simp only [System.step, phase] at stuck
      cases stuck
  | rateLimited =>
      have stuck := refused .elapsed rfl trivial
      simp only [System.step, phase] at stuck
      split_ifs at stuck
  | rendering handed =>
      obtain ⟨input⟩ := ‹Nonempty Input›
      have stuck := refused (.render input) rfl trivial
      simp only [System.step, phase] at stuck
      cases stuck
  | rendered stats =>
      have stuck := refused .finish rfl trivial
      simp only [System.step, phase] at stuck
      cases stuck
  | exited => exact Or.inr rfl

theorem isIdle_of_awaited (consistent : threads.system.Consistent)
    (sleeping : threads.system.phase = .waiting) (nothing : threads.system.awaited = false) :
    threads.system.presenter.running = true ∧ threads.system.presenter.stopping = false ∧
      threads.system.presenter.isIdle = true := by
  simp only [System.awaited, sleeping, Bool.or_eq_false_iff] at nothing
  have active := consistent.active
  rw [sleeping] at active
  refine ⟨consistent.running_of_present (by rw [sleeping]; rfl), nothing.1.1, ?_⟩
  rw [Presenter.isIdle, nothing.1.2, nothing.2, active]
  rfl

/-- A `shutdown` that waits for the worker gets on. -/
theorem outside_of_atRest (alerted : threads.Alerted)
    (rest : AtRest (step calls) Turn.IsInternal threads)
    (worker : (threads.system.phase = .waiting ∧ threads.system.awaited = false) ∨
      threads.system.phase = .exited) : threads.system.shuttingDown = false := by
  by_contra asked
  rw [Bool.not_eq_false] at asked
  rcases worker with ⟨sleeping, nothing⟩ | gone
  · obtain ⟨running, going, -⟩ := isIdle_of_awaited alerted.consistent sleeping nothing
    exact absurd ((alerted.consistent.leaving asked running).1.symm.trans going) (by decide)
  · have stuck := rest (.region .joined) trivial
    simp only [step, holdsBack, Bool.false_eq_true, if_false, Option.map_eq_none_iff, System.step,
      gone, asked, if_true] at stuck
    cases stuck

theorem rests_of_atRest [Nonempty Input] (alerted : threads.Alerted)
    (rest : AtRest (step calls) Turn.IsInternal threads) : threads.Rests := by
  have paid : threads.ready.owed = 0 := by
    by_contra owed
    have stuck := rest .alert trivial
    simp only [step, owed, if_false] at stuck
    cases stuck
  have signalled : threads.idle.owed = 0 := by
    by_contra owed
    have stuck := rest .signal trivial
    simp only [step, owed, if_false] at stuck
    cases stuck
  have worker := worker_of_atRest alerted rest paid
  have outside := outside_of_atRest alerted rest worker
  have blocked : threads.system.waiters = threads.idle.blocked := by
    by_contra different
    have more : threads.idle.blocked < threads.system.waiters :=
      Nat.lt_of_le_of_ne alerted.waiters (Ne.symm different)
    have stuck := rest (.region .endWait) trivial
    have free : threads.holdsBack (.endWait : Label Input) = false := by
      simp [holdsBack, more]
    simp only [step, free, Bool.false_eq_true, if_false, Option.map_eq_none_iff, System.step]
      at stuck
    split_ifs at stuck
    omega
  refine ⟨?_, paid, signalled, outside, blocked, ?_, ?_⟩
  · by_contra some
    obtain ⟨metadata, others, split⟩ := List.exists_cons_of_ne_nil some
    have stuck := rest (.region (.emitDropped 0)) trivial
    simp only [step, holdsBack, Bool.false_eq_true, if_false, Option.map_eq_none_iff, System.step,
      split, List.getElem?_cons_zero] at stuck
    cases stuck
  · rcases worker with ⟨sleeping, nothing⟩ | gone
    · left
      refine ⟨sleeping, ?_, isIdle_of_awaited alerted.consistent sleeping nothing⟩
      by_contra awake
      have stuck := rest .sleep trivial
      have empty := Nat.eq_zero_of_not_pos awake
      simp [step, Phase.sleeps, sleeping, empty, nothing] at stuck
    · exact Or.inr gone
  · intro idle
    rw [blocked]
    by_contra waits
    refine alerted.idle.refutes signalled (Nat.pos_of_ne_zero waits) ⟨idle, ?_, outside⟩
    rcases worker with ⟨sleeping, -⟩ | gone
    · rw [sleeping]
      rfl
    · rw [gone]
      rfl

/-- In these states no thread can go on. -/
theorem Rests.atRest (rests : threads.Rests) : AtRest (step calls) Turn.IsInternal threads := by
  have elsewhere : ∀ phase : Phase, (phase.sleeps = false ∨ phase = .rateLimited) →
      phase ≠ .exited → threads.system.phase ≠ phase := by
    rintro phase other present same
    rcases rests.worker with ⟨sleeping, -⟩ | gone
    · rw [← same, sleeping] at other
      rcases other with other | other <;> cases other
    · exact present (same.symm.trans gone)
  intro turn internal
  cases turn with
  | region label =>
      have stuck : threads.holdsBack label = true ∨
          System.step calls label threads.system = none := by
        cases label with
        | emitDropped position => exact Or.inr (by simp [System.step, rests.emitted])
        | endWait => exact Or.inl (by simp [holdsBack, rests.blocked])
        | joined =>
            right
            simp only [System.step, rests.outside, Bool.false_eq_true, if_false]
            split <;> rfl
        | wake =>
            rcases rests.worker with ⟨-, blocked, -⟩ | gone
            · exact Or.inl (by simp [holdsBack, blocked])
            · exact Or.inr (by simp [System.step, gone])
        | elapsed =>
            right
            simp only [System.step]
            split
            · rename_i limited
              exact absurd limited (elsewhere _ (Or.inr rfl) (by simp))
            · rfl
        | reset =>
            right
            simp only [System.step]
            split
            · rename_i resetting
              exact absurd resetting (elsewhere _ (Or.inl rfl) (by simp))
            · rfl
        | render input =>
            right
            simp only [System.step]
            split
            · rename_i handed rendering
              exact absurd rendering (elsewhere _ (Or.inl rfl) (by simp))
            · rfl
        | finish =>
            right
            simp only [System.step]
            split
            · rename_i stats rendered
              exact absurd rendered (elsewhere _ (Or.inl rfl) (by simp))
            · rfl
        | submit heap submission => cases internal
        | invalidate => cases internal
        | waitUntilIdle fromWorker timeout => cases internal
        | shutdown => cases internal
        | shutdownFromWorker => cases internal
      rcases stuck with held | none
      · simp [step, held]
      · simp [step, none]
  | sleep =>
      rcases rests.worker with ⟨-, blocked, -⟩ | gone
      · simp [step, Nat.pos_iff_ne_zero.mp blocked]
      · simp [step, gone, Phase.sleeps]
  | alert => simp [step, rests.alerted]
  | block => simp [step, rests.blocked]
  | stir => cases internal
  | expire => cases internal
  | signal => simp [step, rests.signalled]

/-! ### Without further calls -/

/-- Open for submissions, and nobody is shutting it down. -/
def Open (threads : Threads Device) : Prop :=
  threads.system.presenter.running = true ∧ threads.system.presenter.stopping = false ∧
    threads.system.shuttingDown = false

/-- A `shutdown` is under way, or the Presenter does not run. -/
def Closing (threads : Threads Device) : Prop :=
  threads.system.shuttingDown = true ∨ threads.system.presenter.running = false

/-- Nothing has been accepted meanwhile. -/
def Unsubmitted (newer : List Entry) : Prop :=
  ∀ submission, .accepted submission ∉ newer

/-- What the threads do by themselves to the flags and to the log. -/
theorem flags_of_internal (taken : step calls turn threads = some next)
    (internal : turn.IsInternal) :
    (threads.Open → next.Open) ∧ (threads.Closing → next.Closing) ∧
      ∃ newer, next.system.log = newer ++ threads.system.log ∧ Unsubmitted newer := by
  have nothing : Unsubmitted [] := fun _ => List.not_mem_nil
  cases turn with
  | region label =>
      obtain ⟨-, moved, -, -⟩ := region_of_step taken
      obtain ⟨system, ready, idle⟩ := next
      have move := System.move_of_step label moved
      unfold Open Closing
      change (_ → system.presenter.running = true ∧ system.presenter.stopping = false ∧
        system.shuttingDown = false) ∧
        (_ → system.shuttingDown = true ∨ system.presenter.running = false) ∧
        ∃ newer, system.log = newer ++ threads.system.log ∧ Unsubmitted newer
      cases move with
      | accepted entered accepted => cases internal
      | interrupted failed interrupted => cases internal
      | noted noted =>
          obtain ⟨rejected, status, rfl⟩ := noted
          exact ⟨id, id, [], rfl, nothing⟩
      | emitted found => exact ⟨id, id, [], rfl, nothing⟩
      | invalidated running going => cases internal
      | waits running going => cases internal
      | drained => exact ⟨id, id, [_], rfl, by simp [Unsubmitted]⟩
      | refusedShutdown inside => cases internal
      | cancelled outside running occupied => cases internal
      | stopped outside running none => cases internal
      | stoppedAgain outside gone => cases internal
      | joined exited asked =>
          refine ⟨fun alone => ?_, fun _ => Or.inr rfl, [], rfl, nothing⟩
          exact absurd (asked.symm.trans alone.2.2) (by decide)
      | exited sleeping stopping => exact ⟨id, id, [], rfl, nothing⟩
      | resetStarted sleeping going requested =>
          exact ⟨id, id, [_], rfl, by simp [Unsubmitted]⟩
      | limited sleeping going fresh occupied => exact ⟨id, id, [], rfl, nothing⟩
      | handed sleeping going fresh occupied =>
          exact ⟨id, id, [_], rfl, by simp [Unsubmitted]⟩
      | handedLate sleeping going =>
          exact ⟨id, id, [_], rfl, by simp [Unsubmitted]⟩
      | reset resetting =>
          exact ⟨id, id, [_], rfl, by simp [Unsubmitted]⟩
      | rendered rendering => exact ⟨id, id, [], rfl, nothing⟩
      | finished rendered =>
          rw [Presenter.finish_eq]
          exact ⟨id, id, [_], rfl, by simp [Unsubmitted]⟩
  | stir => cases internal
  | expire => cases internal
  | sleep =>
      unfold Open Closing
      rw [system_of_hidden taken rfl]
      exact ⟨id, id, [], rfl, nothing⟩
  | alert =>
      unfold Open Closing
      rw [system_of_hidden taken rfl]
      exact ⟨id, id, [], rfl, nothing⟩
  | block =>
      unfold Open Closing
      rw [system_of_hidden taken rfl]
      exact ⟨id, id, [], rfl, nothing⟩
  | signal =>
      unfold Open Closing
      rw [system_of_hidden taken rfl]
      exact ⟨id, id, [], rfl, nothing⟩

theorem open_of_internal {now : Threads Device} (alone : now.Open)
    (inside : ∀ turn ∈ internal, turn.IsInternal)
    (run : Run (step calls) now internal final) : final.Open := by
  apply run.invariant_of_labels _ inside alone
  exact fun _ _ _ taken internal => (flags_of_internal taken internal).1

theorem closing_of_internal {now : Threads Device} (closing : now.Closing)
    (inside : ∀ turn ∈ internal, turn.IsInternal)
    (run : Run (step calls) now internal final) : final.Closing := by
  apply run.invariant_of_labels _ inside closing
  exact fun _ _ _ taken internal => (flags_of_internal taken internal).2.1

/-- An open Presenter is idle when it rests, and has let its callers go. -/
theorem Rests.idle (rests : final.Rests) (alerted : final.Alerted) (alone : final.Open) :
    final.system.phase = .waiting ∧ final.system.presenter.isIdle = true ∧
      final.system.waiters = 0 := by
  rcases rests.worker with ⟨sleeping, -, -, -, idle⟩ | gone
  · exact ⟨sleeping, idle, rests.free idle⟩
  · have stopping := alerted.consistent.exited (by rw [gone]; rfl) alone.1
    exact absurd (stopping.symm.trans alone.2.1) (by decide)

/-- A Presenter that is shut down has stopped when it rests, and has let its callers go. -/
theorem Rests.stopped (rests : final.Rests) (alerted : final.Alerted) (closing : final.Closing) :
    final.system.presenter.running = false ∧ final.system.waiters = 0 := by
  have gone : final.system.presenter.running = false := by
    rcases closing with asked | gone
    · exact absurd (asked.symm.trans rests.outside) (by decide)
    · exact gone
  obtain ⟨exited, empty⟩ := alerted.consistent.running gone
  have active : final.system.presenter.renderingActive = false := by
    rw [alerted.consistent.active]
    cases phase : final.system.phase <;> rw [phase] at exited <;> first
      | rfl
      | cases exited
  refine ⟨gone, rests.free ?_⟩
  rw [Presenter.isIdle, empty, active, alerted.settled gone]
  rfl

variable {system : System Device} {now : Threads Device}

/-- From every reachable state, whatever the threads do without new calls ends after at most
`rank` steps, and some way of going on ends. It ends exactly where the worker sleeps with nothing
to do or is gone, no notification or event is left over and nobody waits for what is true: an open
Presenter is then idle, and a Presenter that was being shut down has stopped. -/
theorem comes_to_rest [Nonempty Input] (started : System.Started system)
    (run : Run (step calls) { system := system } turns now) :
    (∃ internal final, (∀ turn ∈ internal, turn.IsInternal) ∧
        Run (step calls) now internal final ∧ AtRest (step calls) Turn.IsInternal final) ∧
      ∀ internal final, (∀ turn ∈ internal, turn.IsInternal) →
        Run (step calls) now internal final →
          internal.length ≤ now.rank ∧
            (AtRest (step calls) Turn.IsInternal final ↔ final.Rests) ∧
            (final.Rests →
              (now.Open → final.system.phase = .waiting ∧
                final.system.presenter.isIdle = true ∧ final.system.waiters = 0) ∧
              (now.Closing → final.system.presenter.running = false ∧
                final.system.waiters = 0)) := by
  have alerted := alerted_of_run started run
  refine ⟨settles.exists_atRest alerted, ?_⟩
  intro internal final inside later
  have kept : final.Alerted := later.invariant (fun _ _ _ taken => alerted_step taken) alerted
  refine ⟨settles.length_le later inside alerted, ⟨rests_of_atRest kept, Rests.atRest⟩, ?_⟩
  intro rests
  exact ⟨fun alone => rests.idle kept (open_of_internal alone inside later),
    fun closing => rests.stopped kept (closing_of_internal closing inside later)⟩

theorem comes_to_rest_frameUnnoticed :
    afterFrameUnnoticed.Open ∧
      ∃ internal final, Run (step System.presenting) afterFrameUnnoticed internal final ∧
        final.system.presenter.isIdle = true ∧ final.system.waiters = 0 := by
  have run : Run (step System.presenting) { system := System.fresh } frameUnnoticed
      afterFrameUnnoticed := run_iff_exec.mpr (Option.some_get _).symm
  have alone : afterFrameUnnoticed.Open := by
    unfold Open
    decide +kernel
  obtain ⟨⟨internal, final, inside, later, rest⟩, ends⟩ := comes_to_rest System.started_fresh run
  obtain ⟨-, settled, left⟩ := ends internal final inside later
  exact ⟨alone, internal, final, later, ((left (settled.mp rest)).1 alone).2⟩

/-! ### The newest frame reaches the screen -/

end Threads

end Rasterm
