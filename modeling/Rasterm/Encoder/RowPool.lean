import Mathlib.Algebra.BigOperators.Group.Finset.Basic
import Rasterm.Encoder.Schedule

/-!
Contract: each run of the `EncoderParallelExecutor` calls its row function once for
every row, returns after the last of these calls, and does return.

Owns the measure that every step of a thread in a run lowers, and that some thread can
go on as long as the run has not returned.

Does not own which thread goes on.
-/

set_option autoImplicit false

universe u

namespace Rasterm

open History Tickets

variable {Job : Type u}

namespace EncoderParallelExecutor

variable {created : Nat} {executor next : EncoderParallelExecutor Job created} {call : Call Job}

/-! ### Progress -/

/-- The steps a thread has before it for the row it holds, and to sign off. -/
def effort (executor : EncoderParallelExecutor Job created) (thread : Option (Fin created)) : Nat :=
  match executor.places thread with
  | .outside => if executor.joined thread then 0 else 1
  | .holding _ _ => 2
  | .running _ _ | .left => 1
  | _ => 0

/-- More than the steps a run has before it. -/
def ahead (executor : EncoderParallelExecutor Job created) : Nat :=
  match currentCall executor.log with
  | none => 0
  | some call =>
      1 +
        if created = 0 then
          match executor.places none with
          | .looping task row => 2 * (task.rows - row).toNat
          | .running task row => 2 * (task.rows - (row + 1)).toNat + 1
          | _ => 0
        else
          3 * (max 0 call.rows + (created + 1) - executor.nextRow).toNat +
            ∑ thread, executor.effort thread

theorem ahead_pos (current : currentCall executor.log = some call) : 0 < executor.ahead := by
  rw [ahead, current]
  exact Nat.lt_of_lt_of_le Nat.one_pos (Nat.le_add_right 1 _)

theorem Resting.ahead_eq (resting : executor.Resting) : executor.ahead = 0 := by
  rw [ahead, resting.current]

theorem Parallel.ahead_eq (parallel : executor.Parallel call) :
    executor.ahead = 1 + (3 * (max 0 call.rows + (created + 1) - executor.nextRow).toNat +
      ∑ thread, executor.effort thread) := by
  rw [ahead, parallel.current]
  dsimp only
  rw [if_neg parallel.populated.2]

/-- When one thread changes, the sum changes with it. -/
private theorem sum_effort (thread : Option (Fin created)) {after : EncoderParallelExecutor Job created}
    (others : ∀ other, other ≠ thread → after.effort other = executor.effort other) :
    ∑ other, after.effort other + executor.effort thread =
      ∑ other, executor.effort other + after.effort thread := by
  rw [← Finset.add_sum_erase Finset.univ after.effort (Finset.mem_univ thread),
    ← Finset.add_sum_erase Finset.univ executor.effort (Finset.mem_univ thread)]
  have rest : ∑ other ∈ Finset.univ.erase thread, after.effort other =
      ∑ other ∈ Finset.univ.erase thread, executor.effort other :=
    Finset.sum_congr rfl fun other member => others other (Finset.ne_of_mem_erase member)
  rw [rest]
  omega

/-- The counter does not pass more than the rows and the threads. -/
theorem Parallel.nextRow_le (parallel : executor.Parallel call) :
    executor.nextRow ≤ max 0 call.rows + (created + 1) := by
  have bound := parallel.drawn.counter_le
  have threads := howMany_le fun thread => (executor.stages thread).past call.rows
  rw [Fintype.card_option, Fintype.card_fin] at threads
  omega

theorem effort_of_ne {thread other : Option (Fin created)} {place : Place Job}
    (different : other ≠ thread) :
    (executor.move thread place).effort other = executor.effort other := by
  rw [effort, effort, move_places_of_ne _ different]
  rfl

/-- A thread that goes to a place with less effort before it. -/
theorem Parallel.ahead_lt (parallel : executor.Parallel call) {thread : Option (Fin created)}
    {after : Call Job} (goes : next.Parallel after) (rows : after.rows = call.rows)
    (others : ∀ other, other ≠ thread → next.effort other = executor.effort other)
    (moved : next.nextRow = executor.nextRow ∧ next.effort thread < executor.effort thread ∨
      next.nextRow = executor.nextRow + 1 ∧ next.effort thread < executor.effort thread + 3) :
    next.ahead < executor.ahead := by
  have sums := sum_effort thread others
  have bound := goes.nextRow_le
  rw [rows] at bound
  rw [parallel.ahead_eq, goes.ahead_eq, rows]
  rcases moved with ⟨same, lower⟩ | ⟨counted, lower⟩
  · rw [same]
    omega
  · rw [counted] at bound ⊢
    omega

/-- Every step of a thread in a run brings the run closer to its end. -/
theorem Parallel.advance_ahead (parallel : executor.Parallel call)
    {thread : Option (Fin created)} (taken : executor.advance thread = some next) :
    next.ahead < executor.ahead := by
  have serves := parallel.serves thread
  by_cases outside : executor.places thread = .outside
  · obtain ⟨worker, rfl, unseen, rfl⟩ := parallel.joins_of_outside outside taken
    apply parallel.ahead_lt (parallel.join outside unseen) rfl _ (Or.inl ⟨rfl, _⟩)
    · exact some worker
    · intro other different
      rw [effort, effort, joined_join, move_places_of_ne _ different,
        Function.update_of_ne different]
    · rw [effort, effort, move_places_self, outside, unseen]
      exact Nat.one_pos
  unfold advance at taken
  cases place : executor.places thread with
  | outside => exact absurd place outside
  | looping task row =>
      rw [place] at serves
      exact serves.elim
  | taking task =>
      rw [place] at taken
      cases taken
      have free : executor.stages thread = .free := by rw [stages, place]; rfl
      have goes := parallel.take place
      have counted := parallel.wrapInt_nextRow free
      apply parallel.ahead_lt goes rfl (fun other different => effort_of_ne different)
        (Or.inr ⟨counted, _⟩)
      rw [effort, effort, move_places_self, place]
      exact Nat.lt_succ_self 2
  | holding task row =>
      rw [place] at taken serves
      dsimp only at taken
      split_ifs at taken with beyond
      · cases taken
        apply parallel.ahead_lt (parallel.pass place beyond) rfl
          (fun other different => effort_of_ne different) (Or.inl ⟨rfl, _⟩)
        rw [effort, effort, move_places_self, place]
        exact Nat.lt_succ_self 1
      · cases taken
        apply parallel.ahead_lt (parallel.invoke place (lt_of_not_ge beyond)) rfl
          (fun other different => effort_of_ne different) (Or.inl ⟨rfl, _⟩)
        rw [effort, effort, move_places_self, place]
        exact Nat.lt_succ_self 1
  | running task row =>
      rw [place] at taken
      dsimp only at taken
      rw [parallel.populated.1, if_neg parallel.populated.2] at taken
      cases taken
      apply parallel.ahead_lt (parallel.complete place) rfl
        (fun other different => effort_of_ne different) (Or.inl ⟨rfl, _⟩)
      rw [effort, effort, move_places_self, place]
      exact Nat.lt_succ_self 0
  | left =>
      rw [place] at taken
      cases thread with
      | none =>
          dsimp only [leave] at taken
          split_ifs at taken with nobody
          cases taken
          rw [(parallel.returns place nobody).2.ahead_eq]
          exact ahead_pos parallel.current
      | some worker =>
          cases taken
          apply parallel.ahead_lt (parallel.signOff place) rfl
            (fun other different => effort_of_ne different) (Or.inl ⟨rfl, _⟩)
          rw [effort, effort, move_places_self, place]
          change (if executor.joined (some worker) = true then 0 else 1) < 1
          rw [if_pos (parallel.joined_of_left place)]
          exact Nat.one_pos
  | gone =>
      rw [place] at serves
      exact serves.elim

theorem Serial.ahead_eq (serial : executor.Serial call) :
    executor.ahead = 1 + match executor.places none with
      | .looping task row => 2 * (task.rows - row).toNat
      | .running task row => 2 * (task.rows - (row + 1)).toNat + 1
      | _ => 0 := by
  rw [ahead, serial.current]
  dsimp only
  rw [if_pos serial.alone]

theorem Serial.advance_ahead (serial : executor.Serial call)
    {thread : Option (Fin created)} (taken : executor.advance thread = some next) :
    next.ahead < executor.ahead := by
  have before := serial.ahead_eq
  obtain rfl := serial.eq_none thread
  have nobody := serial.workerCount_eq
  rw [before]
  unfold advance at taken
  rcases serial.drawn with ⟨row, place, -⟩ | ⟨row, place, -⟩
  · rw [place] at taken ⊢
    dsimp only at taken ⊢
    split_ifs at taken with inside
    · cases taken
      have current : currentCall ((executor.note (.invoked (some call.job) row)).move none
          (.running ⟨some call.job, call.rows⟩ row)).log = _ :=
        currentCall_invoked serial.current _ _
      have lower : 2 * (call.rows - (row + 1)).toNat + 1 < 2 * (call.rows - row).toNat := by omega
      rw [ahead, current, move_places_self]
      dsimp only
      rw [if_pos serial.alone]
      exact Nat.add_lt_add_left lower 1
    · cases taken
      have current : currentCall ((executor.note .returned).move none .outside).log = none := rfl
      rw [ahead, current]
      exact Nat.lt_of_lt_of_le Nat.one_pos (Nat.le_add_right 1 _)
  · rw [place] at taken ⊢
    dsimp only at taken ⊢
    rw [if_pos nobody] at taken
    cases taken
    have current : currentCall ((executor.note (.completed (some call.job) row)).move none
        (.looping ⟨some call.job, call.rows⟩ (row + 1))).log = _ :=
      currentCall_completed serial.current _ _
    rw [ahead, current, move_places_self]
    dsimp only
    rw [if_pos serial.alone]
    exact Nat.add_lt_add_left (Nat.lt_succ_self _) 1

/-- In a run, some thread can go on. -/
theorem Parallel.enabled (parallel : executor.Parallel call) :
    ∃ thread, executor.advance thread ≠ none := by
  by_cases caller : executor.advance none = none
  · -- the caller waits for a worker
    have serves := parallel.serves none
    have inside := parallel.caller
    unfold advance at caller
    cases place : executor.places none with
    | left =>
        rw [place] at caller
        dsimp only [leave] at caller
        split_ifs at caller with nobody
        rw [parallel.remaining, howMany_eq_zero_iff, not_forall] at nobody
        obtain ⟨worker, busy⟩ := nobody
        refine ⟨some worker, ?_⟩
        have servesWorker := parallel.serves (some worker)
        unfold advance
        cases held : executor.places (some worker) with
        | outside =>
            have late : executor.generation ≠ executor.observedGeneration worker := by
              intro seen
              apply busy
              rw [unfinished, held, joined, seen, beq_self_eq_true]
              rfl
            change executor.wake worker ≠ none
            rw [wake, if_neg parallel.on, if_neg parallel.not_stopping, if_pos late]
            exact Option.some_ne_none _
        | holding task row =>
            dsimp only
            split_ifs <;> exact Option.some_ne_none _
        | looping task row =>
            rw [held] at servesWorker
            exact servesWorker.elim
        | gone =>
            rw [held] at servesWorker
            exact servesWorker.elim
        | _ => exact Option.some_ne_none _
    | outside =>
        rw [place] at inside
        cases inside
    | holding task row =>
        rw [place] at caller
        dsimp only at caller
        split_ifs at caller
    | looping task row =>
        rw [place] at serves
        exact serves.elim
    | gone =>
        rw [place] at serves
        exact serves.elim
    | _ =>
        rw [place] at caller
        cases caller
  · exact ⟨none, caller⟩

theorem Serial.enabled (serial : executor.Serial call) :
    ∃ thread, executor.advance thread ≠ none := by
  refine ⟨none, ?_⟩
  unfold advance
  rcases serial.drawn with ⟨row, place, -⟩ | ⟨row, place, -⟩
  · rw [place]
    dsimp only
    split_ifs <;> exact Option.some_ne_none _
  · rw [place]
    exact Option.some_ne_none _

/-- A thread takes a step. -/
def Advances : ExecutorLabel Job created → Prop
  | .advance _ => True
  | _ => False

theorem Mode.going (mode : executor.Mode) (current : currentCall executor.log = some call) :
    executor.stopping = false := by
  cases mode with
  | resting resting => exact resting.going
  | parallel call parallel => exact parallel.going
  | serial call serial => exact serial.going
  | stopped stopped =>
      rw [stopped.current] at current
      cases current

theorem stopping_of_advance {thread : Option (Fin created)}
    (taken : executor.advance thread = some next) : next.stopping = executor.stopping := by
  unfold advance at taken
  cases place : executor.places thread with
  | outside =>
      rw [place] at taken
      cases thread with
      | none => cases taken
      | some worker =>
          change executor.wake worker = some next at taken
          unfold wake at taken
          split_ifs at taken <;> cases taken <;> rfl
  | left =>
      rw [place] at taken
      cases thread with
      | none =>
          dsimp only [leave] at taken
          split_ifs at taken
          cases taken
          rfl
      | some worker =>
          cases taken
          rfl
  | gone =>
      rw [place] at taken
      cases taken
  | _ =>
      rw [place] at taken
      dsimp only at taken
      first
        | cases taken; rfl
        | split_ifs at taken <;> cases taken <;> rfl

theorem Mode.advance_ahead (mode : executor.Mode) (going : executor.stopping = false)
    {thread : Option (Fin created)} (taken : executor.advance thread = some next) :
    next.ahead < executor.ahead := by
  cases mode with
  | resting resting =>
      rw [resting.advance_none thread] at taken
      cases taken
  | parallel call parallel => exact parallel.advance_ahead taken
  | serial call serial => exact serial.advance_ahead taken
  | stopped stopped =>
      rw [stopped.stopping] at going
      cases going

/-- While a call is under way, some thread can go on. -/
theorem Mode.enabled (mode : executor.Mode) (current : currentCall executor.log = some call) :
    ∃ thread, executor.advance thread ≠ none := by
  cases mode with
  | resting resting =>
      rw [resting.current] at current
      cases current
  | parallel call parallel => exact parallel.enabled
  | serial call serial => exact serial.enabled
  | stopped stopped =>
      rw [stopped.current] at current
      cases current

/-- In a run of the threads alone, the steps ahead bound the schedule, and where nobody can go
on no call is under way. -/
theorem Mode.returns (mode : executor.Mode) (sound : executor.Sound)
    (current : currentCall executor.log = some call) {labels : List (ExecutorLabel Job created)}
    (run : Transition.Run EncoderParallelExecutor.step executor labels next)
    (advances : ∀ label ∈ labels, Advances label) :
    labels.length ≤ executor.ahead ∧
      ((∀ thread, next.advance thread = none) → currentCall next.log = none) := by
  have preserved : ∀ label (state next : EncoderParallelExecutor Job created),
      EncoderParallelExecutor.step label state = some next → Advances label →
        (state.Sound ∧ state.Mode ∧ state.stopping = false) →
          (next.Sound ∧ next.Mode ∧ next.stopping = false) ∧ next.ahead < state.ahead := by
    rintro label state next taken advances ⟨sound, mode, going⟩
    cases label with
    | run job rows => exact advances.elim
    | destroy => exact advances.elim
    | advance thread =>
        have fits : Fits (.advance thread : ExecutorLabel Job created) := trivial
        obtain ⟨soundNext, modeNext⟩ := mode.step sound fits taken
        exact ⟨⟨soundNext, modeNext, (stopping_of_advance taken).trans going⟩,
          mode.advance_ahead going taken⟩
  have initial : executor.Sound ∧ executor.Mode ∧ executor.stopping = false :=
    ⟨sound, mode, mode.going current⟩
  refine ⟨run.length_le preserved advances initial, ?_⟩
  intro stuck
  have final := run.invariant_of_labels
    (fun label state next taken allowed holds => (preserved label state next taken allowed holds).1)
    advances initial
  by_contra underWay
  obtain ⟨late, lateCurrent⟩ := Option.ne_none_iff_exists'.mp underWay
  obtain ⟨thread, moves⟩ := final.2.1.enabled lateCurrent
  exact moves (stuck thread)

/-- Each run calls its row function for each of its rows once and returns after the last of
these calls, nobody calls the row function of another run, and a run under way returns in
boundedly many steps, whoever takes them. -/
theorem rows_once {labels : List (ExecutorLabel Job created)}
    {start final : EncoderParallelExecutor Job created} (started : start.Started)
    (run : Transition.Run step start labels final)
    (fits : ∀ label ∈ labels, Fits label) :
    Everywhere CalledInTurn final.log ∧ Everywhere InvokedInRun final.log ∧
      Everywhere CompleteAtReturn final.log ∧
      (currentCall final.log ≠ none → ∃ bound, ∀ more after,
        Transition.Run step final more after → (∀ label ∈ more, Advances label) →
          more.length ≤ bound ∧
            ((∀ thread, after.advance thread = none) → currentCall after.log = none)) := by
  obtain ⟨sound, mode⟩ := mode_of_run started run fits
  refine ⟨sound.called, sound.invoked, sound.complete, ?_⟩
  intro underWay
  obtain ⟨call, current⟩ := Option.ne_none_iff_exists'.mp underWay
  exact ⟨final.ahead, fun more after further advances =>
    mode.returns sound current further advances⟩

/-- Two threads share two rows. -/
theorem rows_once_two :
    ∃ final : EncoderParallelExecutor Nat 1,
      (final.log = [.returned, .completed (some 7) 1, .completed (some 7) 0, .invoked (some 7) 1,
        .invoked (some 7) 0, .called 7 2]) ∧ Everywhere CompleteAtReturn final.log := by
  let labels : List (ExecutorLabel Nat 1) :=
    [.run 7 2, .advance none, .advance (some 0), .advance (some 0), .advance none,
      .advance (some 0), .advance none, .advance (some 0), .advance none, .advance none,
      .advance (some 0), .advance (some 0), .advance (some 0), .advance none]
  have ends : (Transition.exec step labels (make 2 1)).map (·.log) =
      some [.returned, .completed (some 7) 1, .completed (some 7) 0, .invoked (some 7) 1,
        .invoked (some 7) 0, .called 7 2] := by
    decide +kernel
  obtain ⟨final, executed, log⟩ := Option.map_eq_some_iff.mp ends
  have fits : ∀ label ∈ labels, Fits label := by
    simp [labels, Fits, intMax]
  exact ⟨final, log, (rows_once (.intro 2 1 (by decide +kernel))
    (Transition.run_iff_exec.mpr executed) fits).2.2.1⟩

end EncoderParallelExecutor

end Rasterm
