import Rasterm.Output.Reporting

/-!
Contract: what an operation returns is the conjunction of the first attempts it made.

Owns, for every operation inside an update, that it succeeds exactly when every
write and flush it made was accepted at the first attempt, and that a recorded
error is an output error.
-/

set_option autoImplicit false

namespace Rasterm

/-- Accepted at the first attempt; a second attempt does not count. -/
def SinkCall.firstAttempt : SinkCall → Bool
  | write .retry _ _ => true
  | write _ _ accepted => accepted
  | flush .retry _ => true
  | flush _ succeeded => succeeded

/-- The errors a sink can cause. -/
def ErrorCode.IsOutputFailure (error : ErrorCode) : Prop :=
  error = .outputWriteFailed ∨ error = .outputFlushFailed

namespace TerminalRenderer

/-- Only output errors have been recorded. -/
def KnownError (terminal : TerminalRenderer) : Prop :=
  terminal.lastError = .none ∨ terminal.lastError.IsOutputFailure

/-- The calls between two states, and the result as the conjunction of their first
attempts. -/
structure Attempts (before after : TerminalRenderer) (succeeded : Bool) : Prop where
  calls : ∃ added, after.sink.calls = before.sink.calls ++ added ∧
    (succeeded = true ↔ ∀ call ∈ added, call.firstAttempt = true)
  known : before.KnownError → after.KnownError

namespace Attempts

theorem refl (terminal : TerminalRenderer) : Attempts terminal terminal true := by
  refine ⟨⟨[], (List.append_nil _).symm, ?_⟩, fun known => known⟩
  simp

/-- The result of two operations in a row. -/
theorem trans {first second third : TerminalRenderer} {left right : Bool}
    (head : Attempts first second left) (tail : Attempts second third right) :
    Attempts first third (right && left) := by
  rcases head.calls with ⟨earlier, grownEarlier, leftIff⟩
  rcases tail.calls with ⟨later, grownLater, rightIff⟩
  refine ⟨⟨earlier ++ later, ?_, ?_⟩, fun known => tail.known (head.known known)⟩
  · rw [grownLater, grownEarlier, List.append_assoc]
  · rw [Bool.and_eq_true, leftIff, rightIff]
    constructor
    · rintro ⟨second, first⟩ call member
      rcases List.mem_append.mp member with before | after
      · exact first call before
      · exact second call after
    · intro all
      constructor
      · intro call member
        exact all call (List.mem_append_right _ member)
      · intro call member
        exact all call (List.mem_append_left _ member)

theorem length_le {before after : TerminalRenderer} {succeeded : Bool}
    (attempts : Attempts before after succeeded) :
    before.sink.calls.length ≤ after.sink.calls.length := by
  rcases attempts.calls with ⟨added, grown, -⟩
  rw [grown, List.length_append]
  exact Nat.le_add_right _ _

/-- A result that is the same truth value. -/
theorem congr {before after : TerminalRenderer} {succeeded other : Bool}
    (attempts : Attempts before after succeeded) (same : other = succeeded) :
    Attempts before after other :=
  same ▸ attempts

end Attempts

/-- The sequel of a failure does not make up for it. -/
private theorem attempts_failed {first second third : TerminalRenderer} {right : Bool}
    (head : Attempts first second false) (tail : Attempts second third right) :
    Attempts first third false := by
  apply (head.trans tail).congr
  rw [Bool.and_false]

variable (terminal : TerminalRenderer)

theorem knownError_firstError (known : terminal.KnownError) {error : ErrorCode}
    (output : error.IsOutputFailure) :
    terminal.firstError error = .none ∨ (terminal.firstError error).IsOutputFailure := by
  unfold firstError
  split_ifs
  · exact Or.inr output
  · exact known

theorem attempts_write (bytes : List UInt8) :
    Attempts terminal (terminal.write bytes).1 (terminal.write bytes).2 := by
  simp only [write]
  split_ifs with accepted
  · refine ⟨⟨_, rfl, ?_⟩, fun known => known⟩
    simp only [OutputSink.write] at accepted
    simp [SinkCall.firstAttempt, accepted]
  · refine ⟨⟨_, rfl, ?_⟩, fun _ => Or.inr (Or.inl rfl)⟩
    simp only [OutputSink.write, Bool.not_eq_true] at accepted
    simp [SinkCall.firstAttempt, accepted]

theorem attempts_recoveryWrite (bytes : List UInt8) :
    Attempts terminal (terminal.recoveryWrite bytes).1 (terminal.recoveryWrite bytes).2 := by
  simp only [recoveryWrite]
  split_ifs with accepted
  · refine ⟨⟨_, rfl, ?_⟩, fun known => known⟩
    simp only [OutputSink.write] at accepted
    simp [SinkCall.firstAttempt, accepted]
  · refine ⟨⟨[.write .recovery bytes (terminal.sink.write .recovery bytes).2,
      .write .retry bytes ((terminal.sink.write .recovery bytes).1.write .retry bytes).2], ?_, ?_⟩,
      fun known => terminal.knownError_firstError known (Or.inl rfl)⟩
    · simp [OutputSink.write]
    · simp [SinkCall.firstAttempt, accepted]

theorem attempts_flush : Attempts terminal terminal.flush.1 terminal.flush.2 := by
  simp only [flush]
  split_ifs with done
  · refine ⟨⟨_, rfl, ?_⟩, fun known => known⟩
    simp only [OutputSink.flush] at done
    simp [SinkCall.firstAttempt, done]
  · refine ⟨⟨_, rfl, ?_⟩, fun _ => Or.inr (Or.inr rfl)⟩
    simp only [OutputSink.flush, Bool.not_eq_true] at done
    simp [SinkCall.firstAttempt, done]

theorem attempts_recoveryFlush :
    Attempts terminal terminal.recoveryFlush.1 terminal.recoveryFlush.2 := by
  simp only [recoveryFlush]
  split_ifs with done
  · refine ⟨⟨_, rfl, ?_⟩, fun known => known⟩
    simp only [OutputSink.flush] at done
    simp [SinkCall.firstAttempt, done]
  · refine ⟨⟨[.flush .recovery (terminal.sink.flush .recovery).2,
      .flush .retry ((terminal.sink.flush .recovery).1.flush .retry).2], ?_, ?_⟩,
      fun known => terminal.knownError_firstError known (Or.inr rfl)⟩
    · simp [OutputSink.flush]
    · simp [SinkCall.firstAttempt, done]

theorem attempts_flushOutsideUpdate :
    Attempts terminal terminal.flushOutsideUpdate.1 terminal.flushOutsideUpdate.2 := by
  unfold flushOutsideUpdate
  split_ifs
  · exact Attempts.refl terminal
  · exact terminal.attempts_flush

theorem attempts_saveLocally (locally : Bool) :
    Attempts terminal (terminal.saveLocally locally).1 (terminal.saveLocally locally).2 := by
  cases locally with
  | true => exact terminal.attempts_write _
  | false => exact Attempts.refl terminal

theorem attempts_recover (needed : Bool) (bytes : List UInt8) :
    Attempts terminal (terminal.recover needed bytes).1 (terminal.recover needed bytes).2 := by
  cases needed with
  | true => exact terminal.attempts_recoveryWrite bytes
  | false => exact Attempts.refl terminal

theorem attempts_writeChunksFrom (bytes : List UInt8) (chunkBytes fuel offset : Nat) :
    Attempts terminal (writeChunksFrom bytes chunkBytes fuel terminal offset).1
      (writeChunksFrom bytes chunkBytes fuel terminal offset).2 := by
  induction fuel generalizing terminal offset with
  | zero => exact Attempts.refl terminal
  | succ fuel inductionHypothesis =>
      simp only [writeChunksFrom]
      have first := terminal.attempts_write ((bytes.drop offset).take chunkBytes)
      split_ifs with inside accepted later
      · apply (first.trans (inductionHypothesis _ _)).congr
        rw [accepted, Bool.and_true]
      · rw [Bool.not_eq_true] at accepted
        rw [accepted] at first
        exact attempts_failed first (attempts_recoveryWrite _ _)
      · rw [Bool.not_eq_true] at accepted
        rw [accepted] at first
        exact first
      · exact Attempts.refl terminal

theorem attempts_writeChunks (bytes : List UInt8) (chunkBytes : Nat) :
    Attempts terminal (terminal.writeChunks bytes chunkBytes).1
      (terminal.writeChunks bytes chunkBytes).2 := by
  unfold writeChunks
  split_ifs
  · exact terminal.attempts_write bytes
  · exact terminal.attempts_writeChunksFrom bytes chunkBytes _ _

theorem attempts_clearAndHome :
    Attempts terminal terminal.clearAndHome.1 terminal.clearAndHome.2 := by
  exact (terminal.attempts_write _).trans (attempts_flushOutsideUpdate _)

theorem attempts_drawAtHome (sixel : List UInt8) (restoreCursor : Bool) (chunkBytes : Nat) :
    Attempts terminal (terminal.drawAtHome sixel restoreCursor chunkBytes).1
      (terminal.drawAtHome sixel restoreCursor chunkBytes).2 := by
  apply (((((((terminal.attempts_saveLocally _).trans (attempts_write _ _)).trans
    (attempts_write _ _)).trans (attempts_writeChunks _ _ _)).trans
    (attempts_recoveryWrite _ _)).trans (attempts_recover _ _ _)).trans
    (attempts_flushOutsideUpdate _)).congr
  simp only [drawAtHome, ← Bool.and_assoc]

theorem attempts_drawAtCell (row column : Nat) (sixel : List UInt8) (restoreCursor : Bool)
    (chunkBytes : Nat) :
    Attempts terminal (terminal.drawAtCell row column sixel restoreCursor chunkBytes).1
      (terminal.drawAtCell row column sixel restoreCursor chunkBytes).2 := by
  apply (((((terminal.attempts_saveLocally _).trans (attempts_write _ _)).trans
    (attempts_writeChunks _ _ _)).trans (attempts_recover _ _ _)).trans
    (attempts_flushOutsideUpdate _)).congr
  simp only [drawAtCell, ← Bool.and_assoc]

/-! ### Updates -/

theorem attempts_synchronize (wanted : Bool) :
    Attempts terminal (terminal.synchronize wanted).1 (terminal.synchronize wanted).2 := by
  cases wanted with
  | true =>
      have sent := terminal.attempts_write (ascii "\x1b[?2026h")
      exact ⟨sent.calls, sent.known⟩
  | false => exact Attempts.refl terminal

theorem attempts_saveCursor (wanted : Bool) :
    Attempts terminal (terminal.saveCursor wanted).1 (terminal.saveCursor wanted).2 := by
  cases wanted with
  | true =>
      have sent := terminal.attempts_write saveCursorBytes
      exact ⟨sent.calls, sent.known⟩
  | false => exact Attempts.refl terminal

/-- An update opens on a renderer that has none. -/
theorem attempts_beginSynchronizedUpdate (closed : terminal.updateActive = false)
    (preserveCursor synchronizedOutput : Bool) :
    let begun := terminal.beginSynchronizedUpdate preserveCursor synchronizedOutput
    Attempts terminal begun.1 begun.2 ∧ begun.1.KnownError ∧ begun.1.updateActive = true := by
  intro begun
  have all := (terminal.openUpdate.attempts_synchronize synchronizedOutput).trans
    (attempts_saveCursor _ preserveCursor)
  have active : ((terminal.openUpdate.synchronize synchronizedOutput).1.saveCursor
      preserveCursor).1.updateActive = true := by
    cases synchronizedOutput <;> cases preserveCursor <;>
      simp only [synchronize, saveCursor, write, Bool.false_eq_true, if_false, if_true] <;>
      first
        | rfl
        | split_ifs <;> rfl
  have opened : begun =
      (((terminal.openUpdate.synchronize synchronizedOutput).1.saveCursor preserveCursor).1,
        ((terminal.openUpdate.synchronize synchronizedOutput).1.saveCursor preserveCursor).2 &&
          (terminal.openUpdate.synchronize synchronizedOutput).2) := by
    apply if_neg
    rw [closed]
    exact Bool.false_ne_true
  rw [opened]
  have clean : terminal.openUpdate.KnownError := Or.inl rfl
  exact ⟨⟨all.calls, fun _ => all.known clean⟩, all.known clean, active⟩

theorem attempts_endSynchronizedUpdate (active : terminal.updateActive = true) :
    Attempts terminal terminal.endSynchronizedUpdate.1 terminal.endSynchronizedUpdate.2 := by
  unfold endSynchronizedUpdate
  rw [active, Bool.not_true, if_neg Bool.false_ne_true]
  have all := ((terminal.attempts_recover terminal.restoreCursorAfterUpdate
    restoreCursorBytes).trans (attempts_recover _ terminal.synchronizedUpdateActive
      (ascii "\x1b[?2026l"))).trans (attempts_recoveryFlush _)
  rw [← Bool.and_assoc] at all
  exact ⟨all.calls, all.known⟩

/-- Closing an update flushes. -/
theorem calls_endSynchronizedUpdate (active : terminal.updateActive = true) :
    terminal.sink.calls.length < terminal.endSynchronizedUpdate.1.sink.calls.length := by
  have flushes : ∀ before : TerminalRenderer,
      before.sink.calls.length < before.recoveryFlush.1.sink.calls.length := by
    intro before
    simp only [recoveryFlush]
    split_ifs <;> simp [OutputSink.flush]
  unfold endSynchronizedUpdate
  rw [active, Bool.not_true, if_neg Bool.false_ne_true]
  have restored := (terminal.keeps_recover terminal.restoreCursorAfterUpdate
    restoreCursorBytes).calls.length_le
  have ended := (keeps_recover (terminal.recover terminal.restoreCursorAfterUpdate
    restoreCursorBytes).1 terminal.synchronizedUpdateActive (ascii "\x1b[?2026l")).calls.length_le
  exact (restored.trans ended).trans_lt (flushes _)

end TerminalRenderer

end Rasterm
