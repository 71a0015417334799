import Rasterm.Output.Picture

/-!
Contract: an operation that returns false leaves an error behind.

Owns, for every operation, that a failure is recorded in `lastError` and that a
recorded error stays recorded until the next update opens.
-/

set_option autoImplicit false

namespace Rasterm

namespace TerminalRenderer

/-- A failure is recorded, and what was recorded before stays recorded. -/
structure Reports (before after : TerminalRenderer) (succeeded : Bool) : Prop where
  kept : before.lastError ≠ .none → after.lastError ≠ .none
  reported : succeeded = false → after.lastError ≠ .none

namespace Reports

theorem refl (terminal : TerminalRenderer) : Reports terminal terminal true :=
  ⟨fun recorded => recorded, fun failed => by cases failed⟩

/-- The result of two operations in a row. -/
theorem trans {first second third : TerminalRenderer} {left right : Bool}
    (head : Reports first second left) (tail : Reports second third right) :
    Reports first third (right && left) := by
  refine ⟨fun recorded => tail.kept (head.kept recorded), ?_⟩
  intro failed
  cases right with
  | true => exact tail.kept (head.reported failed)
  | false => exact tail.reported rfl

/-- Later results may be dropped; errors are not. -/
theorem weaken {before after : TerminalRenderer} {succeeded other : Bool}
    (reports : Reports before after succeeded) (implies : other = false → succeeded = false) :
    Reports before after other :=
  ⟨reports.kept, fun failed => reports.reported (implies failed)⟩

end Reports

theorem firstError_ne_none (terminal : TerminalRenderer) {error : ErrorCode}
    (named : error ≠ .none) : terminal.firstError error ≠ .none := by
  unfold firstError
  split_ifs with clean
  · exact named
  · exact clean

variable (terminal : TerminalRenderer)

theorem reports_write (bytes : List UInt8) :
    Reports terminal (terminal.write bytes).1 (terminal.write bytes).2 := by
  have named : ErrorCode.outputWriteFailed ≠ .none := by decide
  simp only [write]
  split_ifs with accepted
  · exact ⟨fun recorded => recorded, fun failed => by cases failed⟩
  · exact ⟨fun _ => named, fun _ => named⟩

theorem reports_recoveryWrite (bytes : List UInt8) :
    Reports terminal (terminal.recoveryWrite bytes).1 (terminal.recoveryWrite bytes).2 := by
  have named := terminal.firstError_ne_none (show ErrorCode.outputWriteFailed ≠ .none by decide)
  simp only [recoveryWrite]
  split_ifs with accepted
  · exact ⟨fun recorded => recorded, fun failed => by cases failed⟩
  · exact ⟨fun _ => named, fun _ => named⟩

theorem reports_flush : Reports terminal terminal.flush.1 terminal.flush.2 := by
  have named : ErrorCode.outputFlushFailed ≠ .none := by decide
  simp only [flush]
  split_ifs with done
  · exact ⟨fun recorded => recorded, fun failed => by cases failed⟩
  · exact ⟨fun _ => named, fun _ => named⟩

theorem reports_recoveryFlush :
    Reports terminal terminal.recoveryFlush.1 terminal.recoveryFlush.2 := by
  have named := terminal.firstError_ne_none (show ErrorCode.outputFlushFailed ≠ .none by decide)
  simp only [recoveryFlush]
  split_ifs with done
  · exact ⟨fun recorded => recorded, fun failed => by cases failed⟩
  · exact ⟨fun _ => named, fun _ => named⟩

theorem reports_flushOutsideUpdate :
    Reports terminal terminal.flushOutsideUpdate.1 terminal.flushOutsideUpdate.2 := by
  unfold flushOutsideUpdate
  split_ifs
  · exact Reports.refl terminal
  · exact terminal.reports_flush

theorem reports_saveLocally (locally : Bool) :
    Reports terminal (terminal.saveLocally locally).1 (terminal.saveLocally locally).2 := by
  cases locally with
  | true => exact terminal.reports_write _
  | false => exact Reports.refl terminal

theorem reports_recover (needed : Bool) (bytes : List UInt8) :
    Reports terminal (terminal.recover needed bytes).1 (terminal.recover needed bytes).2 := by
  cases needed with
  | true => exact terminal.reports_recoveryWrite bytes
  | false => exact Reports.refl terminal

theorem reports_writeChunksFrom (bytes : List UInt8) (chunkBytes fuel offset : Nat) :
    Reports terminal (writeChunksFrom bytes chunkBytes fuel terminal offset).1
      (writeChunksFrom bytes chunkBytes fuel terminal offset).2 := by
  induction fuel generalizing terminal offset with
  | zero => exact Reports.refl terminal
  | succ fuel inductionHypothesis =>
      simp only [writeChunksFrom]
      have first := terminal.reports_write ((bytes.drop offset).take chunkBytes)
      split_ifs with inside accepted later
      · exact (first.trans (inductionHypothesis _ _)).weaken fun failed => by
          rw [failed, Bool.false_and]
      · rw [Bool.not_eq_true] at accepted
        exact (first.trans (reports_recoveryWrite _ _)).weaken fun _ => by
          rw [accepted, Bool.and_false]
      · exact first.weaken fun _ => Bool.eq_false_iff.mpr accepted
      · exact Reports.refl terminal

theorem reports_writeChunks (bytes : List UInt8) (chunkBytes : Nat) :
    Reports terminal (terminal.writeChunks bytes chunkBytes).1
      (terminal.writeChunks bytes chunkBytes).2 := by
  unfold writeChunks
  split_ifs
  · exact terminal.reports_write bytes
  · exact terminal.reports_writeChunksFrom bytes chunkBytes _ _

theorem reports_clearAndHome :
    Reports terminal terminal.clearAndHome.1 terminal.clearAndHome.2 := by
  exact (terminal.reports_write _).trans (reports_flushOutsideUpdate _)

theorem reports_drawAtHome (sixel : List UInt8) (restoreCursor : Bool) (chunkBytes : Nat) :
    Reports terminal (terminal.drawAtHome sixel restoreCursor chunkBytes).1
      (terminal.drawAtHome sixel restoreCursor chunkBytes).2 := by
  refine Reports.weaken (((((((terminal.reports_saveLocally _).trans (reports_write _ _)).trans
    (reports_write _ _)).trans (reports_writeChunks _ _ _)).trans
    (reports_recoveryWrite _ _)).trans (reports_recover _ _ _)).trans
    (reports_flushOutsideUpdate _)) ?_
  intro failed
  simp only [drawAtHome] at failed
  simp only [← Bool.and_assoc]
  exact failed

theorem reports_drawAtCell (row column : Nat) (sixel : List UInt8) (restoreCursor : Bool)
    (chunkBytes : Nat) :
    Reports terminal (terminal.drawAtCell row column sixel restoreCursor chunkBytes).1
      (terminal.drawAtCell row column sixel restoreCursor chunkBytes).2 := by
  refine Reports.weaken (((((terminal.reports_saveLocally _).trans (reports_write _ _)).trans
    (reports_writeChunks _ _ _)).trans (reports_recover _ _ _)).trans
    (reports_flushOutsideUpdate _)) ?_
  intro failed
  simp only [drawAtCell] at failed
  simp only [← Bool.and_assoc]
  exact failed

/-! ### Updates -/

theorem reports_synchronize (wanted : Bool) :
    Reports terminal (terminal.synchronize wanted).1 (terminal.synchronize wanted).2 := by
  cases wanted with
  | true =>
      have sent := terminal.reports_write (ascii "\x1b[?2026h")
      exact ⟨sent.kept, sent.reported⟩
  | false => exact Reports.refl terminal

theorem reports_saveCursor (wanted : Bool) :
    Reports terminal (terminal.saveCursor wanted).1 (terminal.saveCursor wanted).2 := by
  cases wanted with
  | true =>
      have sent := terminal.reports_write saveCursorBytes
      exact ⟨sent.kept, sent.reported⟩
  | false => exact Reports.refl terminal

/-- Opening an update forgets earlier errors, not its own. -/
theorem reported_beginSynchronizedUpdate (preserveCursor synchronizedOutput : Bool)
    (failed :
      (terminal.beginSynchronizedUpdate preserveCursor synchronizedOutput).2 = false) :
    (terminal.beginSynchronizedUpdate preserveCursor synchronizedOutput).1.lastError ≠ .none := by
  unfold beginSynchronizedUpdate at failed ⊢
  by_cases active : terminal.updateActive
  · rw [if_pos active] at failed ⊢
    simpa [good] using failed
  · rw [if_neg active] at failed ⊢
    exact ((terminal.openUpdate.reports_synchronize _).trans (reports_saveCursor _ _)).reported
      failed

theorem reports_endSynchronizedUpdate :
    Reports terminal terminal.endSynchronizedUpdate.1 terminal.endSynchronizedUpdate.2 := by
  unfold endSynchronizedUpdate
  by_cases active : terminal.updateActive
  · rw [active, Bool.not_true, if_neg Bool.false_ne_true]
    have all := ((terminal.reports_recover terminal.restoreCursorAfterUpdate
      restoreCursorBytes).trans (reports_recover _ terminal.synchronizedUpdateActive
        (ascii "\x1b[?2026l"))).trans (reports_recoveryFlush _)
    refine ⟨all.kept, ?_⟩
    intro failed
    exact all.reported (by rw [← Bool.and_assoc]; exact failed)
  · rw [Bool.not_eq_true] at active
    rw [active, Bool.not_false, if_pos rfl]
    exact ⟨fun recorded => recorded, fun failed => by simpa [good] using failed⟩

end TerminalRenderer

end Rasterm
