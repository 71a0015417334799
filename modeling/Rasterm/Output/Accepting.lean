import Rasterm.Output.Picture

/-!
Contract: output to a sink that accepts everything from here on.

Owns the bytes every operation then emits, in order, and that each of them
succeeds.
-/

set_option autoImplicit false

namespace Rasterm

namespace OutputSink

theorem accepting_write {sink : OutputSink} (accepting : sink.Accepting) (purpose : CallPurpose)
    (bytes : List UInt8) :
    (sink.write purpose bytes).2 = true ∧ (sink.write purpose bytes).1.Accepting := by
  refine ⟨accepting _ (le_refl _), ?_⟩
  intro call later
  simp only [write, List.length_append, List.length_singleton] at later
  exact accepting call (by omega)

theorem accepting_flush {sink : OutputSink} (accepting : sink.Accepting) (purpose : CallPurpose) :
    (sink.flush purpose).2 = true ∧ (sink.flush purpose).1.Accepting := by
  refine ⟨accepting _ (le_refl _), ?_⟩
  intro call later
  simp only [flush, List.length_append, List.length_singleton] at later
  exact accepting call (by omega)

end OutputSink

namespace TerminalRenderer

/-- The bytes that went out between two states, all of them accepted. -/
structure Emits (before : TerminalRenderer) (bytes : List UInt8) (after : TerminalRenderer) :
    Prop where
  accepted : after.sink.accepted = before.sink.accepted ++ bytes
  total : after.totalAcceptedBytes = before.totalAcceptedBytes + bytes.length
  accepting : after.sink.Accepting

theorem Grows.accepting {before after : TerminalRenderer} (grown : before.Grows after)
    (accepting : before.sink.Accepting) : after.sink.Accepting := by
  intro call later
  rw [grown.responses]
  exact accepting call (grown.calls.length_le.trans later)

theorem Emits.trans {first second third : TerminalRenderer} {left right : List UInt8}
    (head : first.Emits left second) (tail : second.Emits right third) :
    first.Emits (left ++ right) third where
  accepted := by rw [tail.accepted, head.accepted, List.append_assoc]
  total := by rw [tail.total, head.total, List.length_append, Nat.add_assoc]
  accepting := tail.accepting

variable {terminal : TerminalRenderer} (accepting : terminal.sink.Accepting)

include accepting

theorem emits_nil : terminal.Emits [] terminal := ⟨by simp, rfl, accepting⟩

theorem emits_write (bytes : List UInt8) :
    (terminal.write bytes).2 = true ∧ terminal.Emits bytes (terminal.write bytes).1 := by
  obtain ⟨taken, still⟩ := OutputSink.accepting_write accepting .ordinary bytes
  have accepted := terminal.sink.accepted_write .ordinary bytes
  rw [if_pos taken] at accepted
  simp only [write, taken, if_true]
  exact ⟨trivial, accepted, rfl, still⟩

theorem emits_recoveryWrite (bytes : List UInt8) :
    (terminal.recoveryWrite bytes).2 = true ∧
      terminal.Emits bytes (terminal.recoveryWrite bytes).1 := by
  obtain ⟨taken, still⟩ := OutputSink.accepting_write accepting .recovery bytes
  have accepted := terminal.sink.accepted_write .recovery bytes
  rw [if_pos taken] at accepted
  simp only [recoveryWrite, taken, if_true]
  exact ⟨trivial, accepted, rfl, still⟩

theorem emits_flush : terminal.flush.2 = true ∧ terminal.Emits [] terminal.flush.1 := by
  obtain ⟨done, still⟩ := OutputSink.accepting_flush accepting .ordinary
  simp only [flush, done, if_true]
  exact ⟨trivial, by simp, rfl, still⟩

theorem emits_recoveryFlush :
    terminal.recoveryFlush.2 = true ∧ terminal.Emits [] terminal.recoveryFlush.1 := by
  obtain ⟨done, still⟩ := OutputSink.accepting_flush accepting .recovery
  simp only [recoveryFlush, done, if_true]
  exact ⟨trivial, by simp, rfl, still⟩

theorem emits_flushOutsideUpdate :
    terminal.flushOutsideUpdate.2 = true ∧ terminal.Emits [] terminal.flushOutsideUpdate.1 := by
  unfold flushOutsideUpdate
  split_ifs
  · exact ⟨rfl, emits_nil accepting⟩
  · exact emits_flush accepting

theorem emits_recover (needed : Bool) (bytes : List UInt8) :
    (terminal.recover needed bytes).2 = true ∧
      terminal.Emits (if needed then bytes else []) (terminal.recover needed bytes).1 := by
  cases needed with
  | true => exact emits_recoveryWrite accepting bytes
  | false => exact ⟨rfl, emits_nil accepting⟩

omit accepting

/-- The chunks are the payload. -/
private theorem emits_writeChunksFrom (bytes : List UInt8) {chunkBytes : Nat}
    (positive : 0 < chunkBytes) (fuel : Nat) :
    ∀ (terminal : TerminalRenderer) (offset : Nat), terminal.sink.Accepting →
      bytes.length ≤ offset + fuel →
      (writeChunksFrom bytes chunkBytes fuel terminal offset).2 = true ∧
        terminal.Emits (bytes.drop offset)
          (writeChunksFrom bytes chunkBytes fuel terminal offset).1 := by
  induction fuel with
  | zero =>
      intro terminal offset accepting enough
      rw [List.drop_of_length_le (show bytes.length ≤ offset from enough)]
      exact ⟨rfl, emits_nil accepting⟩
  | succ fuel inductionHypothesis =>
      intro terminal offset accepting enough
      simp only [writeChunksFrom]
      by_cases inside : offset < bytes.length
      · rw [if_pos inside]
        obtain ⟨taken, emitted⟩ := emits_write accepting ((bytes.drop offset).take chunkBytes)
        rw [if_pos taken]
        have size : ((bytes.drop offset).take chunkBytes).length =
            min chunkBytes (bytes.length - offset) := by simp
        obtain ⟨done, rest⟩ := inductionHypothesis
          (terminal.write ((bytes.drop offset).take chunkBytes)).1
          (offset + ((bytes.drop offset).take chunkBytes).length) emitted.accepting (by omega)
        refine ⟨done, ?_⟩
        have both := emitted.trans rest
        have whole : (bytes.drop offset).take chunkBytes ++
            bytes.drop (offset + ((bytes.drop offset).take chunkBytes).length) =
              bytes.drop offset := by
          rw [← List.drop_drop, List.length_take]
          conv_rhs => rw [← List.take_append_drop chunkBytes (bytes.drop offset)]
          congr 1
          rcases Nat.le_total chunkBytes (bytes.drop offset).length with fits | short
          · rw [Nat.min_eq_left fits]
          · rw [Nat.min_eq_right short, List.drop_of_length_le (le_refl _),
              List.drop_of_length_le short]
        rwa [whole] at both
      · rw [if_neg inside, List.drop_of_length_le (Nat.le_of_not_lt inside)]
        exact ⟨rfl, emits_nil accepting⟩

include accepting

theorem emits_writeChunks (bytes : List UInt8) (chunkBytes : Nat) :
    (terminal.writeChunks bytes chunkBytes).2 = true ∧
      terminal.Emits bytes (terminal.writeChunks bytes chunkBytes).1 := by
  unfold writeChunks
  split_ifs with single
  · exact emits_write accepting bytes
  · have chunked := @emits_writeChunksFrom bytes chunkBytes (by omega) bytes.length terminal 0
      accepting (by omega)
    rwa [List.drop_zero] at chunked

theorem emits_clearAndHome :
    terminal.clearAndHome.2 = true ∧
      terminal.Emits (ascii "\x1b[2J\x1b[H") terminal.clearAndHome.1 := by
  obtain ⟨written, sent⟩ := emits_write accepting (ascii "\x1b[2J\x1b[H")
  obtain ⟨done, flushed⟩ := emits_flushOutsideUpdate sent.accepting
  have both := sent.trans flushed
  rw [List.append_nil] at both
  refine ⟨?_, both.accepted, both.total, both.accepting⟩
  simp only [clearAndHome, written, done, Bool.and_self]

def homeBytes (sixel : List UInt8) : List UInt8 :=
  ascii "\x1b[?80h" ++ ascii "\x1b[H" ++ sixel ++ ascii "\x1b[?80l"

theorem emits_drawAtHome (sixel : List UInt8) (chunkBytes : Nat) :
    (terminal.drawAtHome sixel false chunkBytes).2 = true ∧
      terminal.Emits (homeBytes sixel) (terminal.drawAtHome sixel false chunkBytes).1 := by
  obtain ⟨displayed, first⟩ := emits_write accepting (ascii "\x1b[?80h")
  obtain ⟨moved, second⟩ := emits_write first.accepting (ascii "\x1b[H")
  obtain ⟨accepted, third⟩ := emits_writeChunks second.accepting sixel chunkBytes
  obtain ⟨scrolled, fourth⟩ := emits_recoveryWrite third.accepting (ascii "\x1b[?80l")
  obtain ⟨flushed, fifth⟩ := emits_flushOutsideUpdate fourth.accepting
  have all := (((first.trans second).trans third).trans fourth).trans fifth
  rw [List.append_nil] at all
  simp only [drawAtHome, saveLocally, recover, Bool.false_and, Bool.false_eq_true, if_false,
    accepted, moved, displayed, scrolled, flushed, Bool.and_self]
  exact ⟨trivial, all⟩

theorem emits_drawAtCell (row column : Nat) (sixel : List UInt8) (chunkBytes : Nat) :
    (terminal.drawAtCell row column sixel false chunkBytes).2 = true ∧
      terminal.Emits (cursorBytes row column ++ sixel)
        (terminal.drawAtCell row column sixel false chunkBytes).1 := by
  obtain ⟨moved, first⟩ := emits_write accepting (cursorBytes row column)
  obtain ⟨accepted, second⟩ := emits_writeChunks first.accepting sixel chunkBytes
  obtain ⟨flushed, third⟩ := emits_flushOutsideUpdate second.accepting
  have all := (first.trans second).trans third
  rw [List.append_nil] at all
  simp only [drawAtCell, saveLocally, recover, Bool.false_and, Bool.false_eq_true, if_false,
    accepted, moved, flushed, Bool.and_self]
  exact ⟨trivial, all⟩

/-! ### Updates -/

def openingBytes (preserveCursor synchronizedOutput : Bool) : List UInt8 :=
  (if synchronizedOutput then ascii "\x1b[?2026h" else []) ++
    if preserveCursor then saveCursorBytes else []

def closingBytes (preserveCursor synchronizedOutput : Bool) : List UInt8 :=
  (if preserveCursor then restoreCursorBytes else []) ++
    if synchronizedOutput then ascii "\x1b[?2026l" else []

theorem emits_synchronize (wanted : Bool) :
    (terminal.synchronize wanted).2 = true ∧
      terminal.Emits (if wanted then ascii "\x1b[?2026h" else [])
        (terminal.synchronize wanted).1 ∧
      (wanted = true → (terminal.synchronize wanted).1.synchronizedUpdateActive = true) := by
  cases wanted with
  | true =>
      obtain ⟨taken, emitted⟩ := emits_write accepting (ascii "\x1b[?2026h")
      exact ⟨taken, ⟨emitted.accepted, emitted.total, emitted.accepting⟩, fun _ => taken⟩
  | false => exact ⟨rfl, emits_nil accepting, fun wanted => by cases wanted⟩

theorem emits_saveCursor (wanted : Bool) :
    (terminal.saveCursor wanted).2 = true ∧
      terminal.Emits (if wanted then saveCursorBytes else []) (terminal.saveCursor wanted).1 ∧
      (wanted = true → (terminal.saveCursor wanted).1.restoreCursorAfterUpdate = true) := by
  cases wanted with
  | true =>
      obtain ⟨taken, emitted⟩ := emits_write accepting saveCursorBytes
      exact ⟨taken, ⟨emitted.accepted, emitted.total, emitted.accepting⟩, fun _ => taken⟩
  | false => exact ⟨rfl, emits_nil accepting, fun wanted => by cases wanted⟩

/-- An update opens with both flags set as asked. -/
theorem emits_beginSynchronizedUpdate (inactive : terminal.updateActive = false)
    (preserveCursor synchronizedOutput : Bool) :
    let begun := terminal.beginSynchronizedUpdate preserveCursor synchronizedOutput
    begun.2 = true ∧ terminal.Emits (openingBytes preserveCursor synchronizedOutput) begun.1 ∧
      begun.1.updateActive = true ∧ begun.1.restoreCursorAfterUpdate = preserveCursor ∧
      begun.1.synchronizedUpdateActive = synchronizedOutput := by
  simp only [beginSynchronizedUpdate, inactive, Bool.false_eq_true, if_false]
  obtain ⟨synchronized, first, active⟩ := @emits_synchronize terminal.openUpdate accepting
    synchronizedOutput
  obtain ⟨saved, second, restores⟩ := emits_saveCursor first.accepting preserveCursor
  have emitted := first.trans second
  refine ⟨by rw [saved, synchronized]; rfl, ⟨emitted.accepted, emitted.total,
    emitted.accepting⟩, ?_⟩
  have opened : ∀ wanted : Bool,
      (terminal.openUpdate.synchronize wanted).1.updateActive = true ∧
        (terminal.openUpdate.synchronize wanted).1.restoreCursorAfterUpdate = false ∧
        (terminal.openUpdate.synchronize wanted).1.synchronizedUpdateActive = wanted := by
    intro wanted
    cases wanted with
    | false => exact ⟨rfl, rfl, rfl⟩
    | true =>
        have sent := terminal.openUpdate.keeps_write (ascii "\x1b[?2026h")
        have taken := (@emits_write terminal.openUpdate accepting (ascii "\x1b[?2026h")).1
        exact ⟨sent.updateActive, sent.restoreCursor, taken⟩
  obtain ⟨updating, unsaved, flagged⟩ := opened synchronizedOutput
  cases preserveCursor with
  | false => exact ⟨updating, unsaved, flagged⟩
  | true =>
      have sent := (terminal.openUpdate.synchronize synchronizedOutput).1.keeps_write
        saveCursorBytes
      exact ⟨sent.updateActive.trans updating, restores rfl, sent.synchronized.trans flagged⟩

theorem emits_endSynchronizedUpdate (active : terminal.updateActive = true) :
    let ended := terminal.endSynchronizedUpdate
    ended.2 = true ∧ terminal.Emits (closingBytes terminal.restoreCursorAfterUpdate
      terminal.synchronizedUpdateActive) ended.1 ∧ ended.1.updateActive = false := by
  simp only [endSynchronizedUpdate, active, Bool.not_true, Bool.false_eq_true, if_false]
  obtain ⟨restored, first⟩ := emits_recover accepting terminal.restoreCursorAfterUpdate
    restoreCursorBytes
  obtain ⟨ended, second⟩ := emits_recover first.accepting terminal.synchronizedUpdateActive
    (ascii "\x1b[?2026l")
  obtain ⟨flushed, third⟩ := emits_recoveryFlush second.accepting
  have all := (first.trans second).trans third
  rw [List.append_nil] at all
  refine ⟨by rw [restored, ended, flushed]; rfl, ⟨all.accepted, all.total, all.accepting⟩, rfl⟩

end TerminalRenderer

end Rasterm
