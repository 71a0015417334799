import Rasterm.Output.Picture

/-!
Contract: what a terminal's control parser makes of the accepted bytes.

Owns, for every operation of `TerminalRenderer`, the parser's state after it,
under the condition that no recovery sequence was refused on both attempts: a
draw leaves the terminal as it found it whichever writes were refused, an update
ends with synchronized output off, destruction shows the cursor and leaves the
alternate screen.
-/

set_option autoImplicit false

namespace Rasterm

open Decimal
open Vt (Neutral)

/-- What may be drawn: nothing, or one device control string. -/
def IsPayload (bytes : List UInt8) : Prop := bytes = [] ∨ IsControlString bytes

theorem IsPayload.neutral {bytes : List UInt8} (payload : IsPayload bytes) : Neutral bytes := by
  rcases payload with empty | ⟨body, noEscape, framed⟩
  · subst empty
    exact Neutral.nil
  · subst framed
    exact Neutral.controlString noEscape.noEscape

namespace TerminalRenderer

/-! ### The sequences -/

theorem neutral_saveCursorBytes : Neutral saveCursorBytes :=
  @Neutral.escapeSequence 0x37 rfl (by decide)

theorem neutral_restoreCursorBytes : Neutral restoreCursorBytes :=
  @Neutral.escapeSequence 0x38 rfl (by decide)

theorem neutral_home : Neutral (ascii "\x1b[H") :=
  @Neutral.controlSequence [] 0x48 (by simp) (by decide) fun _ => rfl

theorem neutral_clear : Neutral (ascii "\x1b[2J\x1b[H") :=
  @Neutral.append (ascii "\x1b[2J") (ascii "\x1b[H")
    (@Neutral.controlSequence [0x32] 0x4a (by simp) (by decide) fun _ => rfl) neutral_home

theorem neutral_cursorBytes (row column : Nat) : Neutral (cursorBytes row column) := by
  rw [cursorBytes_eq]
  apply Neutral.controlSequence
  · exact collects_cell row column
  · decide
  · intro modes
    cases digits : numeral (row + 1) with
    | nil => rfl
    | cons first others =>
        have inDigits : first ∈ numeral (row + 1) := by simp [digits]
        have digit := isDigit_of_mem_numeral inDigits
        have notMode : first ≠ 0x3f := by
          intro same
          subst same
          exact absurd digit (by decide)
        simp only [Vt.dispatch, List.cons_append]
        split
        · rename_i same
          exact absurd (List.cons.inj same).1 notMode
        · rfl

/-- A literal that sets or resets one private mode. -/
private theorem feed_mode (terminal : Vt.Terminal) {bytes : List UInt8} (digits : List UInt8)
    {number : Nat} (value : Bool) (numbered : Vt.parameters digits = [number])
    (plain : ∀ byte ∈ digits, 0x20 ≤ byte ∧ byte ≤ 0x3f)
    (shape : bytes = 0x1b :: 0x5b :: (0x3f :: digits) ++ [if value then 0x68 else 0x6c]) :
    terminal.feed bytes = terminal.setMode number value := by
  rw [shape, terminal.feed_privateMode numbered plain value]

theorem feed_synchronizedOn (terminal : Vt.Terminal) :
    terminal.feed (ascii "\x1b[?2026h") = terminal.setMode 2026 true :=
  feed_mode terminal [0x32, 0x30, 0x32, 0x36] true (by decide) (by simp) rfl

theorem feed_synchronizedOff (terminal : Vt.Terminal) :
    terminal.feed (ascii "\x1b[?2026l") = terminal.setMode 2026 false :=
  feed_mode terminal [0x32, 0x30, 0x32, 0x36] false (by decide) (by simp) rfl

theorem feed_displayOn (terminal : Vt.Terminal) :
    terminal.feed (ascii "\x1b[?80h") = terminal.setMode 80 true :=
  feed_mode terminal [0x38, 0x30] true (by decide) (by simp) rfl

theorem feed_displayOff (terminal : Vt.Terminal) :
    terminal.feed (ascii "\x1b[?80l") = terminal.setMode 80 false :=
  feed_mode terminal [0x38, 0x30] false (by decide) (by simp) rfl

theorem feed_cursorShown (terminal : Vt.Terminal) :
    terminal.feed (ascii "\x1b[?25h") = terminal.setMode 25 true :=
  feed_mode terminal [0x32, 0x35] true (by decide) (by simp) rfl

theorem feed_cursorHidden (terminal : Vt.Terminal) :
    terminal.feed (ascii "\x1b[?25l") = terminal.setMode 25 false :=
  feed_mode terminal [0x32, 0x35] false (by decide) (by simp) rfl

theorem feed_alternateEntered (terminal : Vt.Terminal) :
    terminal.feed (ascii "\x1b[?1049h") = terminal.setMode 1049 true :=
  feed_mode terminal [0x31, 0x30, 0x34, 0x39] true (by decide) (by simp) rfl

theorem feed_alternateLeft (terminal : Vt.Terminal) :
    terminal.feed (ascii "\x1b[?1049l") = terminal.setMode 1049 false :=
  feed_mode terminal [0x31, 0x30, 0x34, 0x39] false (by decide) (by simp) rfl

/-! ### The parser after each operation -/

/-- The terminal after everything accepted so far. -/
def parsed (start : Vt.Terminal) (terminal : TerminalRenderer) : Vt.Terminal :=
  start.feed terminal.sink.accepted

variable {start : Vt.Terminal} (terminal : TerminalRenderer)

theorem parsed_write (bytes : List UInt8) :
    (terminal.write bytes).1.parsed start =
      if (terminal.write bytes).2 then (terminal.parsed start).feed bytes
      else terminal.parsed start := by
  have accepted := terminal.sink.accepted_write .ordinary bytes
  by_cases taken : (terminal.sink.write .ordinary bytes).2 = true
  · simp only [taken, if_true] at accepted
    simp only [write, taken, if_true]
    show start.feed (terminal.sink.write .ordinary bytes).1.accepted = _
    rw [accepted, Vt.Terminal.feed_append]
    rfl
  · simp only [taken, if_false, List.append_nil, Bool.false_eq_true] at accepted
    simp only [write, taken, if_false, Bool.false_eq_true]
    show start.feed (terminal.sink.write .ordinary bytes).1.accepted = _
    rw [accepted]
    rfl

/-- A recovery sequence arrives on one of its attempts. -/
theorem parsed_recoveryWrite {bytes : List UInt8}
    (restores : (terminal.recoveryWrite bytes).1.sink.Restores) :
    (terminal.recoveryWrite bytes).1.parsed start = (terminal.parsed start).feed bytes := by
  have first := terminal.sink.accepted_write .recovery bytes
  simp only [recoveryWrite] at restores ⊢
  by_cases taken : (terminal.sink.write .recovery bytes).2 = true
  · rw [if_pos taken] at *
    show start.feed (terminal.sink.write .recovery bytes).1.accepted = _
    rw [first, Vt.Terminal.feed_append]
    rfl
  · rw [if_neg taken] at *
    have second := (terminal.sink.write .recovery bytes).1.accepted_write .retry bytes
    rw [OutputSink.accepted_of_restores restores, if_pos rfl, first, List.append_nil] at second
    show start.feed ((terminal.sink.write .recovery bytes).1.write .retry bytes).1.accepted = _
    rw [second, Vt.Terminal.feed_append]
    rfl

@[simp] theorem parsed_flush : terminal.flush.1.parsed start = terminal.parsed start := by
  simp only [flush]
  split_ifs <;> simp [parsed]

@[simp] theorem parsed_recoveryFlush :
    terminal.recoveryFlush.1.parsed start = terminal.parsed start := by
  simp only [recoveryFlush]
  split_ifs <;> simp [parsed]

@[simp] theorem parsed_flushOutsideUpdate :
    terminal.flushOutsideUpdate.1.parsed start = terminal.parsed start := by
  unfold flushOutsideUpdate
  split_ifs
  · rfl
  · exact parsed_flush terminal

variable {terminal}

theorem parsed_write_neutral {bytes : List UInt8} (neutral : Neutral bytes)
    (ground : (terminal.parsed start).parser = .ground) :
    (terminal.write bytes).1.parsed start = terminal.parsed start := by
  rw [parsed_write]
  split_ifs
  · exact neutral _ ground
  · rfl

theorem parsed_saveLocally (ground : (terminal.parsed start).parser = .ground) (locally : Bool) :
    (terminal.saveLocally locally).1.parsed start = terminal.parsed start := by
  cases locally with
  | true => exact parsed_write_neutral neutral_saveCursorBytes ground
  | false => rfl

theorem parsed_recover_neutral {bytes : List UInt8} (neutral : Neutral bytes)
    (ground : (terminal.parsed start).parser = .ground) {needed : Bool}
    (restores : (terminal.recover needed bytes).1.sink.Restores) :
    (terminal.recover needed bytes).1.parsed start = terminal.parsed start := by
  cases needed with
  | true => exact (terminal.parsed_recoveryWrite restores).trans (neutral _ ground)
  | false => rfl

/-! ### Payloads -/

/-- The chunks sent so far are the front of the payload; a refused chunk is
followed by a string terminator. -/
private theorem parsed_writeChunksFrom {base : Vt.Terminal} (ground : base.parser = .ground)
    {bytes : List UInt8} (controlString : IsControlString bytes) {chunkBytes : Nat}
    (positive : 0 < chunkBytes) (fuel : Nat) :
    ∀ (terminal : TerminalRenderer) (offset : Nat), bytes.length ≤ offset + fuel →
      terminal.parsed start = base.feed (bytes.take offset) →
      (writeChunksFrom bytes chunkBytes fuel terminal offset).1.sink.Restores →
      (writeChunksFrom bytes chunkBytes fuel terminal offset).1.parsed start = base := by
  obtain ⟨body, uninterrupted, framed⟩ := controlString
  have noEscape := uninterrupted.noEscape
  have complete : ∀ offset, bytes.length ≤ offset → base.feed (bytes.take offset) = base := by
    intro offset reached
    rw [List.take_of_length_le reached, framed]
    exact Neutral.controlString noEscape base ground
  induction fuel with
  | zero =>
      intro terminal offset enough sent _
      show terminal.parsed start = base
      rw [sent]
      exact complete offset enough
  | succ fuel inductionHypothesis =>
      intro terminal offset enough sent restores
      simp only [writeChunksFrom] at restores ⊢
      by_cases inside : offset < bytes.length
      · rw [if_pos inside] at restores ⊢
        set chunk := (bytes.drop offset).take chunkBytes with chunkEq
        have written := @parsed_write start terminal chunk
        by_cases taken : (terminal.write chunk).2 = true
        · rw [if_pos taken] at restores written ⊢
          apply inductionHypothesis _ _ _ _ restores
          · have size : chunk.length = min chunkBytes (bytes.length - offset) := by simp [chunk]
            omega
          · rw [written, sent, ← Vt.Terminal.feed_append, List.take_add]
            congr 2
            rw [chunkEq, List.length_take, List.take_eq_take_min]
        · rw [if_neg taken] at restores written ⊢
          by_cases started : offset > 0
          · rw [if_pos started] at restores ⊢
            rw [parsed_recoveryWrite _ restores, written, sent]
            have front := base.modes_feed_part noEscape
              (show bytes.take offset <+: _ from framed ▸ List.take_prefix offset bytes)
            show (base.feed (bytes.take offset)).feed [0x1b, 0x5c] = base
            rw [Vt.Terminal.feed_stringTerminator, front]
            cases base
            simp_all
          · rw [if_neg started] at restores ⊢
            rw [written, sent, Nat.eq_zero_of_not_pos started]
            rfl
      · rw [if_neg inside] at restores ⊢
        rw [sent]
        exact complete offset (Nat.le_of_not_lt inside)

theorem parsed_writeChunks {bytes : List UInt8} (payload : IsPayload bytes)
    (ground : (terminal.parsed start).parser = .ground) {chunkBytes : Nat}
    (restores : (terminal.writeChunks bytes chunkBytes).1.sink.Restores) :
    (terminal.writeChunks bytes chunkBytes).1.parsed start = terminal.parsed start := by
  unfold writeChunks at restores ⊢
  by_cases single : chunkBytes = 0 ∨ bytes.length ≤ chunkBytes
  · rw [if_pos single]
    exact parsed_write_neutral payload.neutral ground
  · rw [if_neg single] at restores ⊢
    rcases payload with empty | controlString
    · subst empty
      simp at single
    · exact parsed_writeChunksFrom ground controlString (by omega) _ _ _ (by omega) rfl restores

/-! ### Draws and updates -/

theorem Grows.restores {before after : TerminalRenderer} (grows : before.Grows after)
    (restores : after.sink.Restores) : before.sink.Restores :=
  restores.of_part grows.calls

theorem parsed_clearAndHome (ground : (terminal.parsed start).parser = .ground) :
    terminal.clearAndHome.1.parsed start = terminal.parsed start := by
  show (TerminalRenderer.flushOutsideUpdate _).1.parsed start = _
  rw [parsed_flushOutsideUpdate]
  exact parsed_write_neutral neutral_clear ground

/-- A draw at a cell leaves nothing open, whichever writes were refused. -/
theorem parsed_drawAtCell (row column : Nat) {sixel : List UInt8} (payload : IsPayload sixel)
    (restoreCursor : Bool) (chunkBytes : Nat) (ground : (terminal.parsed start).parser = .ground)
    (restores : (terminal.drawAtCell row column sixel restoreCursor chunkBytes).1.sink.Restores) :
    (terminal.drawAtCell row column sixel restoreCursor chunkBytes).1.parsed start =
      terminal.parsed start := by
  have saved := parsed_saveLocally ground (restoreCursor && !terminal.updateActive)
  have moved := parsed_write_neutral (neutral_cursorBytes row column) (saved ▸ ground)
  simp only [drawAtCell] at restores ⊢
  have beforeFlush := (sends_flushOutsideUpdate _).restores restores
  have beforeRestore := (keeps_recover _ _ _).restores beforeFlush
  have drawn := parsed_writeChunks payload (by rw [moved, saved]; exact ground) beforeRestore
  rw [parsed_flushOutsideUpdate,
    parsed_recover_neutral neutral_restoreCursorBytes
      (by rw [drawn, moved, saved]; exact ground) beforeFlush,
    drawn, moved, saved]

/-- Display mode is on during a draw at home at most. -/
theorem parsed_drawAtHome {sixel : List UInt8} (payload : IsPayload sixel)
    (restoreCursor : Bool) (chunkBytes : Nat) (ground : (terminal.parsed start).parser = .ground)
    (scrolling : (terminal.parsed start).modes 80 = false)
    (restores : (terminal.drawAtHome sixel restoreCursor chunkBytes).1.sink.Restores) :
    (terminal.drawAtHome sixel restoreCursor chunkBytes).1.parsed start =
      terminal.parsed start := by
  have saved := parsed_saveLocally ground (restoreCursor && !terminal.updateActive)
  simp only [drawAtHome] at restores ⊢
  set opened := ((terminal.saveLocally (restoreCursor && !terminal.updateActive)).1.write
    (ascii "\x1b[?80h")).1 with openedEq
  have display : opened.parsed start = (terminal.parsed start).setMode 80 true ∨
      opened.parsed start = terminal.parsed start := by
    rw [openedEq, parsed_write, saved, feed_displayOn]
    split_ifs
    · exact Or.inl rfl
    · exact Or.inr rfl
  have openedGround : (opened.parsed start).parser = .ground := by
    rcases display with on | off
    · rw [on]
      rfl
    · rw [off]
      exact ground
  have off : (opened.parsed start).setMode 80 false = terminal.parsed start := by
    rcases display with on | off
    · rw [on, Vt.Terminal.setMode_setMode]
      exact Vt.Terminal.setMode_of_eq ground scrolling
    · rw [off]
      exact Vt.Terminal.setMode_of_eq ground scrolling
  have home := parsed_write_neutral neutral_home openedGround
  have beforeFlush := (sends_flushOutsideUpdate _).restores restores
  have beforeRestore := (keeps_recover _ _ _).restores beforeFlush
  have beforeScrolling := (keeps_recoveryWrite _ _).restores beforeRestore
  have drawn := parsed_writeChunks payload (home ▸ openedGround) beforeScrolling
  have closed := @parsed_recoveryWrite start _ _ beforeRestore
  rw [drawn, home, feed_displayOff, off] at closed
  rw [parsed_flushOutsideUpdate,
    parsed_recover_neutral neutral_restoreCursorBytes (closed ▸ ground) beforeFlush, closed]

/-- Nothing is open: no control string, no synchronized update, no display mode. -/
structure Calm (vt : Vt.Terminal) : Prop where
  ground : vt.parser = .ground
  synchronized : vt.modes 2026 = false
  display : vt.modes 80 = false

/-- During an update synchronized output may be on, and the flag tells. -/
structure Updating (start base : Vt.Terminal) (terminal : TerminalRenderer) : Prop where
  active : terminal.updateActive = true
  parsed : terminal.parsed start = base ∧ terminal.synchronizedUpdateActive = false ∨
    terminal.parsed start = base.setMode 2026 true ∧ terminal.synchronizedUpdateActive = true

theorem Updating.atRest {base : Vt.Terminal} (updating : Updating start base terminal)
    (calm : Calm base) :
    (terminal.parsed start).parser = .ground ∧ (terminal.parsed start).modes 80 = false := by
  rcases updating.parsed with ⟨same, -⟩ | ⟨synchronized, -⟩
  · rw [same]
    exact ⟨calm.ground, calm.display⟩
  · rw [synchronized]
    exact ⟨rfl, by simp [Vt.Terminal.setMode, calm.display]⟩

/-- Output that leaves the parser as it was stays inside the update. -/
theorem Updating.sends {base : Vt.Terminal} {after : TerminalRenderer}
    (updating : Updating start base terminal) (sent : terminal.Keeps after)
    (same : after.parsed start = terminal.parsed start) : Updating start base after where
  active := sent.updateActive.trans updating.active
  parsed := by
    rw [same, sent.synchronized]
    exact updating.parsed

theorem updating_beginSynchronizedUpdate (inactive : terminal.updateActive = false)
    (ground : (terminal.parsed start).parser = .ground) (preserveCursor synchronizedOutput : Bool) :
    Updating start (terminal.parsed start)
      (terminal.beginSynchronizedUpdate preserveCursor synchronizedOutput).1 := by
  unfold beginSynchronizedUpdate
  rw [inactive, if_neg Bool.false_ne_true]
  have opened : Updating start (terminal.parsed start)
      (terminal.openUpdate.synchronize synchronizedOutput).1 := by
    cases synchronizedOutput with
    | false => exact ⟨rfl, Or.inl ⟨rfl, rfl⟩⟩
    | true =>
        have sent := terminal.openUpdate.keeps_write (ascii "\x1b[?2026h")
        have written := @parsed_write start terminal.openUpdate (ascii "\x1b[?2026h")
        refine ⟨sent.updateActive, ?_⟩
        show (TerminalRenderer.write _ _).1.parsed start = _ ∧ (TerminalRenderer.write _ _).2 = _ ∨
          (TerminalRenderer.write _ _).1.parsed start = _ ∧ (TerminalRenderer.write _ _).2 = _
        rw [written, feed_synchronizedOn]
        cases (terminal.openUpdate.write (ascii "\x1b[?2026h")).2 with
        | true => exact Or.inr ⟨rfl, rfl⟩
        | false => exact Or.inl ⟨rfl, rfl⟩
  cases preserveCursor with
  | false => exact opened
  | true =>
      have ground : ((terminal.openUpdate.synchronize synchronizedOutput).1.parsed start).parser =
          .ground := by
        rcases opened.parsed with ⟨same, -⟩ | ⟨synchronized, -⟩
        · rw [same]
          exact ground
        · rw [synchronized]
          rfl
      have saved := opened.sends (keeps_write _ saveCursorBytes)
        (parsed_write_neutral neutral_saveCursorBytes ground)
      exact ⟨saved.active, saved.parsed⟩

theorem parsed_endSynchronizedUpdate {base : Vt.Terminal} (updating : Updating start base terminal)
    (calm : Calm base) (restores : terminal.endSynchronizedUpdate.1.sink.Restores) :
    terminal.endSynchronizedUpdate.1.parsed start = base ∧
      terminal.endSynchronizedUpdate.1.updateActive = false := by
  unfold endSynchronizedUpdate at restores ⊢
  rw [updating.active, Bool.not_true, if_neg Bool.false_ne_true] at restores ⊢
  refine ⟨?_, rfl⟩
  have beforeFlush := (keeps_recoveryFlush _).restores ((extends_closeUpdate _).restores restores)
  have beforeEnd := (keeps_recover _ _ _).restores beforeFlush
  have restored := parsed_recover_neutral neutral_restoreCursorBytes (updating.atRest calm).1
    beforeEnd
  have synchronized := (terminal.keeps_recover terminal.restoreCursorAfterUpdate
    restoreCursorBytes).synchronized
  show (TerminalRenderer.recoveryFlush _).1.parsed start = base
  rw [parsed_recoveryFlush]
  rcases updating.parsed with ⟨same, inactive⟩ | ⟨on, active⟩
  · rw [inactive]
    exact restored.trans same
  · rw [active] at beforeFlush ⊢
    show (TerminalRenderer.recoveryWrite _ _).1.parsed start = base
    rw [parsed_recoveryWrite _ beforeFlush, restored, on, feed_synchronizedOff,
      Vt.Terminal.setMode_setMode]
    exact Vt.Terminal.setMode_of_eq calm.ground calm.synchronized

/-! ### Construction and destruction -/

/-- Between two calls of the renderer. -/
structure Settled (start : Vt.Terminal) (terminal : TerminalRenderer) : Prop where
  inactive : terminal.updateActive = false
  calm : Calm (terminal.parsed start)
  alternate : terminal.usesAlternateScreen = false →
    (terminal.parsed start).modes 1049 = start.modes 1049

/-- A call that leaves the parser as it was leaves the terminal settled. -/
theorem Settled.extends {after : TerminalRenderer} (settled : Settled start terminal)
    (grows : terminal.Grows after)
    (inactive : after.updateActive = false) (same : after.parsed start = terminal.parsed start) :
    Settled start after where
  inactive := inactive
  calm := same ▸ settled.calm
  alternate := by
    rw [same, grows.usesAlternateScreen]
    exact settled.alternate

/-- A mode that matters neither to the updates nor to the draws. -/
private theorem Settled.write_mode (settled : Settled start terminal) {bytes : List UInt8}
    {number : Nat} {value : Bool} (sets : ∀ vt : Vt.Terminal, vt.feed bytes = vt.setMode number value)
    (notSynchronized : number ≠ 2026) (notDisplay : number = 80 → value = false)
    (alternate : number = 1049 → terminal.usesAlternateScreen = true) :
    Settled start (terminal.write bytes).1 := by
  have sent := terminal.keeps_write bytes
  have written := @parsed_write start terminal bytes
  rw [sets] at written
  cases taken : (terminal.write bytes).2 with
  | false =>
      rw [taken, if_neg Bool.false_ne_true] at written
      exact settled.extends sent.toGrows (sent.updateActive.trans settled.inactive) written
  | true =>
      rw [taken, if_pos rfl] at written
      refine ⟨sent.updateActive.trans settled.inactive, ⟨?_, ?_, ?_⟩, ?_⟩
      · rw [written]
        rfl
      · rw [written]
        simp only [Vt.Terminal.setMode, Function.update_of_ne (Ne.symm notSynchronized)]
        exact settled.calm.synchronized
      · rw [written]
        by_cases display : number = 80
        · subst display
          simp [Vt.Terminal.setMode, notDisplay rfl]
        · simp only [Vt.Terminal.setMode, Function.update_of_ne (Ne.symm display)]
          exact settled.calm.display
      · intro unused
        rw [sent.usesAlternateScreen] at unused
        have other : number ≠ 1049 := by
          intro same
          rw [alternate same] at unused
          cases unused
        rw [written]
        simp only [Vt.Terminal.setMode, Function.update_of_ne (Ne.symm other)]
        exact settled.alternate unused

theorem settled_create {sink : OutputSink} (fresh : sink.calls = []) (useAlternateScreen : Bool)
    (calm : Calm start) : Settled start (create sink useAlternateScreen) := by
  have opened : Settled start
      { sink := sink, usesAlternateScreen := useAlternateScreen } := by
    have nothing : sink.accepted = [] := by simp [OutputSink.accepted, fresh]
    refine ⟨rfl, ?_, ?_⟩
    · show Calm (start.feed sink.accepted)
      rw [nothing]
      exact calm
    · intro _
      show (start.feed sink.accepted).modes 1049 = _
      rw [nothing]
      rfl
  have finished : ∀ terminal : TerminalRenderer, Settled start terminal →
      Settled start ((terminal.write (ascii "\x1b[?25l")).1.write (ascii "\x1b[?80l")).1.flush.1 := by
    intro terminal settled
    have hidden := settled.write_mode feed_cursorHidden (by decide) (by decide)
      fun same => absurd same (by decide)
    have scrolling := hidden.write_mode feed_displayOff (by decide) (fun _ => rfl)
      fun same => absurd same (by decide)
    have flushed := sends_flush ((terminal.write (ascii "\x1b[?25l")).1.write (ascii "\x1b[?80l")).1
    exact scrolling.extends flushed.toGrows (flushed.updateActive.trans scrolling.inactive)
      (parsed_flush _)
  cases useAlternateScreen with
  | true =>
      exact finished _ (opened.write_mode feed_alternateEntered (by decide) (by decide) fun _ => rfl)
  | false => exact finished _ opened

/-- After destruction nothing is open, the cursor is shown, and the alternate screen
is left if it was ever entered. -/
theorem parsed_destroy (settled : Settled start terminal)
    (restores : terminal.destroy.sink.Restores) :
    Calm (terminal.destroy.parsed start) ∧ (terminal.destroy.parsed start).modes 25 = true ∧
      (terminal.destroy.parsed start).modes 1049 =
        if terminal.usesAlternateScreen then false else start.modes 1049 := by
  have ended : terminal.endSynchronizedUpdate.1 = terminal := by
    unfold endSynchronizedUpdate
    rw [settled.inactive, Bool.not_false, if_pos rfl]
  have beforeFlush := (keeps_recoveryFlush _).restores restores
  have beforeLeaving := (keeps_recover _ _ _).restores beforeFlush
  have shown := @parsed_recoveryWrite start _ _ beforeLeaving
  rw [ended, feed_cursorShown] at shown
  have synchronized := settled.calm.synchronized
  have display := settled.calm.display
  have finished : terminal.destroy.parsed start =
      if terminal.usesAlternateScreen then
        ((terminal.parsed start).setMode 25 true).setMode 1049 false
      else (terminal.parsed start).setMode 25 true := by
    show (TerminalRenderer.recoveryFlush _).1.parsed start = _
    rw [parsed_recoveryFlush]
    cases alternate : terminal.usesAlternateScreen with
    | true =>
        rw [alternate] at beforeFlush
        show (TerminalRenderer.recoveryWrite _ _).1.parsed start = _
        rw [parsed_recoveryWrite _ beforeFlush, ended, shown, feed_alternateLeft, if_pos rfl]
    | false =>
        rw [if_neg Bool.false_ne_true, ← shown, ended]
        rfl
  rw [finished]
  cases alternate : terminal.usesAlternateScreen with
  | true =>
      refine ⟨⟨rfl, ?_, ?_⟩, ?_, ?_⟩ <;> simp [Vt.Terminal.setMode, synchronized, display]
  | false =>
      have unchanged := settled.alternate alternate
      refine ⟨⟨rfl, ?_, ?_⟩, ?_, ?_⟩ <;>
        simp [Vt.Terminal.setMode, synchronized, display, unchanged]

end TerminalRenderer

end Rasterm
