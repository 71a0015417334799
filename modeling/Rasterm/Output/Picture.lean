import Rasterm.Output.TerminalRenderer

/-!
Contract: what every operation of `TerminalRenderer` keeps, and what it makes of the picture.

Owns the growth of the log of calls, the flags that stay, what each sequence does to a
terminal in any state, and the events of a draw: whatever is refused, only something new
follows the old picture, and a draw that reports success is one control string at its cell.
-/

set_option autoImplicit false

namespace Rasterm

open Decimal Sixel

namespace TerminalRenderer

/-- The changes of the cells were made between calls of the log. -/
def Dated (terminal : TerminalRenderer) : Prop :=
  ∀ resize ∈ terminal.resizes.head?, resize.1 ≤ terminal.sink.calls.length

/-- The log of calls only grows. -/
structure Grows (before after : TerminalRenderer) : Prop where
  calls : before.sink.calls <+: after.sink.calls
  responses : after.sink.responses = before.sink.responses
  usesAlternateScreen : after.usesAlternateScreen = before.usesAlternateScreen

/-- The log grows, and these events follow in the picture. -/
structure Extends (before : TerminalRenderer) (events : List ScreenEvent)
    (after : TerminalRenderer) : Prop extends Grows before after where
  dated : before.Dated → after.Dated
  screen : before.Dated → after.screen = before.screen ++ events

/-- Output inside or outside an update: the update flags and the cells stay. -/
structure Keeps (before after : TerminalRenderer) : Prop extends Grows before after where
  resizes : after.resizes = before.resizes
  updateActive : after.updateActive = before.updateActive
  restoreCursor : after.restoreCursorAfterUpdate = before.restoreCursorAfterUpdate
  synchronized : after.synchronizedUpdateActive = before.synchronizedUpdateActive

/-- Output of these events. -/
structure Sends (before : TerminalRenderer) (events : List ScreenEvent)
    (after : TerminalRenderer) : Prop extends Extends before events after, Keeps before after

theorem Grows.refl (terminal : TerminalRenderer) : terminal.Grows terminal :=
  ⟨List.prefix_refl _, rfl, rfl⟩

theorem Grows.trans {first second third : TerminalRenderer} (head : first.Grows second)
    (tail : second.Grows third) : first.Grows third :=
  ⟨head.calls.trans tail.calls, tail.responses.trans head.responses,
    tail.usesAlternateScreen.trans head.usesAlternateScreen⟩

theorem Extends.refl (terminal : TerminalRenderer) : terminal.Extends [] terminal :=
  ⟨Grows.refl terminal, fun dated => dated, fun _ => by simp⟩

theorem Extends.trans {first second third : TerminalRenderer} {left right : List ScreenEvent}
    (head : first.Extends left second) (tail : second.Extends right third) :
    first.Extends (left ++ right) third := by
  refine ⟨head.toGrows.trans tail.toGrows, fun dated => tail.dated (head.dated dated), ?_⟩
  intro dated
  rw [tail.screen (head.dated dated), head.screen dated, List.append_assoc]

theorem Keeps.refl (terminal : TerminalRenderer) : terminal.Keeps terminal :=
  ⟨Grows.refl terminal, rfl, rfl, rfl, rfl⟩

theorem Keeps.trans {first second third : TerminalRenderer} (head : first.Keeps second)
    (tail : second.Keeps third) : first.Keeps third :=
  ⟨head.toGrows.trans tail.toGrows, tail.resizes.trans head.resizes,
    tail.updateActive.trans head.updateActive, tail.restoreCursor.trans head.restoreCursor,
    tail.synchronized.trans head.synchronized⟩

theorem Keeps.dated {before after : TerminalRenderer} (keeps : before.Keeps after)
    (dated : before.Dated) : after.Dated := by
  intro resize member
  rw [keeps.resizes] at member
  exact (dated resize member).trans keeps.calls.length_le

theorem Keeps.sends {before after : TerminalRenderer} {events : List ScreenEvent}
    (keeps : before.Keeps after) (screen : before.Dated → after.screen = before.screen ++ events) :
    before.Sends events after :=
  { keeps with dated := keeps.dated, screen := screen }

theorem Sends.refl (terminal : TerminalRenderer) : terminal.Sends [] terminal :=
  (Keeps.refl terminal).sends fun _ => by simp

theorem Sends.trans {first second third : TerminalRenderer} {left right : List ScreenEvent}
    (head : first.Sends left second) (tail : second.Sends right third) :
    first.Sends (left ++ right) third :=
  (head.toKeeps.trans tail.toKeeps).sends (head.toExtends.trans tail.toExtends).screen

/-! ### Calls -/

section Calls

variable (terminal : TerminalRenderer)

theorem keeps_write (bytes : List UInt8) : terminal.Keeps (terminal.write bytes).1 := by
  simp only [write]
  split_ifs <;> exact ⟨⟨List.prefix_append _ _, rfl, rfl⟩, rfl, rfl, rfl, rfl⟩

theorem keeps_recoveryWrite (bytes : List UInt8) :
    terminal.Keeps (terminal.recoveryWrite bytes).1 := by
  simp only [recoveryWrite]
  split_ifs
  · exact ⟨⟨List.prefix_append _ _, rfl, rfl⟩, rfl, rfl, rfl, rfl⟩
  · refine ⟨⟨?_, rfl, rfl⟩, rfl, rfl, rfl, rfl⟩
    exact (List.prefix_append _ _).trans (List.prefix_append _ _)

theorem keeps_flush : terminal.Keeps terminal.flush.1 := by
  simp only [flush]
  split_ifs <;> exact ⟨⟨List.prefix_append _ _, rfl, rfl⟩, rfl, rfl, rfl, rfl⟩

theorem keeps_recoveryFlush : terminal.Keeps terminal.recoveryFlush.1 := by
  simp only [recoveryFlush]
  split_ifs
  · exact ⟨⟨List.prefix_append _ _, rfl, rfl⟩, rfl, rfl, rfl, rfl⟩
  · refine ⟨⟨?_, rfl, rfl⟩, rfl, rfl, rfl, rfl⟩
    exact (List.prefix_append _ _).trans (List.prefix_append _ _)

theorem keeps_recover (needed : Bool) (bytes : List UInt8) :
    terminal.Keeps (terminal.recover needed bytes).1 := by
  cases needed with
  | true => exact terminal.keeps_recoveryWrite _
  | false => exact Keeps.refl terminal

theorem keeps_writeChunksFrom (bytes : List UInt8) (chunkBytes fuel offset : Nat) :
    terminal.Keeps (writeChunksFrom bytes chunkBytes fuel terminal offset).1 := by
  induction fuel generalizing terminal offset with
  | zero => exact Keeps.refl terminal
  | succ fuel inductionHypothesis =>
      simp only [writeChunksFrom]
      split_ifs
      · exact (terminal.keeps_write _).trans (inductionHypothesis _ _)
      · exact (terminal.keeps_write _).trans (keeps_recoveryWrite _ _)
      · exact terminal.keeps_write _
      · exact Keeps.refl terminal

theorem keeps_writeChunks (bytes : List UInt8) (chunkBytes : Nat) :
    terminal.Keeps (terminal.writeChunks bytes chunkBytes).1 := by
  unfold writeChunks
  split_ifs
  · exact terminal.keeps_write bytes
  · exact terminal.keeps_writeChunksFrom bytes chunkBytes _ _

variable {terminal}

/-- New calls are read from where the terminal was. -/
theorem emulator_of_calls (dated : terminal.Dated) {after : TerminalRenderer}
    {more : List SinkCall} (calls : after.sink.calls = terminal.sink.calls ++ more)
    (resizes : after.resizes = terminal.resizes) :
    after.emulator = more.foldl Emulator.receive terminal.emulator := by
  rw [emulator, calls, resizes, Emulator.after_append dated]
  rfl

theorem emulator_write (dated : terminal.Dated) (bytes : List UInt8) :
    (terminal.write bytes).1.emulator =
      if (terminal.write bytes).2 then terminal.emulator.feed bytes
      else terminal.emulator.lose := by
  have read := @emulator_of_calls terminal dated (terminal.write bytes).1
    [.write .ordinary bytes (terminal.write bytes).2]
    (by simp only [write, OutputSink.write]; split_ifs with accepted <;> simp [accepted])
    (terminal.keeps_write bytes).resizes
  rw [read]
  cases (terminal.write bytes).2 <;> rfl

/-- A recovery sequence arrives, or is refused and may arrive then. -/
theorem emulator_recoveryWrite (dated : terminal.Dated) (bytes : List UInt8) :
    (terminal.recoveryWrite bytes).1.emulator = terminal.emulator.feed bytes ∨
      (terminal.recoveryWrite bytes).1.emulator = terminal.emulator.lose.feed bytes ∨
      (terminal.recoveryWrite bytes).1.emulator = terminal.emulator.lose.lose := by
  have kept := (terminal.keeps_recoveryWrite bytes).resizes
  by_cases taken : (terminal.sink.write .recovery bytes).2 = true
  · apply Or.inl
    refine @emulator_of_calls terminal dated (terminal.recoveryWrite bytes).1
      [.write .recovery bytes true] ?_ kept
    simp only [recoveryWrite, taken, if_true]
    simp only [OutputSink.write] at taken ⊢
    rw [taken]
  · rw [Bool.not_eq_true] at taken
    have read := @emulator_of_calls terminal dated (terminal.recoveryWrite bytes).1
      [.write .recovery bytes false, .write .retry bytes
        ((terminal.sink.write .recovery bytes).1.write .retry bytes).2]
      (by
        simp only [recoveryWrite, taken, Bool.false_eq_true, if_false]
        simp only [OutputSink.write] at taken ⊢
        rw [taken, List.append_assoc]
        rfl)
      kept
    rw [read]
    cases ((terminal.sink.write .recovery bytes).1.write .retry bytes).2 with
    | true => exact Or.inr (Or.inl rfl)
    | false => exact Or.inr (Or.inr rfl)

theorem emulator_flush (dated : terminal.Dated) : terminal.flush.1.emulator = terminal.emulator :=
  @emulator_of_calls terminal dated terminal.flush.1
    [.flush .ordinary (terminal.sink.flush .ordinary).2]
    (by simp only [flush]; split_ifs <;> rfl) terminal.keeps_flush.resizes

theorem emulator_recoveryFlush (dated : terminal.Dated) :
    terminal.recoveryFlush.1.emulator = terminal.emulator := by
  have kept := terminal.keeps_recoveryFlush.resizes
  by_cases taken : (terminal.sink.flush .recovery).2 = true
  · refine @emulator_of_calls terminal dated terminal.recoveryFlush.1
      [.flush .recovery (terminal.sink.flush .recovery).2] ?_ kept
    simp only [recoveryFlush, taken, if_true]
    simp only [OutputSink.flush] at taken ⊢
    rw [taken]
  · rw [Bool.not_eq_true] at taken
    refine @emulator_of_calls terminal dated terminal.recoveryFlush.1
      [.flush .recovery false, .flush .retry ((terminal.sink.flush .recovery).1.flush .retry).2]
      ?_ kept
    simp only [recoveryFlush, taken, Bool.false_eq_true, if_false]
    simp only [OutputSink.flush] at taken ⊢
    rw [taken, List.append_assoc]
    rfl

end Calls

/-! ### Sequences that leave the picture alone -/

/-- Whatever the terminal is in the middle of, the picture stays. -/
def Passes (bytes : List UInt8) : Prop :=
  ∀ emulator : Emulator, (emulator.feed bytes).screen = emulator.screen

theorem passes_saveCursorBytes : Passes saveCursorBytes := by
  intro emulator
  have read := @Emulator.feed_escape emulator 0x37 (by decide) (by decide) []
  change (emulator.feed [0x1b, 0x37]).screen = _
  rw [read]
  exact List.append_nil _

theorem passes_restoreCursorBytes : Passes restoreCursorBytes := by
  intro emulator
  have read := @Emulator.feed_escape emulator 0x38 (by decide) (by decide) []
  change (emulator.feed [0x1b, 0x38]).screen = _
  rw [read]
  exact List.append_nil _

/-- A mode that has nothing to do with the picture is set or reset. -/
private theorem passes_mode {digits : List UInt8} (final : UInt8)
    (collected : digits.all (fun byte => 0x20 ≤ byte && byte ≤ 0x3f) = true)
    (keeps : Emulator.keepsPicture digits = true) (sets : final = 0x68 ∨ final = 0x6c) :
    Passes (0x1b :: 0x5b :: digits ++ [final]) := by
  intro emulator
  have collects : ∀ byte ∈ digits, 0x20 ≤ byte ∧ byte ≤ 0x3f := by simpa using collected
  rw [List.cons_append, List.cons_append, Emulator.feed_introducer, Emulator.feed_append,
    Emulator.feed_collect collects, List.nil_append]
  rcases sets with set | reset
  · rw [set]
    simp [Emulator.step, Emulator.plain, Emulator.dispatch, keeps, Emulator.screen,
      Emulator.pending, Reading.isOpen, Emulator.interrupted]
  · rw [reset]
    simp [Emulator.step, Emulator.plain, Emulator.dispatch, keeps, Emulator.screen,
      Emulator.pending, Reading.isOpen, Emulator.interrupted]

theorem passes_synchronizedOn : Passes (ascii "\x1b[?2026h") :=
  @passes_mode (ascii "?2026") 0x68 (by decide) (by decide) (Or.inl rfl)

theorem passes_synchronizedOff : Passes (ascii "\x1b[?2026l") :=
  @passes_mode (ascii "?2026") 0x6c (by decide) (by decide) (Or.inr rfl)

theorem passes_displayOn : Passes (ascii "\x1b[?80h") :=
  @passes_mode (ascii "?80") 0x68 (by decide) (by decide) (Or.inl rfl)

theorem passes_displayOff : Passes (ascii "\x1b[?80l") :=
  @passes_mode (ascii "?80") 0x6c (by decide) (by decide) (Or.inr rfl)

theorem passes_cursorHidden : Passes (ascii "\x1b[?25l") :=
  @passes_mode (ascii "?25") 0x6c (by decide) (by decide) (Or.inr rfl)

/-! ### Cursor moves and clears -/

theorem collects_numeral (value : Nat) : ∀ byte ∈ numeral value, 0x20 ≤ byte ∧ byte ≤ 0x3f := by
  intro byte member
  have digit := isDigit_of_mem_numeral member
  simp only [isDigit, Bool.and_eq_true, decide_eq_true_eq, UInt8.le_iff_toNat_le] at digit ⊢
  have bounds : (0x20 : UInt8).toNat = 32 ∧ (0x30 : UInt8).toNat = 48 ∧
      (0x39 : UInt8).toNat = 57 ∧ (0x3f : UInt8).toNat = 63 := ⟨rfl, rfl, rfl, rfl⟩
  omega

/-- The parameters of a cursor move. -/
theorem collects_cell (row column : Nat) :
    ∀ byte ∈ numeral (row + 1) ++ 0x3b :: numeral (column + 1), 0x20 ≤ byte ∧ byte ≤ 0x3f := by
  intro byte member
  rcases List.mem_append.mp member with inRow | rest
  · exact collects_numeral _ byte inRow
  · rcases List.mem_cons.mp rest with separator | inColumn
    · rw [separator]
      decide
    · exact collects_numeral _ byte inColumn

theorem cursorBytes_eq (row column : Nat) :
    cursorBytes row column =
      0x1b :: 0x5b :: (numeral (row + 1) ++ 0x3b :: numeral (column + 1)) ++ [0x48] := by
  simp [cursorBytes, ascii]

theorem cellOf_numerals (row column : Nat) :
    Emulator.cellOf (numeral (row + 1) ++ 0x3b :: numeral (column + 1)) = some (row, column) := by
  have digits : ∀ value, ∀ byte ∈ numeral value, isDigit byte = true :=
    fun value byte => isDigit_of_mem_numeral
  have separator : isDigit 0x3b = false := by decide
  have coordinates : ∀ value, Emulator.coordinate (numeral (value + 1)) = value := by
    intro value
    rw [Emulator.coordinate, foldl_numeral, Nat.add_sub_cancel]
  rw [Emulator.cellOf, List.takeWhile_append_of_pos (digits _),
    List.dropWhile_append_of_pos (digits _)]
  simp [separator, coordinates, List.all_eq_true.mpr (digits (column + 1))]

/-- The bytes move the cursor to a cell and leave the picture alone. -/
def MovesTo (bytes : List UInt8) (row column : Nat) : Prop :=
  ∀ emulator : Emulator,
    emulator.feed bytes = { cursor := some (row, column), events := emulator.screen }

theorem movesTo_cursorBytes (row column : Nat) : MovesTo (cursorBytes row column) row column := by
  intro emulator
  rw [cursorBytes_eq, List.cons_append, List.cons_append, Emulator.feed_introducer,
    Emulator.feed_append, Emulator.feed_collect (collects_cell row column), List.nil_append]
  simp [Emulator.step, Emulator.plain, Emulator.dispatch, cellOf_numerals, Emulator.interrupted]

theorem movesTo_home : MovesTo (ascii "\x1b[H") 0 0 := by
  intro emulator
  exact emulator.feed_introducer [0x48]

theorem MovesTo.passes {bytes : List UInt8} {row column : Nat} (moves : MovesTo bytes row column) :
    Passes bytes := by
  intro emulator
  rw [moves emulator]
  exact List.append_nil _

/-- The clear leaves nothing of the picture. -/
theorem feed_clear (emulator : Emulator) :
    (emulator.feed (ascii "\x1b[2J\x1b[H")).screen = emulator.screen ++ [.cleared] := by
  have read := emulator.feed_introducer [0x32, 0x4a, 0x1b, 0x5b, 0x48]
  change (emulator.feed (0x1b :: 0x5b :: [0x32, 0x4a, 0x1b, 0x5b, 0x48])).screen = _
  rw [read]
  exact List.append_nil _

/-- Nothing is known of the picture on the other screen. -/
theorem feed_alternate (emulator : Emulator) (final : UInt8)
    (sets : final = 0x68 ∨ final = 0x6c) :
    (emulator.feed (ascii "\x1b[?1049" ++ [final])).screen = emulator.screen ++ [.disturbed] := by
  have read := emulator.feed_introducer [0x3f, 0x31, 0x30, 0x34, 0x39, final]
  change (emulator.feed (0x1b :: 0x5b :: [0x3f, 0x31, 0x30, 0x34, 0x39, final])).screen = _
  rw [read]
  rcases sets with set | reset
  · rw [set]
    exact List.append_nil _
  · rw [reset]
    exact List.append_nil _

/-! ### What every operation sends -/

variable (terminal : TerminalRenderer)

/-- A sequence that does one thing does it if it is accepted. -/
theorem sends_write_events {bytes : List UInt8} {events : List ScreenEvent}
    (does : ∀ emulator : Emulator, (emulator.feed bytes).screen = emulator.screen ++ events) :
    terminal.Sends (if (terminal.write bytes).2 then events else []) (terminal.write bytes).1 := by
  apply (terminal.keeps_write bytes).sends
  intro dated
  rw [screen, emulator_write dated]
  split_ifs
  · exact does terminal.emulator
  · exact (List.append_nil _).symm

theorem sends_write {bytes : List UInt8} (passes : Passes bytes) :
    terminal.Sends [] (terminal.write bytes).1 := by
  have sent := @sends_write_events terminal bytes [] fun emulator => by
    rw [passes emulator, List.append_nil]
  rwa [ite_self] at sent

theorem sends_recoveryWrite {bytes : List UInt8} (passes : Passes bytes) :
    terminal.Sends [] (terminal.recoveryWrite bytes).1 := by
  apply (terminal.keeps_recoveryWrite bytes).sends
  intro dated
  rw [List.append_nil, screen]
  rcases emulator_recoveryWrite dated bytes with read | read | read
  · rw [read]
    exact passes terminal.emulator
  · rw [read]
    exact passes terminal.emulator.lose
  · rw [read]
    rfl

theorem sends_flush : terminal.Sends [] terminal.flush.1 := by
  apply terminal.keeps_flush.sends
  intro dated
  rw [screen, emulator_flush dated, List.append_nil]
  rfl

theorem sends_recoveryFlush : terminal.Sends [] terminal.recoveryFlush.1 := by
  apply terminal.keeps_recoveryFlush.sends
  intro dated
  rw [screen, emulator_recoveryFlush dated, List.append_nil]
  rfl

theorem sends_flushOutsideUpdate : terminal.Sends [] terminal.flushOutsideUpdate.1 := by
  unfold flushOutsideUpdate
  split_ifs
  · exact Sends.refl terminal
  · exact terminal.sends_flush

theorem sends_saveLocally (locally : Bool) :
    terminal.Sends [] (terminal.saveLocally locally).1 := by
  cases locally with
  | true => exact terminal.sends_write passes_saveCursorBytes
  | false => exact Sends.refl terminal

theorem sends_recover (needed : Bool) {bytes : List UInt8} (passes : Passes bytes) :
    terminal.Sends [] (terminal.recover needed bytes).1 := by
  cases needed with
  | true => exact terminal.sends_recoveryWrite passes
  | false => exact Sends.refl terminal

/-- A clear that reports success was accepted. -/
theorem sends_clearAndHome :
    ∃ events, terminal.Sends events terminal.clearAndHome.1 ∧ Emulator.KeepCells events ∧
      (terminal.clearAndHome.2 = true → events = [.cleared]) := by
  have sent := (terminal.sends_write_events feed_clear).trans (sends_flushOutsideUpdate _)
  rw [List.append_nil] at sent
  refine ⟨_, sent, ?_, ?_⟩
  · split_ifs
    · simp [Emulator.KeepCells, ScreenEvent.keepsCells]
    · exact Emulator.keepCells_nil
  · intro succeeded
    simp only [clearAndHome, Bool.and_eq_true] at succeeded
    rw [if_pos succeeded.2]

theorem keeps_clearAndHome : terminal.Keeps terminal.clearAndHome.1 := by
  obtain ⟨_, sent, -⟩ := terminal.sends_clearAndHome
  exact sent.toKeeps

/-! ### Draws -/

variable {terminal}

/-- After a cursor move no open string can still be drawn as a whole, and the cell is known if
the move was accepted. -/
theorem emulator_move {bytes : List UInt8} {row column : Nat} (moves : MovesTo bytes row column)
    (dated : terminal.Dated) :
    ((terminal.write bytes).1.emulator.reading.isOpen = true →
        (terminal.write bytes).1.emulator.cursor = none) ∧
      ((terminal.write bytes).2 = true →
        (terminal.write bytes).1.emulator.reading.isOpen = false ∧
          (terminal.write bytes).1.emulator.cursor = some (row, column)) := by
  rw [emulator_write dated]
  cases (terminal.write bytes).2 with
  | true =>
      rw [if_pos rfl, moves terminal.emulator]
      exact ⟨(fun isOpen => by cases isOpen), fun _ => ⟨rfl, rfl⟩⟩
  | false => exact ⟨fun _ => rfl, fun accepted => by cases accepted⟩

theorem since_write {start : Emulator} (dated : terminal.Dated)
    (since : Emulator.Since start terminal.emulator) (bytes : List UInt8) :
    Emulator.Since start (terminal.write bytes).1.emulator := by
  rw [emulator_write dated]
  split_ifs
  · exact since.feed bytes
  · exact since.lose

theorem since_recoveryWrite {start : Emulator} (dated : terminal.Dated)
    (since : Emulator.Since start terminal.emulator) (bytes : List UInt8) :
    Emulator.Since start (terminal.recoveryWrite bytes).1.emulator := by
  rcases emulator_recoveryWrite dated bytes with read | read | read
  · rw [read]
    exact since.feed bytes
  · rw [read]
    exact since.lose.feed bytes
  · rw [read]
    exact since.lose.lose

/-- The chunks of a payload, as far as they are accepted. -/
theorem since_writeChunksFrom (bytes : List UInt8) (chunkBytes fuel : Nat) :
    ∀ {terminal : TerminalRenderer} {start : Emulator} (offset : Nat), terminal.Dated →
      Emulator.Since start terminal.emulator →
      Emulator.Since start (writeChunksFrom bytes chunkBytes fuel terminal offset).1.emulator := by
  induction fuel with
  | zero => exact fun _ _ since => since
  | succ fuel inductionHypothesis =>
      intro terminal start offset dated since
      simp only [writeChunksFrom]
      have written := since_write dated since ((bytes.drop offset).take chunkBytes)
      have later := (terminal.keeps_write ((bytes.drop offset).take chunkBytes)).dated dated
      split_ifs
      · exact inductionHypothesis _ later written
      · exact since_recoveryWrite later written _
      · exact written
      · exact since

theorem since_writeChunks (dated : terminal.Dated)
    (settled : terminal.emulator.reading.isOpen = true → terminal.emulator.cursor = none)
    (bytes : List UInt8) (chunkBytes : Nat) :
    Emulator.Since terminal.emulator (terminal.writeChunks bytes chunkBytes).1.emulator := by
  have start := Emulator.since_self settled
  unfold writeChunks
  split_ifs
  · exact since_write dated start bytes
  · exact since_writeChunksFrom bytes chunkBytes _ _ dated start

/-- Chunks that are all accepted arrive as the bytes they were cut from. -/
theorem emulator_writeChunksFrom {bytes : List UInt8} {chunkBytes : Nat}
    (positive : 0 < chunkBytes) (fuel : Nat) :
    ∀ {terminal : TerminalRenderer} (offset : Nat), terminal.Dated →
      bytes.length ≤ offset + fuel →
      (writeChunksFrom bytes chunkBytes fuel terminal offset).2 = true →
      (writeChunksFrom bytes chunkBytes fuel terminal offset).1.emulator =
        terminal.emulator.feed (bytes.drop offset) := by
  induction fuel with
  | zero =>
      intro terminal offset _ enough _
      rw [List.drop_eq_nil_of_le (by omega)]
      rfl
  | succ fuel inductionHypothesis =>
      intro terminal offset dated enough succeeded
      simp only [writeChunksFrom] at succeeded ⊢
      by_cases inside : offset < bytes.length
      · rw [if_pos inside] at succeeded ⊢
        set chunk := (bytes.drop offset).take chunkBytes with chunkEq
        have size : chunk.length = min chunkBytes (bytes.length - offset) := by simp [chunk]
        by_cases taken : (terminal.write chunk).2 = true
        · rw [if_pos taken] at succeeded ⊢
          have rest := inductionHypothesis (offset + chunk.length)
            ((terminal.keeps_write chunk).dated dated) (by omega) succeeded
          rw [rest, emulator_write dated, if_pos taken, ← Emulator.feed_append]
          congr 1
          rw [← List.drop_drop, chunkEq, List.length_take, List.take_eq_take_min]
          exact List.take_append_drop _ _
        · rw [if_neg taken] at succeeded
          split_ifs at succeeded
      · rw [if_neg inside, List.drop_eq_nil_of_le (Nat.le_of_not_lt inside)]
        rfl

theorem emulator_writeChunks (dated : terminal.Dated) {bytes : List UInt8} {chunkBytes : Nat}
    (succeeded : (terminal.writeChunks bytes chunkBytes).2 = true) :
    (terminal.writeChunks bytes chunkBytes).1.emulator = terminal.emulator.feed bytes := by
  unfold writeChunks at succeeded ⊢
  by_cases single : chunkBytes = 0 ∨ bytes.length ≤ chunkBytes
  · rw [if_pos single] at succeeded ⊢
    rw [emulator_write dated, if_pos succeeded]
  · rw [if_neg single] at succeeded ⊢
    exact emulator_writeChunksFrom (by omega) _ 0 dated (by omega) succeeded

/-- A cursor move and a payload: nothing but something new, and if both were accepted the
control string at its cell. -/
theorem sends_drawn {move : List UInt8} {row column : Nat} (moves : MovesTo move row column)
    (payload : List UInt8) (chunkBytes : Nat) :
    ∃ events, terminal.Sends events ((terminal.write move).1.writeChunks payload chunkBytes).1 ∧
      Emulator.KeepCells events ∧
      (IsControlString payload → (terminal.write move).2 = true →
        ((terminal.write move).1.writeChunks payload chunkBytes).2 = true →
          events = [.drawn row column payload true]) := by
  have moved := terminal.sends_write moves.passes
  have keeps := moved.toKeeps.trans ((terminal.write move).1.keeps_writeChunks payload chunkBytes)
  by_cases dated : terminal.Dated
  · have later := moved.dated dated
    obtain ⟨settled, known⟩ := emulator_move moves dated
    have same : (terminal.write move).1.screen = terminal.screen := by
      rw [moved.screen dated, List.append_nil]
    obtain ⟨events, grown, keep⟩ := (since_writeChunks later settled payload chunkBytes).screen
    refine ⟨events, keeps.sends fun _ => ?_, keep, ?_⟩
    · rw [← same]
      exact grown
    · intro framed taken succeeded
      obtain ⟨ready, cell⟩ := known taken
      rw [emulator_writeChunks later succeeded, Emulator.feed_controlString framed ready cell]
        at grown
      have start : (terminal.write move).1.emulator.screen =
          (terminal.write move).1.emulator.events := by simp [Emulator.screen, Emulator.pending, ready]
      rw [start] at grown
      exact (List.append_cancel_left (grown.symm.trans (List.append_nil _)))
  · exact ⟨[.drawn row column payload true], keeps.sends fun holds => absurd holds dated,
      by simp [Emulator.KeepCells, ScreenEvent.keepsCells], fun _ _ _ => rfl⟩

variable (terminal)

/-- A draw at home that reports success. -/
theorem sends_drawAtHome (sixel : List UInt8) (restoreCursor : Bool) (chunkBytes : Nat) :
    ∃ events, terminal.Sends events (terminal.drawAtHome sixel restoreCursor chunkBytes).1 ∧
      Emulator.KeepCells events ∧
      (IsControlString sixel →
        (terminal.drawAtHome sixel restoreCursor chunkBytes).2 = true →
          events = [.drawn 0 0 sixel true]) := by
  set display := ((terminal.saveLocally (restoreCursor && !terminal.updateActive)).1.write
    (ascii "\x1b[?80h")).1 with displayEq
  obtain ⟨events, drawn, keep, same⟩ := @sends_drawn display _ 0 0 movesTo_home sixel chunkBytes
  have opens : terminal.Sends [] display :=
    (terminal.sends_saveLocally _).trans (sends_write _ passes_displayOn)
  have whole := (((opens.trans drawn).trans (sends_recoveryWrite _ passes_displayOff)).trans
    (sends_recover _ (restoreCursor && !terminal.updateActive) passes_restoreCursorBytes)).trans
    (sends_flushOutsideUpdate _)
  rw [List.nil_append, List.append_nil, List.append_nil, List.append_nil] at whole
  refine ⟨events, whole, keep, ?_⟩
  intro framed succeeded
  simp only [drawAtHome, Bool.and_eq_true] at succeeded
  exact same framed succeeded.1.1.2 succeeded.1.1.1.2

theorem sends_drawAtCell (row column : Nat) (sixel : List UInt8) (restoreCursor : Bool)
    (chunkBytes : Nat) :
    ∃ events, terminal.Sends events
        (terminal.drawAtCell row column sixel restoreCursor chunkBytes).1 ∧
      Emulator.KeepCells events ∧
      (IsControlString sixel →
        (terminal.drawAtCell row column sixel restoreCursor chunkBytes).2 = true →
          events = [.drawn row column sixel true]) := by
  set saved := (terminal.saveLocally (restoreCursor && !terminal.updateActive)).1
  obtain ⟨events, drawn, keep, same⟩ :=
    @sends_drawn saved _ row column (movesTo_cursorBytes row column) sixel chunkBytes
  have whole := (((terminal.sends_saveLocally _).trans drawn).trans
    (sends_recover _ (restoreCursor && !terminal.updateActive) passes_restoreCursorBytes)).trans
    (sends_flushOutsideUpdate _)
  rw [List.nil_append, List.append_nil, List.append_nil] at whole
  refine ⟨events, whole, keep, ?_⟩
  intro framed succeeded
  simp only [drawAtCell, Bool.and_eq_true] at succeeded
  exact same framed succeeded.1.2 succeeded.1.1.2

/-- The cells change; whatever is still open goes on after that. -/
theorem extends_resize (cells : TerminalCellPixels) :
    terminal.Extends (.resized cells :: terminal.emulator.pending) (terminal.resize cells) := by
  refine ⟨⟨List.prefix_refl _, rfl, rfl⟩, ?_, ?_⟩
  · intro _ resize member
    rw [← Option.some.inj member]
    exact le_refl terminal.sink.calls.length
  · intro _
    show (Emulator.after _ _).screen = _
    rw [resize, Emulator.after_resize, Emulator.screen, Emulator.resize, List.append_assoc]
    rfl

/-! ### Updates -/

/-- Only flags differ. -/
private theorem Extends.of_sent {before sent after : TerminalRenderer} {events : List ScreenEvent}
    (grown : before.Extends events sent) (sink : after.sink = sent.sink)
    (alternate : after.usesAlternateScreen = sent.usesAlternateScreen)
    (resizes : after.resizes = sent.resizes) : before.Extends events after := by
  have same : after.emulator = sent.emulator := by
    unfold TerminalRenderer.emulator
    rw [sink, resizes]
  refine ⟨⟨?_, ?_, alternate.trans grown.usesAlternateScreen⟩, ?_, ?_⟩
  · rw [sink]
    exact grown.calls
  · rw [sink]
    exact grown.responses
  · unfold Dated
    rw [resizes, sink]
    exact grown.dated
  · show before.Dated → after.emulator.screen = before.screen ++ events
    rw [same]
    exact grown.screen

theorem extends_synchronize (wanted : Bool) :
    terminal.Extends [] (terminal.synchronize wanted).1 := by
  cases wanted with
  | true =>
      exact (terminal.sends_write passes_synchronizedOn).toExtends.of_sent rfl rfl rfl
  | false => exact Extends.refl terminal

theorem extends_saveCursor (wanted : Bool) :
    terminal.Extends [] (terminal.saveCursor wanted).1 := by
  cases wanted with
  | true =>
      exact (terminal.sends_write passes_saveCursorBytes).toExtends.of_sent rfl rfl rfl
  | false => exact Extends.refl terminal

theorem extends_openUpdate : terminal.Extends [] terminal.openUpdate :=
  (Extends.refl terminal).of_sent rfl rfl rfl

theorem extends_closeUpdate : terminal.Extends [] terminal.closeUpdate :=
  (Extends.refl terminal).of_sent rfl rfl rfl

theorem extends_beginSynchronizedUpdate (preserveCursor synchronizedOutput : Bool) :
    terminal.Extends [] (terminal.beginSynchronizedUpdate preserveCursor synchronizedOutput).1 := by
  unfold beginSynchronizedUpdate
  by_cases active : terminal.updateActive
  · rw [if_pos active]
    exact Extends.refl terminal
  · rw [if_neg active]
    exact (terminal.extends_openUpdate.trans (extends_synchronize _ _)).trans
      (extends_saveCursor _ _)

theorem extends_endSynchronizedUpdate :
    terminal.Extends [] terminal.endSynchronizedUpdate.1 := by
  unfold endSynchronizedUpdate
  by_cases active : terminal.updateActive
  · rw [active, Bool.not_true, if_neg Bool.false_ne_true]
    exact (((terminal.sends_recover _ passes_restoreCursorBytes).toExtends.trans
      (sends_recover _ _ passes_synchronizedOff).toExtends).trans
      (sends_recoveryFlush _).toExtends).trans (extends_closeUpdate _)
  · rw [Bool.not_eq_true] at active
    rw [active, Bool.not_false, if_pos rfl]
    exact Extends.refl terminal

/-- Every update is closed again, whatever was refused. -/
theorem updateActive_endSynchronizedUpdate :
    terminal.endSynchronizedUpdate.1.updateActive = false := by
  unfold endSynchronizedUpdate
  by_cases active : terminal.updateActive
  · rw [active, Bool.not_true, if_neg Bool.false_ne_true]
    rfl
  · rw [Bool.not_eq_true] at active
    rw [active, Bool.not_false, if_pos rfl]
    exact active

/-! ### Construction and destruction -/

/-- The constructor sends its modes outside any update; on the alternate screen it starts with
a picture of which nothing is known. -/
theorem sends_create (sink : OutputSink) (useAlternateScreen : Bool) :
    ∃ events, Sends { sink := sink, usesAlternateScreen := useAlternateScreen } events
        (create sink useAlternateScreen) ∧ Emulator.KeepCells events := by
  have entered : ∃ events, Sends { sink := sink, usesAlternateScreen := useAlternateScreen } events
      (if useAlternateScreen then
        (write { sink := sink, usesAlternateScreen := useAlternateScreen }
          (ascii "\x1b[?1049h")).1
      else { sink := sink, usesAlternateScreen := useAlternateScreen }) ∧
      Emulator.KeepCells events := by
    by_cases alternate : useAlternateScreen = true
    · rw [if_pos alternate]
      refine ⟨_, sends_write_events _ fun emulator =>
        feed_alternate emulator 0x68 (Or.inl rfl), ?_⟩
      split_ifs
      · simp [Emulator.KeepCells, ScreenEvent.keepsCells]
      · exact Emulator.keepCells_nil
    · rw [if_neg alternate]
      exact ⟨[], Sends.refl _, Emulator.keepCells_nil⟩
  obtain ⟨events, sent, keep⟩ := entered
  have whole := ((sent.trans (sends_write _ passes_cursorHidden)).trans
    (sends_write _ passes_displayOff)).trans (sends_flush _)
  rw [List.append_nil, List.append_nil, List.append_nil] at whole
  exact ⟨events, whole, keep⟩

theorem keeps_create (sink : OutputSink) (useAlternateScreen : Bool) :
    Keeps { sink := sink, usesAlternateScreen := useAlternateScreen }
      (create sink useAlternateScreen) := by
  obtain ⟨_, sent, -⟩ := sends_create sink useAlternateScreen
  exact sent.toKeeps

theorem dated_create (sink : OutputSink) (useAlternateScreen : Bool) :
    (create sink useAlternateScreen).Dated :=
  (keeps_create sink useAlternateScreen).dated fun _ none => by cases none

/-- Whatever went through the sink before, no byte changes the cells. -/
theorem keepCells_screen_create (sink : OutputSink) (useAlternateScreen : Bool) :
    Emulator.KeepCells (create sink useAlternateScreen).screen := by
  have kept := (keeps_create sink useAlternateScreen).resizes
  have read : (create sink useAlternateScreen).emulator =
      (create sink useAlternateScreen).sink.calls.foldl Emulator.receive {} := by
    rw [emulator, kept]
    rfl
  rw [screen, read]
  exact Emulator.keepCells_calls _

theorem grows_destroy : terminal.Grows terminal.destroy :=
  ((terminal.extends_endSynchronizedUpdate.toGrows.trans (keeps_recoveryWrite _ _).toGrows).trans
    (keeps_recover _ _ _).toGrows).trans (keeps_recoveryFlush _).toGrows

end TerminalRenderer

end Rasterm
