import Rasterm.Output.TerminalRenderer

/-!
Contract: `acceptedBytes()` against the bytes the sink took.

Owns the account of every operation: what it adds to the counter and what the
sink accepted without being counted, the second attempts of recovery sequences.
-/

set_option autoImplicit false

namespace Rasterm

/-- A refused recovery sequence that the sink took at the second attempt. -/
def SinkCall.retryAccepted : SinkCall → Bool
  | write .retry _ accepted => accepted
  | _ => false

/-- The bytes delivered by the calls. -/
def deliveredBytes (calls : List SinkCall) : Nat := (calls.flatMap SinkCall.delivered).length

/-- The bytes delivered by second attempts. -/
def retriedBytes (calls : List SinkCall) : Nat :=
  deliveredBytes (calls.filter SinkCall.retryAccepted)

@[simp] theorem deliveredBytes_append (left right : List SinkCall) :
    deliveredBytes (left ++ right) = deliveredBytes left + deliveredBytes right := by
  simp [deliveredBytes]

@[simp] theorem retriedBytes_append (left right : List SinkCall) :
    retriedBytes (left ++ right) = retriedBytes left + retriedBytes right := by
  simp [retriedBytes]

/-- A second attempt is never counted. -/
theorem retriedBytes_retry (bytes : List UInt8) (accepted : Bool) :
    retriedBytes [.write .retry bytes accepted] = deliveredBytes [.write .retry bytes accepted] := by
  cases accepted <;> rfl

theorem retriedBytes_le (calls : List SinkCall) : retriedBytes calls ≤ deliveredBytes calls := by
  induction calls with
  | nil => exact le_refl _
  | cons call calls inductionHypothesis =>
      have first : retriedBytes [call] ≤ deliveredBytes [call] := by
        cases call with
        | write purpose bytes accepted =>
            cases purpose with
            | retry => exact (retriedBytes_retry bytes accepted).le
            | ordinary => exact Nat.zero_le _
            | recovery => exact Nat.zero_le _
        | flush purpose succeeded => exact Nat.zero_le _
      rw [← List.singleton_append, retriedBytes_append, deliveredBytes_append]
      exact Nat.add_le_add first inductionHypothesis

/-- Second attempts are made of sequences that are not empty. -/
def RetriesSomething (calls : List SinkCall) : Prop :=
  ∀ call ∈ calls, call.retryAccepted = true → call.delivered ≠ []

theorem retriedBytes_eq_zero_iff {calls : List SinkCall} (something : RetriesSomething calls) :
    retriedBytes calls = 0 ↔ ∀ call ∈ calls, call.retryAccepted = false := by
  rw [retriedBytes, deliveredBytes, List.length_eq_zero_iff, List.flatMap_eq_nil_iff]
  constructor
  · intro none call member
    by_contra accepted
    rw [Bool.not_eq_false] at accepted
    exact something call member accepted (none call (List.mem_filter.mpr ⟨member, accepted⟩))
  · intro refused call member
    obtain ⟨inside, accepted⟩ := List.mem_filter.mp member
    rw [refused call inside] at accepted
    cases accepted

namespace TerminalRenderer

/-- The calls between two states, and the counter: it grows by what was delivered, short of the
second attempts. -/
structure Counts (before after : TerminalRenderer) (made : List SinkCall) : Prop where
  calls : after.sink.calls = before.sink.calls ++ made
  account : after.totalAcceptedBytes + retriedBytes made =
    before.totalAcceptedBytes + deliveredBytes made
  something : RetriesSomething made

/-- Some calls were made, and the account of them is kept. -/
def Counted (before after : TerminalRenderer) : Prop := ∃ made, Counts before after made

theorem Counted.refl (terminal : TerminalRenderer) : Counted terminal terminal :=
  ⟨[], (List.append_nil _).symm, rfl, fun _ member => absurd member List.not_mem_nil⟩

theorem Counted.trans {first second third : TerminalRenderer} (head : Counted first second)
    (tail : Counted second third) : Counted first third := by
  obtain ⟨earlier, callsEarlier, accountEarlier, somethingEarlier⟩ := head
  obtain ⟨later, callsLater, accountLater, somethingLater⟩ := tail
  refine ⟨earlier ++ later, ?_, ?_, ?_⟩
  · rw [callsLater, callsEarlier, List.append_assoc]
  · rw [retriedBytes_append, deliveredBytes_append]
    omega
  · intro call member
    rcases List.mem_append.mp member with before | after
    · exact somethingEarlier call before
    · exact somethingLater call after

/-- Flags, errors and the log of the picture are not counted. -/
theorem Counted.congr {before before' after after' : TerminalRenderer}
    (counted : Counted before after) (callsBefore : before'.sink.calls = before.sink.calls)
    (totalBefore : before'.totalAcceptedBytes = before.totalAcceptedBytes)
    (callsAfter : after'.sink.calls = after.sink.calls)
    (totalAfter : after'.totalAcceptedBytes = after.totalAcceptedBytes) :
    Counted before' after' := by
  obtain ⟨made, calls, account, something⟩ := counted
  refine ⟨made, ?_, ?_, something⟩
  · rw [callsAfter, callsBefore, calls]
  · rw [totalAfter, totalBefore, account]

/-- The counter is exact when, and only when, no second attempt was accepted. -/
theorem Counts.exact_iff {before after : TerminalRenderer} {made : List SinkCall}
    (counts : Counts before after made) :
    after.totalAcceptedBytes = before.totalAcceptedBytes + deliveredBytes made ↔
      ∀ call ∈ made, call.retryAccepted = false := by
  rw [← retriedBytes_eq_zero_iff counts.something]
  have account := counts.account
  omega

variable (terminal : TerminalRenderer)

/-! ### Writes and flushes -/

theorem counted_write (bytes : List UInt8) : Counted terminal (terminal.write bytes).1 := by
  refine ⟨[.write .ordinary bytes (terminal.sink.write .ordinary bytes).2], ?_, ?_, ?_⟩
  · simp only [write]
    split_ifs <;> rfl
  · simp only [write]
    split_ifs with accepted
    · rw [accepted]
      simp [retriedBytes, deliveredBytes, SinkCall.retryAccepted, SinkCall.delivered]
    · rw [Bool.not_eq_true] at accepted
      rw [accepted]
      rfl
  · simp [RetriesSomething, SinkCall.retryAccepted]

theorem counted_recoveryWrite {bytes : List UInt8} (some : bytes ≠ []) :
    Counted terminal (terminal.recoveryWrite bytes).1 := by
  simp only [recoveryWrite]
  split_ifs with accepted
  · refine ⟨[.write .recovery bytes (terminal.sink.write .recovery bytes).2], rfl, ?_, ?_⟩
    · simp [retriedBytes, deliveredBytes, SinkCall.retryAccepted, SinkCall.delivered, accepted]
    · simp [RetriesSomething, SinkCall.retryAccepted]
  · refine ⟨[.write .recovery bytes (terminal.sink.write .recovery bytes).2,
      .write .retry bytes ((terminal.sink.write .recovery bytes).1.write .retry bytes).2],
      ?_, ?_, ?_⟩
    · simp [OutputSink.write]
    · rw [Bool.not_eq_true] at accepted
      rw [accepted, ← List.singleton_append, retriedBytes_append, deliveredBytes_append,
        retriedBytes_retry]
      rfl
    · cases retried : ((terminal.sink.write .recovery bytes).1.write .retry bytes).2 <;>
        simp [RetriesSomething, SinkCall.retryAccepted, SinkCall.delivered, some]

theorem counted_flush : Counted terminal terminal.flush.1 := by
  refine ⟨[.flush .ordinary (terminal.sink.flush .ordinary).2], ?_, ?_, ?_⟩
  · simp only [flush]
    split_ifs <;> rfl
  · simp only [flush]
    split_ifs <;> rfl
  · simp [RetriesSomething, SinkCall.retryAccepted]

theorem counted_recoveryFlush : Counted terminal terminal.recoveryFlush.1 := by
  simp only [recoveryFlush]
  split_ifs with done
  · refine ⟨[.flush .recovery (terminal.sink.flush .recovery).2], rfl, rfl, ?_⟩
    simp [RetriesSomething, SinkCall.retryAccepted]
  · refine ⟨[.flush .recovery (terminal.sink.flush .recovery).2,
      .flush .retry ((terminal.sink.flush .recovery).1.flush .retry).2], ?_, rfl, ?_⟩
    · simp [OutputSink.flush]
    · simp [RetriesSomething, SinkCall.retryAccepted]

theorem counted_flushOutsideUpdate : Counted terminal terminal.flushOutsideUpdate.1 := by
  unfold flushOutsideUpdate
  split_ifs
  · exact Counted.refl terminal
  · exact terminal.counted_flush

theorem counted_saveLocally (locally : Bool) :
    Counted terminal (terminal.saveLocally locally).1 := by
  cases locally with
  | true => exact terminal.counted_write _
  | false => exact Counted.refl terminal

theorem counted_recover (needed : Bool) {bytes : List UInt8} (some : bytes ≠ []) :
    Counted terminal (terminal.recover needed bytes).1 := by
  cases needed with
  | true => exact terminal.counted_recoveryWrite some
  | false => exact Counted.refl terminal

theorem counted_writeChunksFrom (bytes : List UInt8) (chunkBytes fuel offset : Nat) :
    Counted terminal (writeChunksFrom bytes chunkBytes fuel terminal offset).1 := by
  induction fuel generalizing terminal offset with
  | zero => exact Counted.refl terminal
  | succ fuel inductionHypothesis =>
      simp only [writeChunksFrom]
      have first := terminal.counted_write ((bytes.drop offset).take chunkBytes)
      split_ifs
      · exact first.trans (inductionHypothesis _ _)
      · exact first.trans (counted_recoveryWrite _ (by decide +kernel))
      · exact first
      · exact Counted.refl terminal

theorem counted_writeChunks (bytes : List UInt8) (chunkBytes : Nat) :
    Counted terminal (terminal.writeChunks bytes chunkBytes).1 := by
  unfold writeChunks
  split_ifs
  · exact terminal.counted_write bytes
  · exact terminal.counted_writeChunksFrom bytes chunkBytes _ _

/-! ### Operations -/

theorem restoreCursorBytes_ne_nil : restoreCursorBytes ≠ [] := by decide +kernel

theorem counted_clearAndHome : Counted terminal terminal.clearAndHome.1 :=
  (terminal.counted_write _).trans (counted_flushOutsideUpdate _)

theorem counted_drawAtHome (sixel : List UInt8) (restoreCursor : Bool) (chunkBytes : Nat) :
    Counted terminal (terminal.drawAtHome sixel restoreCursor chunkBytes).1 :=
  ((((((terminal.counted_saveLocally _).trans (counted_write _ _)).trans
    (counted_write _ _)).trans (counted_writeChunks _ _ _)).trans
    (counted_recoveryWrite _ (by decide +kernel))).trans
    (counted_recover _ _ restoreCursorBytes_ne_nil)).trans (counted_flushOutsideUpdate _)

theorem counted_drawAtCell (row column : Nat) (sixel : List UInt8) (restoreCursor : Bool)
    (chunkBytes : Nat) :
    Counted terminal (terminal.drawAtCell row column sixel restoreCursor chunkBytes).1 :=
  ((((terminal.counted_saveLocally _).trans (counted_write _ _)).trans
    (counted_writeChunks _ _ _)).trans
    (counted_recover _ _ restoreCursorBytes_ne_nil)).trans (counted_flushOutsideUpdate _)

theorem counted_synchronize (wanted : Bool) :
    Counted terminal (terminal.synchronize wanted).1 := by
  cases wanted with
  | true => exact (terminal.counted_write (ascii "\x1b[?2026h")).congr rfl rfl rfl rfl
  | false => exact Counted.refl terminal

theorem counted_saveCursor (wanted : Bool) : Counted terminal (terminal.saveCursor wanted).1 := by
  cases wanted with
  | true => exact (terminal.counted_write saveCursorBytes).congr rfl rfl rfl rfl
  | false => exact Counted.refl terminal

theorem counted_beginSynchronizedUpdate (preserveCursor synchronizedOutput : Bool) :
    Counted terminal
      (terminal.beginSynchronizedUpdate preserveCursor synchronizedOutput).1 := by
  unfold beginSynchronizedUpdate
  by_cases active : terminal.updateActive
  · rw [if_pos active]
    exact Counted.refl terminal
  · rw [if_neg active]
    have opened : Counted terminal terminal.openUpdate :=
      (Counted.refl terminal).congr rfl rfl rfl rfl
    exact (opened.trans (counted_synchronize _ _)).trans (counted_saveCursor _ _)

theorem counted_endSynchronizedUpdate : Counted terminal terminal.endSynchronizedUpdate.1 := by
  unfold endSynchronizedUpdate
  by_cases active : terminal.updateActive
  · rw [active, Bool.not_true, if_neg Bool.false_ne_true]
    have flushed := ((terminal.counted_recover terminal.restoreCursorAfterUpdate
      restoreCursorBytes_ne_nil).trans (counted_recover _ terminal.synchronizedUpdateActive
        (show ascii "\x1b[?2026l" ≠ [] by decide +kernel))).trans (counted_recoveryFlush _)
    exact flushed.congr rfl rfl rfl rfl
  · rw [Bool.not_eq_true] at active
    rw [active, Bool.not_false, if_pos rfl]
    exact Counted.refl terminal

theorem counted_create (sink : OutputSink) (useAlternateScreen : Bool) :
    Counted { sink := sink } (create sink useAlternateScreen) := by
  have entered : Counted { sink := sink }
      (if useAlternateScreen then
        (write { sink := sink, usesAlternateScreen := useAlternateScreen }
          (ascii "\x1b[?1049h")).1
      else { sink := sink, usesAlternateScreen := useAlternateScreen }) := by
    split_ifs
    · exact (counted_write { sink := sink, usesAlternateScreen := useAlternateScreen }
        _).congr rfl rfl rfl rfl
    · exact (Counted.refl { sink := sink }).congr rfl rfl rfl rfl
  exact ((entered.trans (counted_write _ _)).trans (counted_write _ _)).trans (counted_flush _)

/-! ### Sequences of operations -/

inductive Operation where
  | beginSynchronizedUpdate (preserveCursor synchronizedOutput : Bool)
  | endSynchronizedUpdate
  | clearAndHome
  | drawAtHome (sixel : List UInt8) (restoreCursor : Bool) (chunkBytes : Nat)
  | drawAtCell (row column : Nat) (sixel : List UInt8) (restoreCursor : Bool) (chunkBytes : Nat)

def perform (terminal : TerminalRenderer) : Operation → TerminalRenderer
  | .beginSynchronizedUpdate preserveCursor synchronizedOutput =>
      (terminal.beginSynchronizedUpdate preserveCursor synchronizedOutput).1
  | .endSynchronizedUpdate => terminal.endSynchronizedUpdate.1
  | .clearAndHome => terminal.clearAndHome.1
  | .drawAtHome sixel restoreCursor chunkBytes =>
      (terminal.drawAtHome sixel restoreCursor chunkBytes).1
  | .drawAtCell row column sixel restoreCursor chunkBytes =>
      (terminal.drawAtCell row column sixel restoreCursor chunkBytes).1

def performAll (terminal : TerminalRenderer) (operations : List Operation) : TerminalRenderer :=
  operations.foldl perform terminal

theorem counted_perform (operation : Operation) :
    Counted terminal (terminal.perform operation) := by
  cases operation with
  | beginSynchronizedUpdate preserveCursor synchronizedOutput =>
      exact terminal.counted_beginSynchronizedUpdate preserveCursor synchronizedOutput
  | endSynchronizedUpdate => exact terminal.counted_endSynchronizedUpdate
  | clearAndHome => exact terminal.counted_clearAndHome
  | drawAtHome sixel restoreCursor chunkBytes =>
      exact terminal.counted_drawAtHome sixel restoreCursor chunkBytes
  | drawAtCell row column sixel restoreCursor chunkBytes =>
      exact terminal.counted_drawAtCell row column sixel restoreCursor chunkBytes

theorem counted_performAll (operations : List Operation) :
    Counted terminal (terminal.performAll operations) := by
  induction operations generalizing terminal with
  | nil => exact Counted.refl terminal
  | cons operation operations inductionHypothesis =>
      exact (terminal.counted_perform operation).trans (inductionHypothesis _)

end TerminalRenderer

end Rasterm
