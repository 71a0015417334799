import Rasterm.Output.Emulator

/-!
Contract: `TerminalRenderer`: control sequences, chunked payloads, synchronized
updates and their recovery after refused writes.

Owns what every operation sends, returns and leaves behind. `resizes` dates the
changes of the cell size by the number of calls made before; no byte announces
them, and the code does not have it. Everything else that happens to the picture is
read from the calls of the sink.
-/

set_option autoImplicit false

namespace Rasterm

open Decimal

structure TerminalRenderer where
  sink : OutputSink
  usesAlternateScreen : Bool := false
  updateActive : Bool := false
  restoreCursorAfterUpdate : Bool := false
  synchronizedUpdateActive : Bool := false
  lastError : ErrorCode := .none
  totalAcceptedBytes : Nat := 0
  resizes : List (Nat × TerminalCellPixels) := []

namespace TerminalRenderer

def saveCursorBytes : List UInt8 := ascii "\x1b7"

def restoreCursorBytes : List UInt8 := ascii "\x1b8"

/-- `ESC [ row ; column H`, counted from 1. -/
def cursorBytes (row column : Nat) : List UInt8 :=
  ascii "\x1b[" ++ numeral (row + 1) ++ ascii ";" ++ numeral (column + 1) ++ ascii "H"

def good (terminal : TerminalRenderer) : Bool := terminal.lastError = .none

/-- The cells have another size from here on. -/
def resize (terminal : TerminalRenderer) (cells : TerminalCellPixels) : TerminalRenderer :=
  { terminal with resizes := (terminal.sink.calls.length, cells) :: terminal.resizes }

/-- The terminal that has read what the sink accepted. -/
def emulator (terminal : TerminalRenderer) : Emulator :=
  Emulator.after terminal.sink.calls terminal.resizes

/-- What has happened to the picture. -/
def screen (terminal : TerminalRenderer) : List ScreenEvent := terminal.emulator.screen

/-! ### Writes and flushes -/

def write (terminal : TerminalRenderer) (bytes : List UInt8) : TerminalRenderer × Bool :=
  let attempt := terminal.sink.write .ordinary bytes
  if attempt.2 then
    ({ terminal with
        sink := attempt.1
        totalAcceptedBytes := terminal.totalAcceptedBytes + bytes.length }, true)
  else ({ terminal with sink := attempt.1, lastError := .outputWriteFailed }, false)

/-- Recovery keeps the first error. -/
def firstError (terminal : TerminalRenderer) (error : ErrorCode) : ErrorCode :=
  if terminal.lastError = .none then error else terminal.lastError

/-- A recovery sequence is attempted twice; only the first attempt is reported. -/
def recoveryWrite (terminal : TerminalRenderer) (bytes : List UInt8) : TerminalRenderer × Bool :=
  let attempt := terminal.sink.write .recovery bytes
  if attempt.2 then
    ({ terminal with
        sink := attempt.1
        totalAcceptedBytes := terminal.totalAcceptedBytes + bytes.length }, true)
  else
    ({ terminal with
        sink := (attempt.1.write .retry bytes).1
        lastError := terminal.firstError .outputWriteFailed }, false)

def flush (terminal : TerminalRenderer) : TerminalRenderer × Bool :=
  let attempt := terminal.sink.flush .ordinary
  if attempt.2 then ({ terminal with sink := attempt.1 }, true)
  else ({ terminal with sink := attempt.1, lastError := .outputFlushFailed }, false)

def recoveryFlush (terminal : TerminalRenderer) : TerminalRenderer × Bool :=
  let attempt := terminal.sink.flush .recovery
  if attempt.2 then ({ terminal with sink := attempt.1 }, true)
  else
    ({ terminal with
        sink := (attempt.1.flush .retry).1
        lastError := terminal.firstError .outputFlushFailed }, false)

/-- The loop of `writeChunks`; each round takes at least one byte. -/
def writeChunksFrom (bytes : List UInt8) (chunkBytes : Nat) :
    Nat → TerminalRenderer → Nat → TerminalRenderer × Bool
  | 0, terminal, _ => (terminal, true)
  | fuel + 1, terminal, offset =>
      if offset < bytes.length then
        let chunk := (bytes.drop offset).take chunkBytes
        let attempt := terminal.write chunk
        if attempt.2 then writeChunksFrom bytes chunkBytes fuel attempt.1 (offset + chunk.length)
        else if offset > 0 then ((attempt.1.recoveryWrite (ascii "\x1b\\")).1, false)
        else (attempt.1, false)
      else (terminal, true)

def writeChunks (terminal : TerminalRenderer) (bytes : List UInt8) (chunkBytes : Nat) :
    TerminalRenderer × Bool :=
  if chunkBytes = 0 ∨ bytes.length ≤ chunkBytes then terminal.write bytes
  else writeChunksFrom bytes chunkBytes bytes.length terminal 0

/-! ### Updates and drawing -/

/-- Outside an update every operation flushes. -/
def flushOutsideUpdate (terminal : TerminalRenderer) : TerminalRenderer × Bool :=
  if terminal.updateActive then (terminal, true) else terminal.flush

def clearAndHome (terminal : TerminalRenderer) : TerminalRenderer × Bool :=
  let cleared := terminal.write (ascii "\x1b[2J\x1b[H")
  let flushed := cleared.1.flushOutsideUpdate
  (flushed.1, flushed.2 && cleared.2)

/-- The flags an update starts with. -/
def openUpdate (terminal : TerminalRenderer) : TerminalRenderer :=
  { terminal with
    lastError := .none
    updateActive := true
    restoreCursorAfterUpdate := false
    synchronizedUpdateActive := false }

def closeUpdate (terminal : TerminalRenderer) : TerminalRenderer :=
  { terminal with
    updateActive := false
    restoreCursorAfterUpdate := false
    synchronizedUpdateActive := false }

/-- Synchronized output is active only if its sequence was accepted. -/
def synchronize (terminal : TerminalRenderer) (wanted : Bool) : TerminalRenderer × Bool :=
  if wanted then
    let attempt := terminal.write (ascii "\x1b[?2026h")
    ({ attempt.1 with synchronizedUpdateActive := attempt.2 }, attempt.2)
  else (terminal, true)

/-- The cursor is restored later only if it was saved. -/
def saveCursor (terminal : TerminalRenderer) (wanted : Bool) : TerminalRenderer × Bool :=
  if wanted then
    let attempt := terminal.write saveCursorBytes
    ({ attempt.1 with restoreCursorAfterUpdate := attempt.2 }, attempt.2)
  else (terminal, true)

def beginSynchronizedUpdate (terminal : TerminalRenderer)
    (preserveCursor synchronizedOutput : Bool) : TerminalRenderer × Bool :=
  if terminal.updateActive then (terminal, terminal.good)
  else
    let synchronized := terminal.openUpdate.synchronize synchronizedOutput
    let saved := synchronized.1.saveCursor preserveCursor
    (saved.1, saved.2 && synchronized.2)

/-- Undo a mode or a saved cursor, if there is something to undo. -/
def recover (terminal : TerminalRenderer) (needed : Bool) (bytes : List UInt8) :
    TerminalRenderer × Bool :=
  if needed then terminal.recoveryWrite bytes else (terminal, true)

def endSynchronizedUpdate (terminal : TerminalRenderer) : TerminalRenderer × Bool :=
  if !terminal.updateActive then (terminal, terminal.good)
  else
    let restored := terminal.recover terminal.restoreCursorAfterUpdate restoreCursorBytes
    let ended := restored.1.recover terminal.synchronizedUpdateActive (ascii "\x1b[?2026l")
    let flushed := ended.1.recoveryFlush
    (flushed.1.closeUpdate, flushed.2 && ended.2 && restored.2)

/-- Save the cursor where a draw has to restore it by itself. -/
def saveLocally (terminal : TerminalRenderer) (locally : Bool) : TerminalRenderer × Bool :=
  if locally then terminal.write saveCursorBytes else (terminal, true)

def drawAtHome (terminal : TerminalRenderer) (sixel : List UInt8) (restoreCursor : Bool)
    (chunkBytes : Nat) : TerminalRenderer × Bool :=
  let locally := restoreCursor && !terminal.updateActive
  let saved := terminal.saveLocally locally
  let display := saved.1.write (ascii "\x1b[?80h")
  let home := display.1.write (ascii "\x1b[H")
  let drawn := home.1.writeChunks sixel chunkBytes
  let scrolling := drawn.1.recoveryWrite (ascii "\x1b[?80l")
  let restored := scrolling.1.recover locally restoreCursorBytes
  let flushed := restored.1.flushOutsideUpdate
  (flushed.1, flushed.2 && restored.2 && scrolling.2 && drawn.2 && home.2 && display.2 && saved.2)

def drawAtCell (terminal : TerminalRenderer) (row column : Nat) (sixel : List UInt8)
    (restoreCursor : Bool) (chunkBytes : Nat) : TerminalRenderer × Bool :=
  let locally := restoreCursor && !terminal.updateActive
  let saved := terminal.saveLocally locally
  let moved := saved.1.write (cursorBytes row column)
  let drawn := moved.1.writeChunks sixel chunkBytes
  let restored := drawn.1.recover locally restoreCursorBytes
  let flushed := restored.1.flushOutsideUpdate
  (flushed.1, flushed.2 && restored.2 && drawn.2 && moved.2 && saved.2)

/-! ### Construction and destruction -/

/-- The constructor. -/
def create (sink : OutputSink) (useAlternateScreen : Bool) : TerminalRenderer :=
  let terminal : TerminalRenderer := { sink := sink, usesAlternateScreen := useAlternateScreen }
  let entered :=
    if useAlternateScreen then (terminal.write (ascii "\x1b[?1049h")).1 else terminal
  let hidden := (entered.write (ascii "\x1b[?25l")).1
  let scrolling := (hidden.write (ascii "\x1b[?80l")).1
  scrolling.flush.1

/-- The destructor. -/
def destroy (terminal : TerminalRenderer) : TerminalRenderer :=
  let ended := terminal.endSynchronizedUpdate.1
  let shown := (ended.recoveryWrite (ascii "\x1b[?25h")).1
  let left := (shown.recover terminal.usesAlternateScreen (ascii "\x1b[?1049l")).1
  left.recoveryFlush.1

end TerminalRenderer

end Rasterm
