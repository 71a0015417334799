import Rasterm.Output.Screen
import Rasterm.Output.Sink

/-!
Contract: the terminal at the other end of the sink.

Owns the reading of the bytes a sink has accepted, one at a time: cursor moves, clears,
modes that leave the picture alone, control strings that end where they should or are
broken off, and everything else, of which nothing is known. Whatever the sink refused is
never read; after it the place of the cursor is not known, so that an open control string
can no longer be drawn as a whole.

Does not own the sequences a renderer sends.
-/

set_option autoImplicit false

namespace Rasterm

open Decimal Sixel

/-- What the terminal is in the middle of. -/
inductive Reading where
  | ground
  | escape
  /-- A control sequence with the bytes after `CSI`. -/
  | sequence (collected : List UInt8)
  /-- A device control string with the bytes after `ESC P`. -/
  | controlString (collected : List UInt8)
  /-- A device control string followed by `ESC`. -/
  | closing (collected : List UInt8)
  /-- OSC, SOS, PM and APC. -/
  | otherString
deriving DecidableEq, Repr

namespace Reading

/-- A string has begun and has not ended. -/
def isOpen : Reading → Bool
  | controlString _ | closing _ | otherString => true
  | ground | escape | sequence _ => false

end Reading

structure Emulator where
  reading : Reading := .ground
  /-- The row and the column of the cursor, where they are known. -/
  cursor : Option (Nat × Nat) := none
  events : List ScreenEvent := []
deriving DecidableEq, Repr

namespace Emulator

/-- While a string is open the picture may be anything. -/
def pending (emulator : Emulator) : List ScreenEvent :=
  if emulator.reading.isOpen then [.disturbed] else []

/-- What has happened to the picture. -/
def screen (emulator : Emulator) : List ScreenEvent := emulator.events ++ emulator.pending

/-- Something of which nothing is known. -/
def disturb (emulator : Emulator) (reading : Reading) : Emulator :=
  { reading := reading, cursor := none, events := emulator.events ++ [.disturbed] }

/-! ### Control sequences -/

/-- A coordinate, counted from 1; left out it is the first. -/
def coordinate (digits : List UInt8) : Nat := digits.foldl readDigit 0 - 1

/-- `row ; column`, or the row alone, or nothing. -/
def cellOf (collected : List UInt8) : Option (Nat × Nat) :=
  let row := coordinate (collected.takeWhile isDigit)
  match collected.dropWhile isDigit with
  | [] => some (row, 0)
  | separator :: column =>
      if separator = 0x3b ∧ column.all isDigit = true then some (row, coordinate column) else none

/-- Showing the cursor, scrolling at images and synchronized output. -/
def keepsPicture (collected : List UInt8) : Bool :=
  collected = ascii "?25" || collected = ascii "?80" || collected = ascii "?2026"

/-- The final byte of a control sequence: `H`, `J`, `h` and `l`. -/
def dispatch (emulator : Emulator) (collected : List UInt8) (final : UInt8) : Emulator :=
  if final = 0x48 then
    match cellOf collected with
    | some cell => { emulator with reading := .ground, cursor := some cell }
    | none => emulator.disturb .ground
  else if final = 0x4a ∧ collected = [0x32] then
    { emulator with reading := .ground, events := emulator.events ++ [.cleared] }
  else if (final = 0x68 ∨ final = 0x6c) ∧ keepsPicture collected = true then
    { emulator with reading := .ground }
  else emulator.disturb .ground

/-- The byte after `ESC`. Restoring the cursor moves it to where it was saved. -/
def afterEscape (emulator : Emulator) (byte : UInt8) : Emulator :=
  if byte = 0x5b then { emulator with reading := .sequence [] }
  else if byte = 0x50 then { emulator with reading := .controlString [] }
  else if byte = 0x5d ∨ byte = 0x58 ∨ byte = 0x5e ∨ byte = 0x5f then
    { emulator with reading := .otherString }
  else if byte = 0x37 ∨ byte = 0x5c then { emulator with reading := .ground }
  else if byte = 0x38 then { emulator with reading := .ground, cursor := none }
  else emulator.disturb .ground

/-- A device control string has ended. It is drawn at the cursor, and leaves it behind. -/
def draw (emulator : Emulator) (collected : List UInt8) : Emulator :=
  let payload := [0x1b, 0x50] ++ collected ++ [0x1b, 0x5c]
  { reading := .ground
    cursor := none
    events := emulator.events ++
      match emulator.cursor with
      | some (row, column) => [.drawn row column payload true]
      | none => [.disturbed, .drawn 0 0 payload false] }

/-! ### Bytes and calls -/

/-- A byte that ends no control string. -/
def plain (emulator : Emulator) (byte : UInt8) : Emulator :=
  if byte = 0x1b then
    match emulator.reading with
    | .controlString collected => { emulator with reading := .closing collected }
    | .otherString => emulator.disturb .escape
    | .ground | .escape | .sequence _ | .closing _ => { emulator with reading := .escape }
  else if byte = 0x18 ∨ byte = 0x1a then emulator.disturb .ground
  else
    match emulator.reading with
    | .ground => emulator.disturb .ground
    | .escape | .closing _ => emulator.afterEscape byte
    | .sequence collected =>
        if 0x40 ≤ byte ∧ byte ≤ 0x7e then emulator.dispatch collected byte
        else if 0x20 ≤ byte ∧ byte ≤ 0x3f then
          { emulator with reading := .sequence (collected ++ [byte]) }
        else emulator.disturb .ground
    | .controlString collected =>
        { emulator with reading := .controlString (collected ++ [byte]) }
    | .otherString => if byte = 0x07 then emulator.disturb .ground else emulator

def step (emulator : Emulator) (byte : UInt8) : Emulator :=
  match emulator.reading with
  | .closing collected =>
      if byte = 0x5c then emulator.draw collected else (emulator.disturb .escape).plain byte
  | .ground | .escape | .sequence _ | .controlString _ | .otherString => emulator.plain byte

def feed (emulator : Emulator) (bytes : List UInt8) : Emulator := bytes.foldl step emulator

/-- A refused write leaves a gap after which the cursor may be anywhere. -/
def lose (emulator : Emulator) : Emulator := { emulator with cursor := none }

def receive (emulator : Emulator) : SinkCall → Emulator
  | .write _ bytes true => emulator.feed bytes
  | .write _ _ false => emulator.lose
  | .flush _ _ => emulator

/-- The cells get another size; a string that is open goes on. -/
def resize (emulator : Emulator) (cells : TerminalCellPixels) : Emulator :=
  { emulator with cursor := none, events := emulator.screen ++ [.resized cells] }

/-- The terminal after the calls; each change of the cells is dated by the number of calls
made before it, the latest first. -/
def after (calls : List SinkCall) : List (Nat × TerminalCellPixels) → Emulator
  | [] => calls.foldl receive {}
  | (made, cells) :: earlier =>
      (calls.drop made).foldl receive ((after (calls.take made) earlier).resize cells)

theorem after_append {calls : List SinkCall} {resizes : List (Nat × TerminalCellPixels)}
    (dated : ∀ resize ∈ resizes.head?, resize.1 ≤ calls.length) (more : List SinkCall) :
    after (calls ++ more) resizes = more.foldl receive (after calls resizes) := by
  cases resizes with
  | nil => exact List.foldl_append
  | cons latest earlier =>
      have made := dated latest rfl
      rw [after, after, List.take_append_of_le_length made, List.drop_append_of_le_length made,
        List.foldl_append]

theorem after_resize (calls : List SinkCall) (resizes : List (Nat × TerminalCellPixels))
    (cells : TerminalCellPixels) :
    after calls ((calls.length, cells) :: resizes) = (after calls resizes).resize cells := by
  rw [after, List.take_length, List.drop_length]
  rfl

@[simp] theorem feed_nil (emulator : Emulator) : emulator.feed [] = emulator := rfl

@[simp] theorem feed_cons (emulator : Emulator) (byte : UInt8) (bytes : List UInt8) :
    emulator.feed (byte :: bytes) = (emulator.step byte).feed bytes := rfl

theorem feed_append (emulator : Emulator) (left right : List UInt8) :
    emulator.feed (left ++ right) = (emulator.feed left).feed right := List.foldl_append

/-! ### Sequences -/

/-- The terminal at an `ESC`: a string that was open is broken off. -/
def interrupted (emulator : Emulator) : Emulator :=
  { reading := .escape
    cursor := if emulator.reading.isOpen then none else emulator.cursor
    events := emulator.screen }

/-- `ESC` starts anew wherever the terminal is, unless it goes on with the end of a string. -/
theorem feed_escape (emulator : Emulator) {byte : UInt8} (goesOn : interrupts byte = false)
    (notEnd : byte ≠ 0x5c) (bytes : List UInt8) :
    emulator.feed (0x1b :: byte :: bytes) = (emulator.interrupted.afterEscape byte).feed bytes := by
  have control : byte ≠ 0x1b ∧ byte ≠ 0x18 ∧ byte ≠ 0x1a := by
    simp only [interrupts, Bool.or_eq_false_iff, decide_eq_false_iff_not] at goesOn
    exact ⟨goesOn.1.1, goesOn.1.2, goesOn.2⟩
  rw [feed_cons, feed_cons]
  congr 1
  rcases emulator with ⟨reading, cursor, events⟩
  cases reading <;>
    simp [step, plain, disturb, interrupted, screen, pending, Reading.isOpen, control, notEnd]

/-- Every sequence but the end of a string finds the terminal so. -/
theorem feed_introducer (emulator : Emulator) (bytes : List UInt8) :
    emulator.feed (0x1b :: 0x5b :: bytes) =
      feed { emulator.interrupted with reading := .sequence [] } bytes :=
  emulator.feed_escape (by decide) (by decide) bytes

/-- Parameter bytes are collected. -/
theorem feed_collect {collected bytes : List UInt8} {cursor : Option (Nat × Nat)}
    {events : List ScreenEvent} (collects : ∀ byte ∈ bytes, 0x20 ≤ byte ∧ byte ≤ 0x3f) :
    feed { reading := .sequence collected, cursor := cursor, events := events } bytes =
      { reading := .sequence (collected ++ bytes), cursor := cursor, events := events } := by
  induction bytes generalizing collected with
  | nil => simp
  | cons byte bytes inductionHypothesis =>
      obtain ⟨low, high⟩ := collects byte List.mem_cons_self
      have control : byte ≠ 0x1b ∧ byte ≠ 0x18 ∧ byte ≠ 0x1a := by
        refine ⟨?_, ?_, ?_⟩ <;> rintro rfl <;> exact absurd low (by decide)
      have notFinal : ¬ ((0x40 : UInt8) ≤ byte ∧ byte ≤ 0x7e) := by
        simp only [UInt8.le_iff_toNat_le] at high ⊢
        have bound : (63 : UInt8).toNat = 63 ∧ (64 : UInt8).toNat = 64 := ⟨rfl, rfl⟩
        omega
      rw [feed_cons]
      simp only [step, plain, control, low, high, notFinal, if_false, if_true, or_self, and_self]
      rw [inductionHypothesis fun later member => collects later (List.mem_cons_of_mem _ member)]
      simp

/-- The bytes of a control string are collected. -/
theorem feed_body {collected body : List UInt8} {cursor : Option (Nat × Nat)}
    {events : List ScreenEvent} (uninterrupted : Uninterrupted body) :
    feed { reading := .controlString collected, cursor := cursor, events := events } body =
      { reading := .controlString (collected ++ body), cursor := cursor, events := events } := by
  induction body generalizing collected with
  | nil => simp
  | cons byte body inductionHypothesis =>
      rw [uninterrupted_cons] at uninterrupted
      obtain ⟨here, later⟩ := uninterrupted
      simp only [interrupts, Bool.or_eq_false_iff, decide_eq_false_iff_not] at here
      rw [feed_cons]
      simp only [step, plain, here, if_false, or_self]
      rw [inductionHypothesis later]
      simp

/-- A whole control string, read at a cell that is known. -/
theorem feed_controlString {emulator : Emulator} {row column : Nat} {payload : List UInt8}
    (framed : IsControlString payload) (ready : emulator.reading.isOpen = false)
    (known : emulator.cursor = some (row, column)) :
    emulator.feed payload =
      { events := emulator.events ++ [.drawn row column payload true] } := by
  obtain ⟨body, uninterrupted, bytes⟩ := framed
  have opened := @feed_escape emulator 0x50 (by decide) (by decide) (body ++ [0x1b, 0x5c])
  rw [bytes, List.append_assoc]
  change emulator.feed (0x1b :: 0x50 :: (body ++ [0x1b, 0x5c])) = _
  rw [opened, feed_append]
  have begun : emulator.interrupted.afterEscape 0x50 =
      { reading := .controlString [], cursor := some (row, column), events := emulator.events } := by
    simp [interrupted, afterEscape, screen, pending, ready, known]
  rw [begun, feed_body uninterrupted]
  rfl

/-! ### Bytes of any kind -/

/-- The cells keep their size. -/
def KeepCells (events : List ScreenEvent) : Prop := ∀ event ∈ events, event.keepsCells = true

theorem keepCells_nil : KeepCells [] := fun _ none => absurd none List.not_mem_nil

theorem KeepCells.append {left right : List ScreenEvent} (first : KeepCells left)
    (second : KeepCells right) : KeepCells (left ++ right) := by
  intro event member
  rcases List.mem_append.mp member with inLeft | inRight
  · exact first event inLeft
  · exact second event inRight

/-- What has happened since a terminal at which no open string could still be drawn as a
whole: its string is still open, or everything after it is new. -/
def Since (start emulator : Emulator) : Prop :=
  (start.reading.isOpen = true ∧ emulator.reading.isOpen = true ∧ emulator.cursor = none ∧
      emulator.events = start.events) ∨
    ∃ more, emulator.events = start.screen ++ more ∧ KeepCells more

theorem since_self {start : Emulator}
    (settled : start.reading.isOpen = true → start.cursor = none) : Since start start := by
  cases open' : start.reading.isOpen with
  | true => exact Or.inl ⟨open', open', settled open', rfl⟩
  | false => exact Or.inr ⟨[], by simp [screen, pending, open'], keepCells_nil⟩

theorem keepCells_pending (emulator : Emulator) : KeepCells emulator.pending := by
  unfold pending
  split_ifs
  · simp [KeepCells, ScreenEvent.keepsCells]
  · exact keepCells_nil

/-- In the end the old picture is followed by something that leaves the cells alone. -/
theorem Since.screen {start emulator : Emulator} (since : Since start emulator) :
    ∃ more, emulator.screen = start.screen ++ more ∧ KeepCells more := by
  rcases since with ⟨startOpen, stillOpen, -, same⟩ | ⟨more, grown, keep⟩
  · exact ⟨[], by simp [Emulator.screen, pending, startOpen, stillOpen, same], keepCells_nil⟩
  · refine ⟨more ++ emulator.pending, ?_, keep.append emulator.keepCells_pending⟩
    rw [Emulator.screen, grown, List.append_assoc]

/-- Something may have been added. -/
def Adds (before after : Emulator) : Prop :=
  ∃ more, after.events = before.events ++ more ∧ KeepCells more

theorem adds_of_same {before after : Emulator} (same : after.events = before.events) :
    Adds before after := ⟨[], by rw [same, List.append_nil], keepCells_nil⟩

theorem Adds.trans {first second third : Emulator} (head : Adds first second)
    (tail : Adds second third) : Adds first third := by
  obtain ⟨left, leftGrown, leftKeep⟩ := head
  obtain ⟨right, rightGrown, rightKeep⟩ := tail
  exact ⟨left ++ right, by rw [rightGrown, leftGrown, List.append_assoc],
    leftKeep.append rightKeep⟩

theorem adds_disturb (emulator : Emulator) (reading : Reading) :
    Adds emulator (emulator.disturb reading) :=
  ⟨[.disturbed], rfl, by simp [KeepCells, ScreenEvent.keepsCells]⟩

theorem adds_dispatch (emulator : Emulator) (collected : List UInt8) (final : UInt8) :
    Adds emulator (emulator.dispatch collected final) := by
  unfold dispatch
  split_ifs
  · split
    · exact adds_of_same rfl
    · exact emulator.adds_disturb .ground
  · exact ⟨[.cleared], rfl, by simp [KeepCells, ScreenEvent.keepsCells]⟩
  · exact adds_of_same rfl
  · exact emulator.adds_disturb .ground

theorem adds_afterEscape (emulator : Emulator) (byte : UInt8) :
    Adds emulator (emulator.afterEscape byte) := by
  unfold afterEscape
  split_ifs
  · exact adds_of_same rfl
  · exact adds_of_same rfl
  · exact adds_of_same rfl
  · exact adds_of_same rfl
  · exact adds_of_same rfl
  · exact emulator.adds_disturb .ground

theorem adds_plain (emulator : Emulator) (byte : UInt8) : Adds emulator (emulator.plain byte) := by
  unfold plain
  by_cases escape : byte = 0x1b
  · rw [if_pos escape]
    split
    · exact adds_of_same rfl
    · exact emulator.adds_disturb .escape
    all_goals exact adds_of_same rfl
  rw [if_neg escape]
  by_cases aborts : byte = 0x18 ∨ byte = 0x1a
  · rw [if_pos aborts]
    exact emulator.adds_disturb .ground
  rw [if_neg aborts]
  split
  · exact emulator.adds_disturb .ground
  · exact emulator.adds_afterEscape byte
  · exact emulator.adds_afterEscape byte
  · split_ifs
    · exact emulator.adds_dispatch _ byte
    · exact adds_of_same rfl
    · exact emulator.adds_disturb .ground
  · exact adds_of_same rfl
  · split_ifs
    · exact emulator.adds_disturb .ground
    · exact adds_of_same rfl

/-- Drawn or not, the end of a string is recorded. -/
theorem adds_draw (emulator : Emulator) (collected : List UInt8) :
    Adds emulator (emulator.draw collected) := by
  unfold draw
  cases emulator.cursor with
  | none => exact ⟨_, rfl, by simp [KeepCells, ScreenEvent.keepsCells]⟩
  | some cell => exact ⟨_, rfl, by simp [KeepCells, ScreenEvent.keepsCells]⟩

theorem adds_step (emulator : Emulator) (byte : UInt8) : Adds emulator (emulator.step byte) := by
  unfold step
  split
  · split_ifs
    · exact emulator.adds_draw _
    · exact (emulator.adds_disturb .escape).trans (adds_plain _ byte)
  · exact emulator.adds_plain byte
  · exact emulator.adds_plain byte
  · exact emulator.adds_plain byte
  · exact emulator.adds_plain byte
  · exact emulator.adds_plain byte

/-- An open string without a known cell stays so, or the disturbance is on record. -/
theorem step_open {emulator : Emulator} (isOpen : emulator.reading.isOpen = true)
    (unknown : emulator.cursor = none) (byte : UInt8) :
    ((emulator.step byte).reading.isOpen = true ∧ (emulator.step byte).cursor = none ∧
        (emulator.step byte).events = emulator.events) ∨
      ∃ more, (emulator.step byte).events = emulator.events ++ .disturbed :: more ∧
        KeepCells more := by
  have disturbed : ∀ reading after, Adds (emulator.disturb reading) after →
      ∃ more, after.events = emulator.events ++ .disturbed :: more ∧ KeepCells more := by
    rintro reading after ⟨more, grown, keep⟩
    exact ⟨more, by rw [grown]; simp [disturb], keep⟩
  rcases emulator with ⟨reading, cursor, events⟩
  cases reading with
  | ground => cases isOpen
  | escape => cases isOpen
  | sequence collected => cases isOpen
  | controlString collected =>
      simp only [step, plain]
      split_ifs
      · exact Or.inl ⟨rfl, unknown, rfl⟩
      · exact Or.inr (disturbed .ground _ (adds_of_same rfl))
      · exact Or.inl ⟨rfl, unknown, rfl⟩
  | closing collected =>
      simp only [step]
      split_ifs
      · obtain rfl : cursor = none := unknown
        exact Or.inr ⟨_, rfl, by simp [KeepCells, ScreenEvent.keepsCells]⟩
      · exact Or.inr (disturbed .escape _ (adds_plain _ byte))
  | otherString =>
      simp only [step, plain]
      split_ifs
      · exact Or.inr (disturbed .escape _ (adds_of_same rfl))
      · exact Or.inr (disturbed .ground _ (adds_of_same rfl))
      · exact Or.inr (disturbed .ground _ (adds_of_same rfl))
      · exact Or.inl ⟨isOpen, unknown, rfl⟩

theorem Since.step {start emulator : Emulator} (since : Since start emulator) (byte : UInt8) :
    Since start (emulator.step byte) := by
  rcases since with ⟨startOpen, stillOpen, unknown, same⟩ | ⟨more, grown, keep⟩
  · rcases step_open stillOpen unknown byte with ⟨opened, lost, kept⟩ | ⟨more, grown, keep⟩
    · exact Or.inl ⟨startOpen, opened, lost, kept.trans same⟩
    · refine Or.inr ⟨more, ?_, keep⟩
      rw [grown, same, Emulator.screen, pending, startOpen, if_pos rfl, List.append_assoc]
      rfl
  · obtain ⟨added, addedGrown, addedKeep⟩ := emulator.adds_step byte
    exact Or.inr ⟨more ++ added, by rw [addedGrown, grown, List.append_assoc],
      keep.append addedKeep⟩

theorem Since.feed {start emulator : Emulator} (since : Since start emulator)
    (bytes : List UInt8) : Since start (emulator.feed bytes) := by
  induction bytes generalizing emulator with
  | nil => exact since
  | cons byte bytes inductionHypothesis => exact inductionHypothesis (since.step byte)

theorem Since.lose {start emulator : Emulator} (since : Since start emulator) :
    Since start emulator.lose := by
  rcases since with ⟨startOpen, stillOpen, -, same⟩ | grown
  · exact Or.inl ⟨startOpen, stillOpen, rfl, same⟩
  · exact Or.inr grown

/-- No call changes the cells. -/
theorem keepCells_calls (calls : List SinkCall) :
    KeepCells (calls.foldl receive {}).screen := by
  have since : ∀ emulator : Emulator, Since {} emulator →
      Since {} (calls.foldl receive emulator) := by
    induction calls with
    | nil => exact fun _ since => since
    | cons call calls inductionHypothesis =>
        intro emulator since
        apply inductionHypothesis
        rcases call with ⟨purpose, bytes, accepted⟩ | ⟨purpose, succeeded⟩
        · cases accepted with
          | true => exact since.feed bytes
          | false => exact since.lose
        · exact since
  obtain ⟨more, grown, keep⟩ := (since {} (since_self fun isOpen => by cases isOpen)).screen
  rw [grown]
  exact keep

end Emulator

end Rasterm
