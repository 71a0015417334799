import Rasterm.Encoder.RoundTrip

/-!
Contract: the terminal as a grid of pixels.

Owns the events a terminal goes through and what each may do to the grid and to the
colour registers: a control string accepted in full paints its pixels at its cell, a
clear leaves nothing drawn, anything else that reaches the screen may leave any
picture behind.

Does not own which bytes cause which event.
-/

set_option autoImplicit false

namespace Rasterm

open Sixel

inductive ScreenEvent where
  /-- The picture may be anything from here on. -/
  | disturbed
  /-- Nothing that was drawn is left. -/
  | cleared
  /-- The cells now have this size. -/
  | resized (cells : TerminalCellPixels)
  /-- A control string that has ended; `complete` when all of it was read at a known cell. -/
  | drawn (row column : Nat) (payload : List UInt8) (complete : Bool)
deriving DecidableEq, Repr

/-- Only a resize changes the size of the cells. -/
def ScreenEvent.keepsCells : ScreenEvent → Bool
  | resized _ => false
  | _ => true

/-- `none` stands for a pixel where nothing is drawn, or whose colour is not known. -/
structure Screen where
  cells : TerminalCellPixels
  registers : Registers
  grid : Nat → Nat → Option Percent

/-- Paint over a grid; the last paint of a pixel stays. -/
def overlay (grid : Nat → Nat → Option Percent) (left top : Nat) (paints : List Paint)
    (x y : Nat) : Option Percent :=
  if left ≤ x ∧ top ≤ y then
    match (paints.filter (Paint.isAt (x - left) (y - top))).getLast? with
    | some paint => paint.color
    | none => grid x y
  else grid x y

namespace ScreenEvent

/-- What an event may make of a screen. -/
def Leads (before after : Screen) : ScreenEvent → Prop
  | disturbed => after.cells = before.cells
  | cleared => after.cells = before.cells ∧ after.grid = fun _ _ => none
  | resized cells => after.cells = cells
  | drawn row column payload complete =>
      after.cells = before.cells ∧
        (complete = true → ∀ decoder, decode before.registers payload = some decoder →
          after.registers = decoder.registers ∧
            after.grid = overlay before.grid (column * before.cells.cellWidth.toNat)
              (row * before.cells.cellHeight.toNat) decoder.paints)

/-- What a sequence of events may make of a screen. -/
inductive Reaches : List ScreenEvent → Screen → Screen → Prop where
  | nil (screen : Screen) : Reaches [] screen screen
  | cons {event : ScreenEvent} {events : List ScreenEvent} {before next after : Screen}
      (head : event.Leads before next) (tail : Reaches events next after) :
      Reaches (event :: events) before after

theorem reaches_append {left right : List ScreenEvent} {before after : Screen} :
    Reaches (left ++ right) before after ↔
      ∃ middle, Reaches left before middle ∧ Reaches right middle after := by
  constructor
  · intro reaches
    induction left generalizing before with
    | nil => exact ⟨before, .nil before, reaches⟩
    | cons event events inductionHypothesis =>
        cases reaches with
        | cons head tail =>
            obtain ⟨middle, first, second⟩ := inductionHypothesis tail
            exact ⟨middle, .cons head first, second⟩
  · rintro ⟨middle, first, second⟩
    induction first with
    | nil screen => exact second
    | cons head _ inductionHypothesis => exact .cons head (inductionHypothesis second)

theorem reaches_nil {before after : Screen} (reaches : Reaches [] before after) :
    after = before := by
  cases reaches
  rfl

theorem reaches_singleton {event : ScreenEvent} {before after : Screen}
    (reaches : Reaches [event] before after) : event.Leads before after := by
  cases reaches with
  | cons head tail =>
      cases tail
      exact head

/-- Events other than a resize keep the cell size. -/
theorem cells_of_reaches {events : List ScreenEvent} {before after : Screen}
    (reaches : Reaches events before after)
    (keeps : ∀ event ∈ events, event.keepsCells = true) : after.cells = before.cells := by
  induction reaches with
  | nil screen => rfl
  | @cons event events before next after head tail inductionHypothesis =>
      have rest := inductionHypothesis fun later member =>
        keeps later (List.mem_cons_of_mem _ member)
      rw [rest]
      cases event with
      | disturbed => exact head
      | cleared => exact head.1
      | resized cells => cases keeps (.resized cells) List.mem_cons_self
      | drawn row column payload complete => exact head.1

/-- An accepted control string shows its own pixels at its cell and leaves the
others alone. -/
theorem grid_of_drawn {row column width height : Nat} {payload : List UInt8}
    {register : Nat → Nat → Nat} {color : Nat → Nat → Percent}
    (decodes : DecodesTo payload width height register color) {before after : Screen}
    (leads : (drawn row column payload true).Leads before after) (x y : Nat) :
    let left := column * before.cells.cellWidth.toNat
    let top := row * before.cells.cellHeight.toNat
    after.grid x y =
      if left ≤ x ∧ top ≤ y ∧ x < left + width ∧ y < top + height then
        some (color (x - left) (y - top))
      else before.grid x y := by
  intro left top
  obtain ⟨decoder, decoded, -, paints⟩ := decodes before.registers
  rw [(leads.2 rfl decoder decoded).2, overlay, paints]
  change (if left ≤ x ∧ top ≤ y then _ else _) = _
  by_cases beyond : left ≤ x ∧ top ≤ y
  · rw [if_pos beyond]
    by_cases inside : x - left < width ∧ y - top < height
    · rw [if_pos inside, if_pos ⟨beyond.1, beyond.2, by omega, by omega⟩]
      rfl
    · rw [if_neg inside, if_neg fun other => inside ⟨by omega, by omega⟩]
      rfl
  · rw [if_neg beyond, if_neg fun other => beyond ⟨other.1, other.2.1⟩]

end ScreenEvent

end Rasterm
