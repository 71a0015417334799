import Mathlib.Tactic.Common
import Mathlib.Logic.Function.Basic
import Rasterm.Library.Decimal

/-!
Contract: the control parser of a VT terminal, as far as private modes and open
control strings go.

Owns the states (ground, escape, control sequence, device control string, other
strings), the transitions (`ESC` restarts from anywhere, `CAN` and `SUB` abort),
the effect of `CSI ? n h` and `CSI ? n l` on the modes, and the runs of the
sequences a program sends.

Does not own what a sequence draws.
-/

set_option autoImplicit false

namespace Vt

open Decimal

inductive Parser where
  | ground
  | escape
  | escapeIntermediate
  /-- The bytes collected since `CSI`. -/
  | csi (collected : List UInt8)
  | dcs
  /-- OSC, SOS, PM and APC. -/
  | string
deriving DecidableEq, Repr

structure Terminal where
  parser : Parser := .ground
  /-- The private modes that are set. -/
  modes : Nat → Bool := fun _ => false

/-- The numbers between semicolons. -/
def parameters (bytes : List UInt8) : List Nat :=
  (bytes.splitOn 0x3b).map fun digits => digits.foldl readDigit 0

def setModes (modes : Nat → Bool) (numbers : List Nat) (value : Bool) : Nat → Bool :=
  numbers.foldl (fun modes number => Function.update modes number value) modes

/-- The final byte of a control sequence. -/
def dispatch (modes : Nat → Bool) (collected : List UInt8) (final : UInt8) : Nat → Bool :=
  match collected with
  | 0x3f :: numbers =>
      if final = 0x68 then setModes modes (parameters numbers) true
      else if final = 0x6c then setModes modes (parameters numbers) false
      else modes
  | _ => modes

/-- The byte after `ESC`. -/
def afterEscape (byte : UInt8) : Parser :=
  if byte = 0x5b then .csi []
  else if byte = 0x50 then .dcs
  else if byte = 0x5d ∨ byte = 0x58 ∨ byte = 0x5e ∨ byte = 0x5f then .string
  else if 0x20 ≤ byte ∧ byte ≤ 0x2f then .escapeIntermediate
  else if 0x30 ≤ byte ∧ byte ≤ 0x7e then .ground
  else .escape

namespace Terminal

def step (terminal : Terminal) (byte : UInt8) : Terminal :=
  if byte = 0x1b then { terminal with parser := .escape }
  else if byte = 0x18 ∨ byte = 0x1a then { terminal with parser := .ground }
  else
    match terminal.parser with
    | .ground | .dcs => terminal
    | .escape => { terminal with parser := afterEscape byte }
    | .escapeIntermediate =>
        if 0x30 ≤ byte ∧ byte ≤ 0x7e then { terminal with parser := .ground } else terminal
    | .csi collected =>
        if 0x40 ≤ byte ∧ byte ≤ 0x7e then
          { parser := .ground, modes := dispatch terminal.modes collected byte }
        else if 0x20 ≤ byte ∧ byte ≤ 0x3f then
          { terminal with parser := .csi (collected ++ [byte]) }
        else terminal
    | .string => if byte = 0x07 then { terminal with parser := .ground } else terminal

def feed (terminal : Terminal) (bytes : List UInt8) : Terminal := bytes.foldl step terminal

@[simp] theorem feed_nil (terminal : Terminal) : terminal.feed [] = terminal := rfl

@[simp] theorem feed_cons (terminal : Terminal) (byte : UInt8) (bytes : List UInt8) :
    terminal.feed (byte :: bytes) = (terminal.step byte).feed bytes := rfl

theorem feed_append (terminal : Terminal) (left right : List UInt8) :
    terminal.feed (left ++ right) = (terminal.feed left).feed right := by
  simp [feed]

@[simp] theorem step_escape (terminal : Terminal) :
    terminal.step 0x1b = { terminal with parser := .escape } := by
  simp [step]

/-- `ESC \` closes whatever is open; it changes no mode. -/
theorem feed_stringTerminator (terminal : Terminal) :
    terminal.feed [0x1b, 0x5c] = { terminal with parser := .ground } := by
  simp only [feed_cons, step_escape, feed_nil]
  rfl

/-- A two-byte escape sequence such as saving and restoring the cursor. -/
theorem feed_escapeSequence (terminal : Terminal) {final : UInt8}
    (closes : afterEscape final = .ground) (printable : 0x20 ≤ final) :
    terminal.feed [0x1b, final] = { terminal with parser := .ground } := by
  have control : final ≠ 0x1b ∧ final ≠ 0x18 ∧ final ≠ 0x1a := by
    refine ⟨?_, ?_, ?_⟩ <;> rintro rfl <;> exact absurd printable (by decide)
  simp only [feed_cons, step_escape, feed_nil]
  simp [step, control, closes]

/-- Parameter bytes are collected. -/
theorem feed_collect {collected bytes : List UInt8} {modes : Nat → Bool}
    (collects : ∀ byte ∈ bytes, 0x20 ≤ byte ∧ byte ≤ 0x3f) :
    feed { parser := .csi collected, modes := modes } bytes =
      { parser := .csi (collected ++ bytes), modes := modes } := by
  induction bytes generalizing collected with
  | nil => simp
  | cons byte bytes inductionHypothesis =>
      obtain ⟨low, high⟩ := collects byte (by simp)
      have control : byte ≠ 0x1b ∧ byte ≠ 0x18 ∧ byte ≠ 0x1a := by
        refine ⟨?_, ?_, ?_⟩ <;> rintro rfl <;> exact absurd low (by decide)
      have notFinal : ¬ ((0x40 : UInt8) ≤ byte ∧ byte ≤ 0x7e) := by
        simp only [UInt8.le_iff_toNat_le] at high ⊢
        have bound : (63 : UInt8).toNat = 63 ∧ (64 : UInt8).toNat = 64 := ⟨rfl, rfl⟩
        omega
      rw [feed_cons]
      simp only [step, control, low, high, notFinal, if_false, if_true, or_self, and_self]
      rw [inductionHypothesis fun later member => collects later (by simp [member])]
      simp

/-- A control sequence: its final byte acts on the modes, nothing stays open. -/
theorem feed_controlSequence (terminal : Terminal) {bytes : List UInt8} {final : UInt8}
    (collects : ∀ byte ∈ bytes, 0x20 ≤ byte ∧ byte ≤ 0x3f)
    (finishes : 0x40 ≤ final ∧ final ≤ 0x7e) :
    terminal.feed (0x1b :: 0x5b :: bytes ++ [final]) =
      { parser := .ground, modes := dispatch terminal.modes bytes final } := by
  have control : final ≠ 0x1b ∧ final ≠ 0x18 ∧ final ≠ 0x1a := by
    refine ⟨?_, ?_, ?_⟩ <;> rintro rfl <;> exact absurd finishes.1 (by decide)
  have opened : ({ terminal with parser := .escape } : Terminal).step 0x5b =
      { parser := .csi [], modes := terminal.modes } := rfl
  rw [List.cons_append, List.cons_append, feed_cons, step_escape, feed_cons, opened, feed_append,
    feed_collect collects]
  simp [step, control, finishes]

/-- The terminal at rest with one mode set or reset. -/
def setMode (terminal : Terminal) (number : Nat) (value : Bool) : Terminal :=
  { parser := .ground, modes := Function.update terminal.modes number value }

/-- Setting or resetting one private mode, given the digits of its number. -/
theorem feed_privateMode (terminal : Terminal) {digits : List UInt8} {number : Nat}
    (numbered : parameters digits = [number])
    (plain : ∀ byte ∈ digits, 0x20 ≤ byte ∧ byte ≤ 0x3f) (value : Bool) :
    terminal.feed (0x1b :: 0x5b :: (0x3f :: digits) ++ [if value then 0x68 else 0x6c]) =
      terminal.setMode number value := by
  rw [feed_controlSequence terminal]
  · cases value <;> simp [dispatch, numbered, setModes, setMode]
  · intro byte member
    rcases List.mem_cons.mp member with first | later
    · subst first
      decide
    · exact plain byte later
  · cases value <;> decide

theorem setMode_of_eq {terminal : Terminal} {number : Nat} {value : Bool}
    (ground : terminal.parser = .ground) (already : terminal.modes number = value) :
    terminal.setMode number value = terminal := by
  cases terminal
  simp_all [setMode]

theorem setMode_setMode (terminal : Terminal) (number : Nat) (first second : Bool) :
    (terminal.setMode number first).setMode number second = terminal.setMode number second := by
  simp [setMode]

/-! ### Bytes without ESC -/

/-- Nothing that is collected can still change a mode. -/
def Quiet (terminal : Terminal) : Prop :=
  terminal.parser = .ground ∨ terminal.parser = .dcs

theorem Quiet.step {terminal : Terminal} (quiet : terminal.Quiet) {byte : UInt8}
    (notEscape : byte ≠ 0x1b) :
    (terminal.step byte).Quiet ∧ (terminal.step byte).modes = terminal.modes := by
  unfold Terminal.step
  rw [if_neg notEscape]
  by_cases aborts : byte = 0x18 ∨ byte = 0x1a
  · rw [if_pos aborts]
    exact ⟨Or.inl rfl, rfl⟩
  · rw [if_neg aborts]
    obtain ground | dcs := quiet
    · rw [ground]
      exact ⟨Or.inl ground, rfl⟩
    · rw [dcs]
      exact ⟨Or.inr dcs, rfl⟩

theorem Quiet.feed {terminal : Terminal} (quiet : terminal.Quiet) {bytes : List UInt8}
    (noEscape : (0x1b : UInt8) ∉ bytes) :
    (terminal.feed bytes).Quiet ∧ (terminal.feed bytes).modes = terminal.modes := by
  induction bytes generalizing terminal with
  | nil => exact ⟨quiet, rfl⟩
  | cons byte bytes inductionHypothesis =>
      simp only [List.mem_cons, not_or] at noEscape
      obtain ⟨next, modes⟩ := quiet.step (Ne.symm noEscape.1)
      obtain ⟨final, rest⟩ := inductionHypothesis next noEscape.2
      exact ⟨final, rest.trans modes⟩

/-- Any part of a device control string leaves the modes alone. -/
theorem modes_feed_part (terminal : Terminal) {body front : List UInt8}
    (noEscape : (0x1b : UInt8) ∉ body)
    (isPrefix : front <+: 0x1b :: 0x50 :: body ++ [0x1b, 0x5c]) :
    (terminal.feed front).modes = terminal.modes := by
  match front with
  | [] => rfl
  | [first] =>
      obtain rfl : first = 0x1b := by simpa using isPrefix
      simp
  | first :: second :: front =>
      simp only [List.cons_append, List.cons_prefix_cons] at isPrefix
      obtain ⟨rfl, rfl, isPrefix⟩ := isPrefix
      have opened : ({ terminal with parser := .escape } : Terminal).step 0x50 =
          { terminal with parser := .dcs } := rfl
      rw [feed_cons, step_escape, feed_cons, opened]
      have quiet : Quiet { terminal with parser := .dcs } := Or.inr rfl
      obtain inside | ⟨rest, rfl⟩ :=
        List.prefix_or_prefix_of_prefix isPrefix (List.prefix_append body [0x1b, 0x5c])
      · exact (quiet.feed fun member => noEscape (inside.subset member)).2
      · have tail := (List.prefix_append_right_inj body).mp isPrefix
        rw [feed_append]
        obtain ⟨-, modes⟩ := quiet.feed noEscape
        match rest with
        | [] => exact modes
        | [third] =>
            obtain rfl : third = 0x1b := by simpa using tail
            simpa using modes
        | [third, fourth] =>
            obtain ⟨rfl, rfl⟩ : third = 0x1b ∧ fourth = 0x5c := by simpa using tail
            rw [feed_stringTerminator]
            exact modes
        | third :: fourth :: fifth :: rest => simp at tail

end Terminal

/-! ### Bytes that leave no trace -/

/-- Sent to a terminal at rest, they leave it as it was. -/
def Neutral (bytes : List UInt8) : Prop :=
  ∀ terminal : Terminal, terminal.parser = .ground → terminal.feed bytes = terminal

namespace Neutral

theorem nil : Neutral [] := fun _ _ => rfl

theorem append {left right : List UInt8} (first : Neutral left) (second : Neutral right) :
    Neutral (left ++ right) := by
  intro terminal ground
  rw [Terminal.feed_append, first terminal ground, second terminal ground]

theorem escapeSequence {final : UInt8} (closes : afterEscape final = .ground)
    (printable : 0x20 ≤ final) : Neutral [0x1b, final] := by
  intro terminal ground
  rw [Terminal.feed_escapeSequence terminal closes printable]
  cases terminal
  simp_all

/-- A control sequence that is no private mode. -/
theorem controlSequence {bytes : List UInt8} {final : UInt8}
    (collects : ∀ byte ∈ bytes, 0x20 ≤ byte ∧ byte ≤ 0x3f)
    (finishes : 0x40 ≤ final ∧ final ≤ 0x7e)
    (noMode : ∀ modes, dispatch modes bytes final = modes) :
    Neutral (0x1b :: 0x5b :: bytes ++ [final]) := by
  intro terminal ground
  rw [Terminal.feed_controlSequence terminal collects finishes, noMode]
  cases terminal
  simp_all

/-- A complete device control string. -/
theorem controlString {body : List UInt8} (noEscape : (0x1b : UInt8) ∉ body) :
    Neutral (0x1b :: 0x50 :: body ++ [0x1b, 0x5c]) := by
  intro terminal ground
  have modes := terminal.modes_feed_part noEscape (List.prefix_refl _)
  rw [Terminal.feed_append, Terminal.feed_stringTerminator] at modes ⊢
  cases terminal
  simp_all

end Neutral

end Vt
