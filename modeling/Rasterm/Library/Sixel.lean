import Rasterm.Library.Decimal
import Mathlib.Data.List.TakeWhile

/-!
Contract: a standard decoder for SIXEL device control strings.

Owns the DCS framing (`ESC P … ESC \` with nothing in between that would end the
string), the command reader
(`#n` selects, `#n;2;r;g;b` defines, `!n` repeats, `"…` gives the raster size,
`$` returns, `-` advances one band, `?`..`~` paint six rows) and the algebra of
its runs: how a run splits at a command boundary, what a repeated sixel paints.

Colour registers are an input, since a terminal may keep them between images;
every painted pixel records the colour its register has at that moment.

Does not own any encoder.
-/

set_option autoImplicit false

namespace Sixel

open Decimal

/-- A colour as the protocol writes it, in percent. -/
structure Percent where
  red : Nat
  green : Nat
  blue : Nat
deriving DecidableEq, Repr, Inhabited

abbrev Registers := Nat → Option Percent

/-- One painted pixel. -/
structure Paint where
  x : Nat
  y : Nat
  register : Nat
  color : Option Percent
deriving DecidableEq, Repr

def Paint.isAt (x y : Nat) (paint : Paint) : Bool := paint.x = x ∧ paint.y = y

/-- A command whose parameters are still being read, last parameter first. -/
inductive Command where
  | idle
  | reading (introducer : UInt8) (parameters : List Nat)
deriving DecidableEq, Repr

structure Decoder where
  command : Command := .idle
  raster : Option (Nat × Nat) := none
  registers : Registers
  selected : Nat := 0
  repeats : Nat := 1
  column : Nat := 0
  band : Nat := 0
  paints : List Paint := []

/-- `ESC`, `CAN` and `SUB` end a control string wherever they stand. -/
def interrupts (byte : UInt8) : Bool := byte = 0x1b || byte = 0x18 || byte = 0x1a

/-- The bytes may stand inside a control string. -/
def Uninterrupted (bytes : List UInt8) : Prop := ∀ byte ∈ bytes, interrupts byte = false

instance (bytes : List UInt8) : Decidable (Uninterrupted bytes) :=
  List.decidableBAll (fun byte => interrupts byte = false) bytes

@[simp] theorem uninterrupted_nil : Uninterrupted [] := by simp [Uninterrupted]

@[simp] theorem uninterrupted_cons (byte : UInt8) (bytes : List UInt8) :
    Uninterrupted (byte :: bytes) ↔ interrupts byte = false ∧ Uninterrupted bytes := by
  simp [Uninterrupted]

@[simp] theorem uninterrupted_append (left right : List UInt8) :
    Uninterrupted (left ++ right) ↔ Uninterrupted left ∧ Uninterrupted right := by
  simp only [Uninterrupted, List.mem_append, or_imp, forall_and]

theorem Uninterrupted.noEscape {bytes : List UInt8} (uninterrupted : Uninterrupted bytes) :
    (0x1b : UInt8) ∉ bytes := by
  intro member
  have interrupted := uninterrupted _ member
  revert interrupted
  decide

namespace Decoder

/-- Carry out a command once its parameters are complete. -/
def execute (decoder : Decoder) (introducer : UInt8) (parameters : List Nat) : Decoder :=
  if introducer = 0x23 then
    match parameters with
    | [register] => { decoder with selected := register }
    | [register, 2, red, green, blue] =>
        let color : Percent := ⟨red, green, blue⟩
        { decoder with registers := Function.update decoder.registers register (some color) }
    | _ => decoder
  else if introducer = 0x21 then
    match parameters with
    | [count] => { decoder with repeats := count }
    | _ => decoder
  else
    match parameters with
    | [_, _, width, height] => { decoder with raster := some (width, height) }
    | _ => decoder

def finish (decoder : Decoder) : Decoder :=
  match decoder.command with
  | .idle => decoder
  | .reading introducer parameters =>
      { decoder with command := .idle }.execute introducer parameters.reverse

/-- The pixels the bits of one sixel paint in a column of the current band. -/
def columnPaints (decoder : Decoder) (column bits : Nat) : List Paint :=
  (List.range 6).flatMap fun row =>
    if bits.testBit row then
      [⟨column, decoder.band * 6 + row, decoder.selected, decoder.registers decoder.selected⟩]
    else []

/-- Paint `count` columns from the current one on; `masks` gives their bits. -/
def paintColumns (decoder : Decoder) (masks : Nat → Nat) (count : Nat) : Decoder :=
  { decoder with
    paints := decoder.paints ++ (List.range count).flatMap fun offset =>
      decoder.columnPaints (decoder.column + offset) (masks offset)
    column := decoder.column + count }

def paintSixel (decoder : Decoder) (bits count : Nat) : Decoder :=
  decoder.paintColumns (fun _ => bits) count

/-- A byte that is not part of a parameter list. -/
def dispatch (decoder : Decoder) (byte : UInt8) : Decoder :=
  if byte = 0x23 ∨ byte = 0x21 ∨ byte = 0x22 then
    { decoder with command := .reading byte [0] }
  else if byte = 0x24 then { decoder with column := 0 }
  else if byte = 0x2d then { decoder with column := 0, band := decoder.band + 1 }
  else if 0x3f ≤ byte ∧ byte ≤ 0x7e then
    { decoder.paintSixel (byte.toNat - 0x3f) decoder.repeats with repeats := 1 }
  else decoder

def step (decoder : Decoder) (byte : UInt8) : Decoder :=
  match decoder.command with
  | .reading introducer (parameter :: parameters) =>
      if isDigit byte then
        { decoder with
          command := .reading introducer (readDigit parameter byte :: parameters) }
      else if byte = 0x3b then
        { decoder with command := .reading introducer (0 :: parameter :: parameters) }
      else decoder.finish.dispatch byte
  | _ => decoder.finish.dispatch byte

/-- Decode bytes and complete the last command. -/
def run (decoder : Decoder) (bytes : List UInt8) : Decoder :=
  (bytes.foldl step decoder).finish

end Decoder

/-- The body of one device control string that nothing interrupts. -/
def dcsBody : List UInt8 → Option (List UInt8)
  | 0x1b :: 0x50 :: rest =>
      if rest.dropWhile (!interrupts ·) = [0x1b, 0x5c] then
        some (rest.takeWhile (!interrupts ·))
      else none
  | _ => none

/-- The sixel data of a DCS body: what follows the final `q` of its parameters. -/
def sixelData (body : List UInt8) : List UInt8 := (body.dropWhile (· != 0x71)).drop 1

/-- Decode one complete DCS string, starting from the registers of the terminal. -/
def decode (registers : Registers) (bytes : List UInt8) : Option Decoder :=
  (dcsBody bytes).map fun body => Decoder.run { registers := registers } (sixelData body)

/-! ### Framing -/

theorem dcsBody_frame {body : List UInt8} (uninterrupted : Uninterrupted body) :
    dcsBody ([0x1b, 0x50] ++ body ++ [0x1b, 0x5c]) = some body := by
  have keep : ∀ byte ∈ body, (!interrupts byte) = true := by
    intro byte member
    rw [uninterrupted byte member]
    rfl
  have terminates : interrupts 0x1b = true := by decide
  simp only [List.cons_append, List.nil_append, dcsBody]
  rw [List.dropWhile_append_of_pos keep, List.takeWhile_append_of_pos keep]
  simp [terminates]

theorem sixelData_append {parameters data : List UInt8} (noFinal : (0x71 : UInt8) ∉ parameters) :
    sixelData (parameters ++ [0x71] ++ data) = data := by
  have skip : ∀ byte ∈ parameters, (byte != 0x71) = true := by
    intro byte member
    simp only [bne_iff_ne, ne_eq]
    rintro rfl
    exact noFinal member
  rw [sixelData, List.append_assoc, List.dropWhile_append_of_pos skip]
  simp

/-! ### Runs -/

/-- A byte that continues a parameter list. -/
def isParameter (byte : UInt8) : Bool := isDigit byte || byte == 0x3b

/-- The bytes start a new command (or there are none). -/
def Starts (bytes : List UInt8) : Prop := ∀ byte ∈ bytes.head?, isParameter byte = false

@[simp] theorem starts_nil : Starts [] := by simp [Starts]

@[simp] theorem starts_cons (byte : UInt8) (bytes : List UInt8) :
    Starts (byte :: bytes) ↔ isParameter byte = false := by simp [Starts]

theorem Starts.append {left right : List UInt8} (leftStarts : Starts left)
    (rightStarts : Starts right) : Starts (left ++ right) := by
  cases left with
  | nil => exact rightStarts
  | cons byte bytes => simpa using leftStarts

namespace Decoder

@[simp] theorem execute_command (decoder : Decoder) (introducer : UInt8) (parameters : List Nat) :
    (decoder.execute introducer parameters).command = decoder.command := by
  unfold execute
  split_ifs <;> split <;> rfl

@[simp] theorem finish_command (decoder : Decoder) : decoder.finish.command = .idle := by
  unfold finish
  split
  · assumption
  · simp

theorem finish_of_idle {decoder : Decoder} (idle : decoder.command = .idle) :
    decoder.finish = decoder := by
  simp [finish, idle]

@[simp] theorem finish_finish (decoder : Decoder) : decoder.finish.finish = decoder.finish :=
  finish_of_idle (finish_command decoder)

/-- A command boundary may complete the pending command first. -/
theorem step_finish {byte : UInt8} (boundary : isParameter byte = false) (decoder : Decoder) :
    decoder.step byte = decoder.finish.step byte := by
  simp only [isParameter, Bool.or_eq_false_iff, beq_eq_false_iff_ne] at boundary
  have finished : decoder.finish.step byte = decoder.finish.dispatch byte := by
    simp [step]
  rw [finished]
  unfold step
  split
  · simp [boundary]
  · rfl

theorem run_append {left right : List UInt8} (starts : Starts right) (decoder : Decoder) :
    decoder.run (left ++ right) = (decoder.run left).run right := by
  unfold run
  rw [List.foldl_append]
  cases right with
  | nil => simp
  | cons byte bytes =>
      rw [List.foldl_cons, List.foldl_cons, step_finish (by simpa using starts)]

/-! ### Single commands -/

private theorem foldl_digits (introducer : UInt8) (parameters : List Nat) (digits : List UInt8)
    (onlyDigits : ∀ byte ∈ digits, isDigit byte = true) (value : Nat) (decoder : Decoder) :
    digits.foldl step { decoder with command := .reading introducer (value :: parameters) } =
      { decoder with
        command := .reading introducer (digits.foldl readDigit value :: parameters) } := by
  induction digits generalizing value with
  | nil => rfl
  | cons digit digits inductionHypothesis =>
      rw [List.foldl_cons, List.foldl_cons]
      have read : step { decoder with command := .reading introducer (value :: parameters) }
          digit = { decoder with
            command := .reading introducer (readDigit value digit :: parameters) } := by
        simp [step, onlyDigits digit (by simp)]
      rw [read, inductionHypothesis fun byte member => onlyDigits byte (by simp [member])]

theorem foldl_numeral (introducer : UInt8) (parameters : List Nat) (value : Nat)
    (decoder : Decoder) :
    (numeral value).foldl step
        { decoder with command := .reading introducer (0 :: parameters) } =
      { decoder with command := .reading introducer (value :: parameters) } := by
  rw [foldl_digits introducer parameters _ (fun byte => isDigit_of_mem_numeral),
    Decimal.foldl_numeral]

theorem step_semicolon (introducer : UInt8) (parameter : Nat) (parameters : List Nat)
    (decoder : Decoder) :
    step { decoder with command := .reading introducer (parameter :: parameters) } 0x3b =
      { decoder with command := .reading introducer (0 :: parameter :: parameters) } := by
  have notDigit : isDigit 0x3b = false := by decide
  simp [step, notDigit]

/-- The parameters of a command, written with semicolons between them. -/
def parameterBytes : List Nat → List UInt8
  | [] => []
  | [value] => numeral value
  | value :: next :: rest => numeral value ++ [0x3b] ++ parameterBytes (next :: rest)

private theorem foldl_parameterBytes (introducer : UInt8) (decoder : Decoder) :
    ∀ (value : Nat) (rest read : List Nat),
      (parameterBytes (value :: rest)).foldl step
          { decoder with command := .reading introducer (0 :: read) } =
        { decoder with command := .reading introducer ((value :: rest).reverse ++ read) }
  | value, [], read => by simp [parameterBytes, foldl_numeral]
  | value, next :: rest, read => by
      rw [parameterBytes, List.foldl_append, List.foldl_append, foldl_numeral, List.foldl_cons,
        List.foldl_nil, step_semicolon, foldl_parameterBytes introducer decoder next rest]
      simp

/-- A whole command with its parameters. -/
theorem run_command_bytes {introducer : UInt8}
    (known : introducer = 0x23 ∨ introducer = 0x21 ∨ introducer = 0x22)
    (value : Nat) (rest : List Nat) {decoder : Decoder} (idle : decoder.command = .idle) :
    decoder.run (introducer :: parameterBytes (value :: rest)) =
      decoder.execute introducer (value :: rest) := by
  have introduced : decoder.step introducer =
      { decoder with command := .reading introducer [0] } := by
    simp only [step, idle, finish_of_idle idle, dispatch]
    rw [if_pos known]
  rw [run, List.foldl_cons, introduced, foldl_parameterBytes]
  simp only [finish, List.append_nil, List.reverse_reverse]
  rw [← idle]

theorem run_return {decoder : Decoder} (idle : decoder.command = .idle) :
    decoder.run [0x24] = { decoder with column := 0 } := by
  have dispatched : decoder.run [0x24] = (decoder.dispatch 0x24).finish := by
    simp [run, step, idle, finish_of_idle idle]
  rw [dispatched]
  exact finish_of_idle idle

theorem run_nextBand {decoder : Decoder} (idle : decoder.command = .idle) :
    decoder.run [0x2d] = { decoder with column := 0, band := decoder.band + 1 } := by
  have dispatched : decoder.run [0x2d] = (decoder.dispatch 0x2d).finish := by
    simp [run, step, idle, finish_of_idle idle]
  rw [dispatched]
  exact finish_of_idle idle

theorem run_sixel {decoder : Decoder} (idle : decoder.command = .idle) {bits : Nat}
    (small : bits < 64) :
    decoder.run [UInt8.ofNat (0x3f + bits)] =
      { decoder.paintSixel bits decoder.repeats with repeats := 1 } := by
  have value : (UInt8.ofNat (0x3f + bits)).toNat = 0x3f + bits := by
    rw [UInt8.toNat_ofNat']
    exact Nat.mod_eq_of_lt (by omega)
  have different : ∀ byte : UInt8, byte.toNat < 0x3f → UInt8.ofNat (0x3f + bits) ≠ byte := by
    intro byte below equal
    rw [← equal, value] at below
    omega
  have dispatched : decoder.run [UInt8.ofNat (0x3f + bits)] =
      (decoder.dispatch (UInt8.ofNat (0x3f + bits))).finish := by
    simp [run, step, idle, finish_of_idle idle]
  have inRange : (0x3f : UInt8) ≤ UInt8.ofNat (0x3f + bits) ∧
      UInt8.ofNat (0x3f + bits) ≤ 0x7e := by
    rw [UInt8.le_iff_toNat_le, UInt8.le_iff_toNat_le, value]
    exact ⟨by simp, by simp; omega⟩
  rw [dispatched, dispatch, if_neg, if_neg (different _ (by decide)),
    if_neg (different _ (by decide)), if_pos inRange, value]
  · rw [Nat.add_sub_cancel_left]
    exact finish_of_idle idle
  · rintro (equal | equal | equal)
    · exact different _ (by decide) equal
    · exact different _ (by decide) equal
    · exact different _ (by decide) equal

/-! ### Painting -/

theorem paintColumns_zero (decoder : Decoder) (masks : Nat → Nat) :
    decoder.paintColumns masks 0 = decoder := by
  simp [paintColumns]

theorem paintColumns_add (decoder : Decoder) (masks : Nat → Nat) (left right : Nat) :
    decoder.paintColumns masks (left + right) =
      (decoder.paintColumns masks left).paintColumns (fun offset => masks (left + offset))
        right := by
  simp [paintColumns, columnPaints, List.range_add, List.flatMap_append, List.flatMap_map,
    Nat.add_assoc]

theorem paintColumns_congr (decoder : Decoder) {left right : Nat → Nat} {count : Nat}
    (same : ∀ offset < count, left offset = right offset) :
    decoder.paintColumns left count = decoder.paintColumns right count := by
  have paints : ((List.range count).flatMap fun offset =>
        decoder.columnPaints (decoder.column + offset) (left offset)) =
      (List.range count).flatMap fun offset =>
        decoder.columnPaints (decoder.column + offset) (right offset) := by
    apply List.flatMap_congr
    intro offset inside
    rw [same offset (List.mem_range.mp inside)]
  rw [paintColumns, paints]
  rfl

/-- `!n` followed by a sixel paints it `n` times. -/
theorem run_repeat {decoder : Decoder} (idle : decoder.command = .idle)
    (single : decoder.repeats = 1) {bits : Nat} (small : bits < 64) (count : Nat) :
    decoder.run (0x21 :: numeral count ++ [UInt8.ofNat (0x3f + bits)]) =
      decoder.paintSixel bits count := by
  have boundary : Starts [UInt8.ofNat (0x3f + bits)] := by
    rw [starts_cons]
    interval_cases bits <;> decide
  have counted : decoder.run (0x21 :: numeral count) = { decoder with repeats := count } := by
    have known : (0x21 : UInt8) = 0x23 ∨ (0x21 : UInt8) = 0x21 ∨ (0x21 : UInt8) = 0x22 := by
      decide
    have command := run_command_bytes known count [] idle
    simpa [parameterBytes, execute] using command
  rw [run_append boundary, counted, run_sixel (by exact idle) small]
  simp [paintSixel, paintColumns, columnPaints, ← single]

end Decoder

/-! ### What a piece of sixel data performs -/

/-- Between two commands. -/
structure Decoder.Ready (decoder : Decoder) : Prop where
  idle : decoder.command = .idle
  single : decoder.repeats = 1

/-- The bytes are whole commands, may stand inside a control string, and carry
out `effect`. -/
structure Performs (bytes : List UInt8) (effect : Decoder → Decoder) : Prop where
  starts : Starts bytes
  uninterrupted : Uninterrupted bytes
  ready : ∀ decoder, Decoder.Ready decoder → (effect decoder).Ready
  run : ∀ decoder, Decoder.Ready decoder → decoder.run bytes = effect decoder

namespace Performs

theorem nil : Performs [] id where
  starts := starts_nil
  uninterrupted := by simp
  ready := fun _ => id
  run := fun _ ready => Decoder.finish_of_idle ready.idle

theorem append {left right : List UInt8} {first second : Decoder → Decoder}
    (leftPerforms : Performs left first) (rightPerforms : Performs right second) :
    Performs (left ++ right) (second ∘ first) where
  starts := leftPerforms.starts.append rightPerforms.starts
  uninterrupted := by
    rw [uninterrupted_append]
    exact ⟨leftPerforms.uninterrupted, rightPerforms.uninterrupted⟩
  ready := fun decoder ready => rightPerforms.ready _ (leftPerforms.ready decoder ready)
  run := by
    intro decoder ready
    rw [Decoder.run_append rightPerforms.starts, leftPerforms.run decoder ready,
      rightPerforms.run _ (leftPerforms.ready decoder ready)]
    rfl

/-- Two effects that agree between commands are interchangeable. -/
theorem congr {bytes : List UInt8} {effect other : Decoder → Decoder}
    (performs : Performs bytes effect)
    (same : ∀ decoder, Decoder.Ready decoder → effect decoder = other decoder) :
    Performs bytes other where
  starts := performs.starts
  uninterrupted := performs.uninterrupted
  ready := fun decoder ready => same decoder ready ▸ performs.ready decoder ready
  run := fun decoder ready => (performs.run decoder ready).trans (same decoder ready)

theorem flatMap {α : Type} {items : List α} {bytes : α → List UInt8}
    {effect : α → Decoder → Decoder}
    (performs : ∀ item ∈ items, Performs (bytes item) (effect item)) :
    Performs (items.flatMap bytes)
      (fun decoder => items.foldl (fun decoder item => effect item decoder) decoder) := by
  induction items with
  | nil => exact nil
  | cons item items inductionHypothesis =>
      have first := performs item (by simp)
      have rest := inductionHypothesis fun later member => performs later (by simp [member])
      rw [List.flatMap_cons]
      exact first.append rest

theorem uninterrupted_numeral (value : Nat) : Uninterrupted (numeral value) := by
  intro byte member
  have digit := isDigit_of_mem_numeral member
  by_contra interrupted
  simp only [interrupts, Bool.or_eq_false_iff, decide_eq_false_iff_not, not_and_or,
    not_not] at interrupted
  rcases interrupted with (escape | cancel) | substitute
  · rw [escape] at digit
    exact absurd digit (by decide)
  · rw [cancel] at digit
    exact absurd digit (by decide)
  · rw [substitute] at digit
    exact absurd digit (by decide)

theorem uninterrupted_parameterBytes : ∀ parameters : List Nat,
    Uninterrupted (Decoder.parameterBytes parameters)
  | [] => by simp [Decoder.parameterBytes]
  | [value] => uninterrupted_numeral value
  | value :: next :: rest => by
      have here := uninterrupted_numeral value
      have later := uninterrupted_parameterBytes (next :: rest)
      rw [Decoder.parameterBytes, uninterrupted_append, uninterrupted_append]
      exact ⟨⟨here, by decide⟩, later⟩

/-- A command with parameters, when what it does leaves the decoder ready. -/
theorem command {introducer : UInt8}
    (known : introducer = 0x23 ∨ introducer = 0x21 ∨ introducer = 0x22) (value : Nat)
    (rest : List Nat) {effect : Decoder → Decoder}
    (does : ∀ decoder : Decoder, decoder.execute introducer (value :: rest) = effect decoder)
    (keeps : ∀ decoder, (effect decoder).repeats = decoder.repeats) :
    Performs (introducer :: Decoder.parameterBytes (value :: rest)) effect where
  starts := by
    rw [starts_cons]
    rcases known with rfl | rfl | rfl <;> decide
  uninterrupted := by
    rw [uninterrupted_cons]
    refine ⟨?_, uninterrupted_parameterBytes _⟩
    rcases known with rfl | rfl | rfl <;> decide
  ready := by
    intro decoder ready
    refine ⟨?_, (keeps decoder).trans ready.single⟩
    rw [← does, Decoder.execute_command, ready.idle]
  run := by
    intro decoder ready
    rw [Decoder.run_command_bytes known value rest ready.idle, does]

theorem carriageReturn : Performs [0x24] fun decoder => { decoder with column := 0 } where
  starts := by
    rw [starts_cons]
    decide
  uninterrupted := by decide
  ready := fun _ ready => ⟨ready.idle, ready.single⟩
  run := fun _ ready => Decoder.run_return ready.idle

theorem nextBand :
    Performs [0x2d] fun decoder => { decoder with column := 0, band := decoder.band + 1 } where
  starts := by
    rw [starts_cons]
    decide
  uninterrupted := by decide
  ready := fun _ ready => ⟨ready.idle, ready.single⟩
  run := fun _ ready => Decoder.run_nextBand ready.idle

theorem sixel {bits : Nat} (small : bits < 64) :
    Performs [UInt8.ofNat (0x3f + bits)] fun decoder => decoder.paintSixel bits 1 where
  starts := by
    rw [starts_cons]
    interval_cases bits <;> decide
  uninterrupted := by interval_cases bits <;> decide
  ready := fun _ ready => ⟨ready.idle, ready.single⟩
  run := by
    intro decoder ready
    rw [Decoder.run_sixel ready.idle small, ready.single]
    simp [Decoder.paintSixel, Decoder.paintColumns, Decoder.columnPaints, ready.single]

theorem repeated {bits : Nat} (small : bits < 64) (count : Nat) :
    Performs (0x21 :: numeral count ++ [UInt8.ofNat (0x3f + bits)])
      fun decoder => decoder.paintSixel bits count where
  starts := by
    rw [List.cons_append, starts_cons]
    decide
  uninterrupted := by
    rw [List.cons_append, uninterrupted_cons, uninterrupted_append]
    exact ⟨by decide, uninterrupted_numeral count, (sixel small).uninterrupted⟩
  ready := fun _ ready => ⟨ready.idle, ready.single⟩
  run := fun _ ready => Decoder.run_repeat ready.idle ready.single small count

end Performs

end Sixel
