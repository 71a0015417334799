import Rasterm.Encoder.Registers

/-!
Contract: which definitions an omitting control string relies on.

Owns the control strings of a history of frames, the last definitions in such a history,
and that an encoder keeps definitions back only when the last ones have the same
signature and are recent enough.
-/

set_option autoImplicit false

namespace Rasterm

open Sixel

/-! ### Histories of control strings -/

/-- One control string, and the decision it was written with. -/
structure ControlString where
  view : Frame
  table : VideoSixelEncoder.RegisterTable
  defines : Bool
  bytes : List UInt8

namespace ControlString

def signature (string : ControlString) : UInt64 := string.table.signature

/-- The definitions are in the bytes exactly when the decision was to send them. -/
def WrittenWith (options : SixelOptions) (string : ControlString) : Prop :=
  string.bytes = streamBytes options
    (registerPieces (if string.defines then string.table.registers else []) string.table.colors)
    string.table.image string.view.width.toNat string.view.height.toNat

theorem WrittenWith.framed {options : SixelOptions} {string : ControlString}
    (written : string.WrittenWith options) : IsControlString string.bytes := by
  rw [WrittenWith] at written
  rw [written]
  exact isControlString_streamBytes _ _ _ _ _ _

end ControlString

/-- The last definitions in a history, one list of control strings for each frame: their
signature, and the number of frames begun since. -/
def LastDefined (history : List (List ControlString)) (signature : UInt64) (age : Nat) : Prop :=
  ∃ before first definition last after,
    history = before ++ (first ++ definition :: last) :: after ∧
      definition.defines = true ∧ definition.signature = signature ∧
      (∀ later ∈ last ++ after.flatten, later.defines = false) ∧ after.length = age

namespace LastDefined

variable {history : List (List ControlString)} {current : List ControlString}
  {string : ControlString} {signature : UInt64} {age : Nat}

theorem begin (defined : LastDefined history signature age) :
    LastDefined (history ++ [[]]) signature (age + 1) := by
  rcases defined with ⟨before, first, definition, last, after, split, defines, same, silent, count⟩
  refine ⟨before, first, definition, last, after ++ [[]], ?_, defines, same, ?_, ?_⟩
  · rw [split, List.append_assoc, List.cons_append]
  · rw [List.flatten_append, List.flatten_singleton, List.append_nil]
    exact silent
  · rw [List.length_append, count, List.length_singleton]

/-- A control string without definitions changes nothing. -/
theorem keepBack (defined : LastDefined (history ++ [current]) signature age)
    (omitted : string.defines = false) :
    LastDefined (history ++ [current ++ [string]]) signature age := by
  rcases defined with ⟨before, first, definition, last, after, split, defines, same, silent, count⟩
  rcases List.eq_nil_or_concat after with none | ⟨between, final, some⟩
  · subst none
    rcases List.append_inj' split rfl with ⟨beforeEq, currentEq⟩
    rw [List.singleton_inj] at currentEq
    refine ⟨before, first, definition, last ++ [string], [], ?_, defines, same, ?_, count⟩
    · rw [beforeEq, currentEq, List.append_assoc, List.cons_append]
    · intro later member
      rw [List.flatten_nil, List.append_nil, List.mem_append, List.mem_singleton] at member
      rcases member with earlier | new
      · exact silent later (by rw [List.mem_append]; exact Or.inl earlier)
      · rw [new]
        exact omitted
  · rw [List.concat_eq_append] at some
    subst some
    have regrouped : before ++ (first ++ definition :: last) :: (between ++ [final]) =
        (before ++ (first ++ definition :: last) :: between) ++ [final] := by
      rw [List.append_assoc, List.cons_append]
    rcases List.append_inj' (split.trans regrouped) rfl with ⟨historyEq, currentEq⟩
    rw [List.singleton_inj] at currentEq
    refine ⟨before, first, definition, last, between ++ [current ++ [string]], ?_, defines, same,
      ?_, ?_⟩
    · rw [historyEq, List.append_assoc, List.cons_append]
    · intro later member
      rw [currentEq, List.flatten_append, List.flatten_singleton, ← List.append_assoc,
        ← List.append_assoc, List.mem_append, List.mem_singleton] at member
      rcases member with earlier | new
      · apply silent later
        rwa [List.flatten_append, List.flatten_singleton, ← List.append_assoc]
      · rw [new]
        exact omitted
    · rw [← count, List.length_append, List.length_append, List.length_singleton,
        List.length_singleton]

theorem define (defines : string.defines = true) :
    LastDefined (history ++ [current ++ [string]]) string.signature 0 :=
  ⟨history, current, string, [], [], rfl, defines, rfl,
    (fun _ none => absurd none List.not_mem_nil), rfl⟩

end LastDefined

/-- Every control string of the current frame that omits its definitions relies on earlier ones
of the same signature, from fewer frames ago than the refresh interval. -/
def Supported (options : SixelOptions) (history : List (List ControlString))
    (current : List ControlString) : Prop :=
  ∀ first string last, current = first ++ string :: last → string.defines = false →
    ∃ age, LastDefined (history ++ [first]) string.signature age ∧
      (0 < options.paletteRefreshFrames → (age : Int) < options.paletteRefreshFrames)

theorem supported_nil (options : SixelOptions) (history : List (List ControlString)) :
    Supported options history [] := by
  intro first string last split
  have length := congrArg List.length split
  simp at length

theorem Supported.snoc {options : SixelOptions} {history : List (List ControlString)}
    {current : List ControlString} {string : ControlString}
    (supported : Supported options history current)
    (backed : string.defines = false → ∃ age,
      LastDefined (history ++ [current]) string.signature age ∧
        (0 < options.paletteRefreshFrames → (age : Int) < options.paletteRefreshFrames)) :
    Supported options history (current ++ [string]) := by
  intro first other last split omits
  rcases List.eq_nil_or_concat last with none | ⟨between, final, some⟩
  · subst none
    rcases List.append_inj' split rfl with ⟨same, single⟩
    rw [List.singleton_inj] at single
    rw [← same, ← single]
    rw [← single] at omits
    exact backed omits
  · rw [some, List.concat_eq_append, ← List.cons_append, ← List.append_assoc] at split
    exact supported first other between (List.append_inj' split rfl).1 omits

namespace VideoSixelEncoder

variable {host : Host} {encoder : VideoSixelEncoder} {frame : Frame}

def controlString (host : Host) (encoder : VideoSixelEncoder) (frame : Frame) : ControlString where
  view := frame
  table := encoder.table host frame
  defines := (encoder.shouldEmitPalette (encoder.table host frame).signature).2
  bytes := (encoder.encodeAny host frame).2

theorem writtenWith_controlString (adapted : encoder.Adapted) (readable : frame.Readable)
    (fits : (encoder.encodeAny host frame).1.limitExceeded = false) :
    (encoder.controlString host frame).WrittenWith encoder.options := by
  rcases encodeAny_bytes host (adapted.mayEncode frame) readable with ⟨bytes, exceeded⟩
  rw [exceeded] at fits
  rw [if_neg (Bool.eq_false_iff.mp fits)] at bytes
  exact bytes

/-! ### The age of the registers -/

theorem age_prepareFrame (host : Host) (encoder : VideoSixelEncoder) (view : FrameView) :
    (encoder.prepareFrame host view).framesSincePaletteRefresh =
      encoder.beginLogicalFrame.framesSincePaletteRefresh := by
  unfold prepareFrame adaptPalette rebuild
  simp only
  split_ifs <;> rfl

theorem age_prepare (host : Host) (encoder : VideoSixelEncoder) (frame : Frame) :
    (encoder.prepare host frame).framesSincePaletteRefresh =
      encoder.beginLogicalFrame.framesSincePaletteRefresh := by
  cases frame with
  | packed view => exact age_prepareFrame host encoder view
  | indexed _ => rfl

theorem age_prepareRegional (host : Host) (encoder : VideoSixelEncoder) (frame : Frame) :
    (encoder.prepareRegional host frame).framesSincePaletteRefresh =
      encoder.beginLogicalFrame.framesSincePaletteRefresh := by
  cases frame with
  | packed view =>
      simp only [prepareRegional, prepareRegionalFrame]
      split_ifs
      · rfl
      · exact age_prepareFrame host encoder view
  | indexed _ => rfl

theorem age_prepareArea (host : Host) (encoder : VideoSixelEncoder) (region : DamageRegion)
    (frame : Frame) :
    (encoder.prepareArea host region frame).framesSincePaletteRefresh =
      encoder.framesSincePaletteRefresh := by
  cases frame with
  | packed view =>
      simp only [prepareArea, prepareRegion, rebuild]
      split_ifs <;> rfl
  | indexed _ => rfl

theorem age_encodeAny (host : Host) (encoder : VideoSixelEncoder) (frame : Frame) :
    (encoder.encodeAny host frame).1.framesSincePaletteRefresh =
      (encoder.shouldEmitPalette
        (encoder.table host frame).signature).1.framesSincePaletteRefresh :=
  (decided_encodeAny host encoder frame).2

/-! ### Held definitions -/

/-- The signature held is that of the last definitions, and the frame counter counts the
frames begun since, up to the refresh interval. -/
structure Backed (encoder : VideoSixelEncoder) (history : List (List ControlString)) : Prop where
  persist : encoder.options.persistPaletteRegisters = true
  definitions : encoder.paletteRegistersValid = true →
    ∃ age, LastDefined history encoder.paletteSignature age ∧
      (0 < encoder.options.paletteRefreshFrames →
        encoder.framesSincePaletteRefresh = min (age : Int) encoder.options.paletteRefreshFrames)

namespace Backed

variable {history : List (List ControlString)} {current : List ControlString}

theorem of_invalid (persist : encoder.options.persistPaletteRegisters = true)
    (invalid : encoder.paletteRegistersValid = false) : encoder.Backed history := by
  refine ⟨persist, ?_⟩
  intro valid
  rw [invalid] at valid
  cases valid

/-- Only the register bookkeeping matters. -/
theorem of_sameRegisters (backed : encoder.Backed history) {other : VideoSixelEncoder}
    (same : encoder.SameRegisters other)
    (age : other.framesSincePaletteRefresh = encoder.framesSincePaletteRefresh) :
    other.Backed history := by
  rcases same with ⟨options, -, valid, signature⟩
  refine ⟨by rw [options]; exact backed.persist, ?_⟩
  rw [options, valid, signature, age]
  exact backed.definitions

/-- A new frame is one more since the last definitions. -/
theorem begin (backed : encoder.Backed history) {begun : VideoSixelEncoder}
    (same : encoder.SameRegisters begun)
    (counted : begun.framesSincePaletteRefresh =
      encoder.beginLogicalFrame.framesSincePaletteRefresh) :
    begun.Backed (history ++ [[]]) := by
  rcases same with ⟨options, -, validSame, signature⟩
  refine ⟨by rw [options]; exact backed.persist, ?_⟩
  intro valid
  rw [validSame] at valid
  rcases backed.definitions valid with ⟨age, defined, count⟩
  refine ⟨age + 1, by rw [signature]; exact defined.begin, ?_⟩
  intro refreshes
  rw [options] at refreshes ⊢
  have counted := counted
  rw [beginLogicalFrame, valid] at counted
  have known := count refreshes
  by_cases below : encoder.framesSincePaletteRefresh < encoder.options.paletteRefreshFrames
  · rw [if_pos ⟨rfl, refreshes, below⟩] at counted
    simp only at counted
    omega
  · rw [if_neg (fun both => below both.2.2)] at counted
    omega

/-- What is kept back was defined before, under the same signature, few enough frames ago. -/
theorem omitted (backed : encoder.Backed history) {signature : UInt64}
    (omits : (encoder.shouldEmitPalette signature).2 = false) :
    ∃ age, LastDefined history signature age ∧
      (0 < encoder.options.paletteRefreshFrames →
        (age : Int) < encoder.options.paletteRefreshFrames) := by
  rcases shouldEmitPalette_spec backed.persist signature with ⟨-, -, -, -, keptBack⟩
  rcases keptBack omits with ⟨valid, same, notDue⟩
  rcases backed.definitions valid with ⟨age, defined, count⟩
  refine ⟨age, by rw [same]; exact defined, ?_⟩
  intro refreshes
  have known := count refreshes
  simp only [refreshDue, gt_iff_lt, refreshes, decide_true, Bool.true_and, ge_iff_le,
    decide_eq_false_iff_not, not_le] at notDue
  omega

/-- One control string more, whatever its decision was. -/
theorem encodeAny (backed : encoder.Backed (history ++ [current])) (host : Host) (frame : Frame) :
    (encoder.encodeAny host frame).1.Backed
      (history ++ [current ++ [encoder.controlString host frame]]) := by
  have same := sameRegisters_encodeAny host encoder frame
  have age := age_encodeAny host encoder frame
  suffices decided : Backed
      (encoder.shouldEmitPalette (encoder.table host frame).signature).1
      (history ++ [current ++ [encoder.controlString host frame]]) from
    decided.of_sameRegisters same age
  by_cases defines : (encoder.shouldEmitPalette (encoder.table host frame).signature).2 = true
  · rcases shouldEmitPalette_spec backed.persist (encoder.table host frame).signature with
      ⟨-, held, options, -, -⟩
    refine ⟨by rw [options]; exact backed.persist, ?_⟩
    intro _
    refine ⟨0, ?_, ?_⟩
    · rw [held]
      exact LastDefined.define defines
    · intro refreshes
      have counted : (encoder.shouldEmitPalette
          (encoder.table host frame).signature).1.framesSincePaletteRefresh = 0 := by
        unfold shouldEmitPalette at defines ⊢
        rw [backed.persist] at defines ⊢
        split_ifs at defines ⊢ with never due
        · cases never
        · rfl
      omega
  · rw [Bool.not_eq_true] at defines
    have unchanged : (encoder.shouldEmitPalette (encoder.table host frame).signature).1 =
        encoder := by
      unfold shouldEmitPalette at defines ⊢
      rw [backed.persist] at defines ⊢
      split_ifs at defines ⊢
      rfl
    rw [unchanged]
    refine ⟨backed.persist, ?_⟩
    intro valid
    rcases backed.definitions valid with ⟨age, defined, count⟩
    exact ⟨age, defined.keepBack defines, count⟩

end Backed

end VideoSixelEncoder

end Rasterm
