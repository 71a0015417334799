import Rasterm.Encoder.Table

/-!
Contract: palette registers kept between images.

Owns the session of an encoder and a terminal that keeps its colour registers,
the law that a control string is read with the colours of its own frame, the
pair of palettes whose signatures collide, and the law for every run without
such a collision.
-/

set_option autoImplicit false

namespace Rasterm

open Sixel

/-! ### Calls -/

inductive EncoderCall where
  | prepare (frame : Frame)
  | prepareRegional (frame : Frame)
  | prepareArea (frame : Frame) (region : DamageRegion)
  | encode (frame : Frame)
  | encodeArea (frame : Frame) (region : DamageRegion)
  | reset

namespace EncoderCall

def run (host : Host) (call : EncoderCall) (encoder : VideoSixelEncoder) :
    VideoSixelEncoder × List UInt8 :=
  match call with
  | prepare frame => (encoder.prepare host frame, [])
  | prepareRegional frame => (encoder.prepareRegional host frame, [])
  | prepareArea frame region => (encoder.prepareArea host region frame, [])
  | encode frame => encoder.encode host frame
  | encodeArea frame region => encoder.encodeArea host region frame
  | reset => (encoder.reset, [])

/-- The view an accepted encode call works on. -/
def view : EncoderCall → Option Frame
  | encode frame => if frame.isValid then some frame else none
  | encodeArea frame region =>
      if frame.isValid && VideoSixelEncoder.regionInside region frame.width frame.height then
        some (frame.region region)
      else none
  | _ => none

theorem view_encode {frame : Frame} (valid : frame.isValid = true) :
    (encode frame).view = some frame :=
  if_pos valid

/-- What callers promise: a frame passed to an encode call has valid indices. -/
def Promised : EncoderCall → Prop
  | encode frame => frame.isValid = true → frame.isReadable = true
  | encodeArea frame _ => frame.isValid = true → frame.isReadable = true
  | _ => True

theorem Promised.readable {call : EncoderCall} (promised : call.Promised) {frame : Frame}
    (isView : call.view = some frame) : frame.Readable := by
  cases call with
  | encode full =>
      simp only [view, Option.ite_none_right_eq_some, Option.some.injEq] at isView
      obtain ⟨valid, rfl⟩ := isView
      exact Frame.readable_of_isReadable (promised valid)
  | encodeArea full region =>
      simp only [view, Option.ite_none_right_eq_some, Option.some.injEq, Bool.and_eq_true] at isView
      obtain ⟨⟨valid, inside⟩, rfl⟩ := isView
      exact (Frame.readable_of_isReadable (promised valid)).region inside
  | prepare _ => cases isView
  | prepareRegional _ => cases isView
  | prepareArea _ _ => cases isView
  | reset => cases isView

/-- A call with a view is an `encodeView` of it. -/
theorem run_of_view (host : Host) {call : EncoderCall} {frame : Frame}
    (isView : call.view = some frame) (encoder : VideoSixelEncoder) :
    call.run host encoder = encoder.encodeAny host frame := by
  cases call with
  | encode full =>
      simp only [view, Option.ite_none_right_eq_some, Option.some.injEq] at isView
      rw [run, VideoSixelEncoder.encode_eq, if_pos isView.1, isView.2]
  | encodeArea full region =>
      simp only [view, Option.ite_none_right_eq_some, Option.some.injEq] at isView
      rw [run, VideoSixelEncoder.encodeArea_eq, if_pos isView.1, isView.2]
  | prepare _ => cases isView
  | prepareRegional _ => cases isView
  | prepareArea _ _ => cases isView
  | reset => cases isView

theorem adapted_run (host : Host) (call : EncoderCall) {encoder : VideoSixelEncoder}
    (adapted : encoder.Adapted) : (call.run host encoder).1.Adapted := by
  cases call with
  | prepare frame => exact adapted.prepare host frame
  | prepareRegional frame => exact adapted.prepareRegional host frame
  | prepareArea frame region => exact adapted.prepareArea host region frame
  | encode frame => exact adapted.encode host frame
  | encodeArea frame region => exact adapted.encodeArea host region frame
  | reset => exact adapted.reset

end EncoderCall

/-! ### Sessions -/

/-- An encoder and the terminal that reads its output. `lastTable` records the table of
the last encode call since the encoder was reset. -/
structure Session where
  encoder : VideoSixelEncoder
  registers : Registers := fun _ => none
  lastTable : Option VideoSixelEncoder.RegisterTable := none

namespace Session

variable (host : Host)

/-- The terminal reads one control string. -/
def display (registers : Registers) (bytes : List UInt8) : Registers :=
  match decode registers bytes with
  | some decoder => decoder.registers
  | none => registers

def step (session : Session) (call : EncoderCall) : Session :=
  let result := call.run host session.encoder
  { encoder := result.1
    registers := display session.registers result.2
    lastTable :=
      match call with
      | .reset => none
      | _ =>
          match call.view with
          | some frame => some (session.encoder.table host frame)
          | none => session.lastTable }

def run (session : Session) (calls : List EncoderCall) : Session := calls.foldl (step host) session

/-- The control string of an encode call is read with the colours of its own frame:
every pixel is painted in the colour the frame's palette gives its register, and
afterwards all registers of that palette hold its colours. -/
def ReadsRight (session : Session) (call : EncoderCall) : Prop :=
  ∀ frame, call.view = some frame →
    ∃ decoder, decode session.registers (call.run host session.encoder).2 = some decoder ∧
      (∀ paint ∈ decoder.paints,
        paint.color = some ((session.encoder.table host frame).colors paint.register)) ∧
      ∀ register ∈ (session.encoder.table host frame).registers,
        decoder.registers register = some ((session.encoder.table host frame).colors register)

/-- An encode call that finds its own signature held, before a refresh is due, uses
the register table that the previous encode call used. -/
def NoCollision (session : Session) (call : EncoderCall) : Prop :=
  ∀ frame, call.view = some frame → ∀ last, session.lastTable = some last →
    session.encoder.refreshDue = false →
    (session.encoder.table host frame).signature = last.signature →
    ∀ register ∈ (session.encoder.table host frame).registers,
      register ∈ last.registers ∧
        last.colors register = (session.encoder.table host frame).colors register

end Session

/-! ### What the calls do to the bookkeeping -/

namespace VideoSixelEncoder

/-- Options, limit and register bookkeeping, but for the age of the registers, agree. -/
structure SameRegisters (before after : VideoSixelEncoder) : Prop where
  options : after.options = before.options
  outputLimit : after.outputLimit = before.outputLimit
  valid : after.paletteRegistersValid = before.paletteRegistersValid
  signature : after.paletteSignature = before.paletteSignature

theorem sameRegisters_beginLogicalFrame (encoder : VideoSixelEncoder) :
    SameRegisters encoder encoder.beginLogicalFrame := by
  unfold beginLogicalFrame
  split_ifs <;> exact ⟨rfl, rfl, rfl, rfl⟩

theorem sameRegisters_prepareFrame (host : Host) (encoder : VideoSixelEncoder)
    (frame : FrameView) : SameRegisters encoder (encoder.prepareFrame host frame) := by
  obtain ⟨options, limit, valid, signature⟩ := sameRegisters_beginLogicalFrame encoder
  unfold prepareFrame adaptPalette rebuild
  simp only
  split_ifs <;> exact ⟨options, limit, valid, signature⟩

theorem sameRegisters_prepare (host : Host) (encoder : VideoSixelEncoder) (frame : Frame) :
    SameRegisters encoder (encoder.prepare host frame) := by
  cases frame with
  | packed view => exact sameRegisters_prepareFrame host encoder view
  | indexed _ =>
      obtain ⟨options, limit, valid, signature⟩ := sameRegisters_beginLogicalFrame encoder
      exact ⟨options, limit, valid, signature⟩

theorem sameRegisters_prepareRegional (host : Host) (encoder : VideoSixelEncoder)
    (frame : Frame) : SameRegisters encoder (encoder.prepareRegional host frame) := by
  obtain ⟨options, limit, valid, signature⟩ := sameRegisters_beginLogicalFrame encoder
  cases frame with
  | packed view =>
      simp only [prepareRegional, prepareRegionalFrame]
      split_ifs
      · exact ⟨options, limit, valid, signature⟩
      · exact sameRegisters_prepareFrame host encoder view
  | indexed _ => exact ⟨options, limit, valid, signature⟩

theorem sameRegisters_prepareArea (host : Host) (encoder : VideoSixelEncoder)
    (region : DamageRegion) (frame : Frame) :
    SameRegisters encoder (encoder.prepareArea host region frame) := by
  cases frame with
  | packed view =>
      simp only [prepareArea, prepareRegion, rebuild]
      split_ifs <;> exact ⟨rfl, rfl, rfl, rfl⟩
  | indexed _ => exact ⟨rfl, rfl, rfl, rfl⟩

/-- Encoding takes the bookkeeping through one decision. -/
theorem decided_encodeAny (host : Host) (encoder : VideoSixelEncoder) (frame : Frame) :
    let decided := (encoder.shouldEmitPalette (encoder.table host frame).signature).1
    SameRegisters decided (encoder.encodeAny host frame).1 ∧
      (encoder.encodeAny host frame).1.framesSincePaletteRefresh =
        decided.framesSincePaletteRefresh := by
  have optionsKept : ∀ (state : VideoSixelEncoder) (signature : UInt64),
      (state.shouldEmitPalette signature).1.options = state.options ∧
        (state.shouldEmitPalette signature).1.outputLimit = state.outputLimit := by
    intro state signature
    rw [shouldEmitPalette_frame]
    exact ⟨rfl, rfl⟩
  cases frame with
  | packed view =>
      obtain ⟨options, limit, valid, held, age⟩ := mapped_frame host encoder view
      have decision := shouldEmitPalette_congr (paletteHash (encoder.mapped host view).packedTable)
        options valid held age
      have same : ({ encoder with limitExceeded := false }.mapPixels host
          (ditheredSource host encoder.options view)).1 = encoder.mapped host view := rfl
      simp only [encodeAny, encodeView, table, same, packedSignature_eq]
      rw [write_frame]
      refine ⟨⟨?_, ?_, decision.2.1, decision.2.2.1⟩, decision.2.2.2⟩
      · exact (optionsKept _ _).1.trans (options.trans (optionsKept encoder _).1.symm)
      · exact (optionsKept _ _).2.trans (limit.trans (optionsKept encoder _).2.symm)
  | indexed view =>
      let started : VideoSixelEncoder :=
        { encoder with
          limitExceeded := false
          paletteIndices := Rows.layRows
            (fun x y => view.index x y + UInt8.ofNat (registerOffset view))
            view.width.toNat view.height.toNat }
      have decision := @shouldEmitPalette_congr started encoder
        (callerPaletteHash view.palette.entries (registerOffset view)) rfl rfl rfl rfl
      simp only [encodeAny, encodeIndexedView, table]
      rw [write_frame]
      refine ⟨⟨?_, ?_, decision.2.1, decision.2.2.1⟩, decision.2.2.2⟩
      · exact (optionsKept started _).1.trans (optionsKept encoder _).1.symm
      · exact (optionsKept started _).2.trans (optionsKept encoder _).2.symm

theorem sameRegisters_encodeAny (host : Host) (encoder : VideoSixelEncoder) (frame : Frame) :
    SameRegisters (encoder.shouldEmitPalette (encoder.table host frame).signature).1
      (encoder.encodeAny host frame).1 :=
  (decided_encodeAny host encoder frame).1

/-- A decision leaves the signature held; definitions are kept back only when it was
held already and no refresh is due. -/
theorem shouldEmitPalette_spec {encoder : VideoSixelEncoder}
    (persist : encoder.options.persistPaletteRegisters = true) (signature : UInt64) :
    (encoder.shouldEmitPalette signature).1.paletteRegistersValid = true ∧
      (encoder.shouldEmitPalette signature).1.paletteSignature = signature ∧
      (encoder.shouldEmitPalette signature).1.options = encoder.options ∧
      (encoder.shouldEmitPalette signature).1.outputLimit = encoder.outputLimit ∧
      ((encoder.shouldEmitPalette signature).2 = false →
        encoder.paletteRegistersValid = true ∧ signature = encoder.paletteSignature ∧
          encoder.refreshDue = false) := by
  unfold shouldEmitPalette
  simp only [persist, Bool.not_true, Bool.false_eq_true, if_false]
  split_ifs with due
  · exact ⟨rfl, rfl, rfl, rfl, fun kept => by cases kept⟩
  · simp only [Bool.not_eq_true', not_or, Bool.not_eq_false, ne_eq, not_not,
      Bool.not_eq_true] at due
    exact ⟨due.1, due.2.1.symm, rfl, rfl, fun _ => due⟩

end VideoSixelEncoder

/-! ### Runs without a collision -/

/-- The terminal holds the table whose signature the encoder holds. -/
structure Session.Held (session : Session) : Prop where
  adapted : session.encoder.Adapted
  persist : session.encoder.options.persistPaletteRegisters = true
  unlimited : session.encoder.outputLimit = 0
  held : session.encoder.paletteRegistersValid = true →
    ∃ last, session.lastTable = some last ∧ last.signature = session.encoder.paletteSignature ∧
      ∀ register ∈ last.registers, session.registers register = some (last.colors register)

namespace Session

variable {host : Host} {session : Session}

/-- Calls that only prepare keep what is held. -/
private theorem Held.of_sameRegisters (held : session.Held) {encoder : VideoSixelEncoder}
    (adapted : encoder.Adapted) (same : session.encoder.SameRegisters encoder) :
    { session with encoder := encoder }.Held where
  adapted := adapted
  persist := by
    rw [same.options]
    exact held.persist
  unlimited := same.outputLimit.trans held.unlimited
  held := by
    intro valid
    obtain ⟨last, isLast, signature, colors⟩ := held.held (same.valid.symm.trans valid)
    exact ⟨last, isLast, signature.trans same.signature.symm, colors⟩

/-- The registers of a frame after its control string, whether sent or held. -/
private theorem Held.registers_after (held : session.Held) {call : EncoderCall}
    (distinct : session.NoCollision host call) {frame : Frame} (isView : call.view = some frame) :
    ∀ register ∈ (session.encoder.table host frame).registers,
      defineAll
          (if (session.encoder.shouldEmitPalette
              (session.encoder.table host frame).signature).2 = true
            then (session.encoder.table host frame).registers else [])
          (session.encoder.table host frame).colors session.registers register =
        some ((session.encoder.table host frame).colors register) := by
  intro register member
  by_cases sent : (session.encoder.shouldEmitPalette
      (session.encoder.table host frame).signature).2 = true
  · rw [if_pos sent, defineAll, if_pos member]
  · obtain ⟨-, -, -, -, keptBack⟩ :=
      VideoSixelEncoder.shouldEmitPalette_spec held.persist
        (session.encoder.table host frame).signature
    obtain ⟨valid, signature, notDue⟩ := keptBack (by simpa using sent)
    obtain ⟨last, isLast, lastSignature, colors⟩ := held.held valid
    obtain ⟨lastMember, sameColor⟩ := distinct frame isView last isLast notDue
      (signature.trans lastSignature.symm) register member
    rw [if_neg sent, defineAll, if_neg List.not_mem_nil, colors register lastMember, sameColor]

/-- Every painted pixel is a pixel of the image. -/
private theorem mem_imagePaints {registers : Registers} {image : Nat → Nat → Nat}
    {width height : Nat} {paint : Paint} (member : paint ∈ imagePaints registers image width height) :
    ∃ x < width, ∃ y < height, paint.register = image x y ∧
      paint.color = registers (image x y) := by
  have here : paint ∈ (imagePaints registers image width height).filter
      (Paint.isAt paint.x paint.y) := by
    rw [List.mem_filter]
    exact ⟨member, by simp [Paint.isAt]⟩
  rw [filter_imagePaints] at here
  split_ifs at here with inside
  · have same := List.mem_singleton.mp here
    exact ⟨paint.x, inside.1, paint.y, inside.2, congrArg Paint.register same,
      congrArg Paint.color same⟩
  · exact absurd here List.not_mem_nil

/-- The decoder's state after the control string of an encode call. -/
private theorem Held.decoded (held : session.Held) {call : EncoderCall} {frame : Frame}
    (isView : call.view = some frame) (promised : call.Promised) :
    ∃ decoder,
      decode session.registers (call.run host session.encoder).2 = some decoder ∧
      decoder.registers = defineAll
        (if (session.encoder.shouldEmitPalette
            (session.encoder.table host frame).signature).2 = true
          then (session.encoder.table host frame).registers else [])
        (session.encoder.table host frame).colors session.registers ∧
      decoder.paints = imagePaints decoder.registers (session.encoder.table host frame).image
        frame.width.toNat frame.height.toNat := by
  have bytes := EncoderCall.run_of_view host isView session.encoder
  obtain ⟨written, -⟩ := VideoSixelEncoder.encodeAny_bytes host (held.adapted.mayEncode frame)
    (promised.readable isView)
  rw [VideoSixelEncoder.streamed_of_unlimited held.unlimited] at written
  simp only [Bool.false_eq_true, if_false] at written
  obtain ⟨decoder, decoded, -, registers, paints⟩ :=
    decode_streamBytes session.encoder.options
      (if (session.encoder.shouldEmitPalette (session.encoder.table host frame).signature).2 = true
        then (session.encoder.table host frame).registers else [])
      (session.encoder.table host frame).colors (session.encoder.table host frame).image
      frame.width.toNat frame.height.toNat session.registers
  refine ⟨decoder, ?_, registers, ?_⟩
  · rw [bytes, written]
    exact decoded
  · rw [paints, registers]

theorem Held.readsRight (held : session.Held) {call : EncoderCall} (promised : call.Promised)
    (distinct : session.NoCollision host call) : session.ReadsRight host call := by
  intro frame isView
  obtain ⟨decoder, decoded, registers, paints⟩ := @Held.decoded host session held call frame isView
    promised
  have after := held.registers_after distinct isView
  rw [← registers] at after
  refine ⟨decoder, decoded, ?_, after⟩
  intro paint member
  rw [paints] at member
  obtain ⟨x, xInside, y, yInside, register, color⟩ := mem_imagePaints member
  rw [color, register]
  exact after _ (VideoSixelEncoder.table_image_mem host (held.adapted.mayEncode frame)
    (promised.readable isView) x xInside y yInside)

private theorem display_nil (registers : Registers) : display registers [] = registers := rfl

/-- An encode call leaves its own table held. -/
private theorem Held.step_view (held : session.Held) {call : EncoderCall}
    (promised : call.Promised) (distinct : session.NoCollision host call) {frame : Frame}
    (isView : call.view = some frame) (notReset : call ≠ .reset) : (session.step host call).Held := by
  obtain ⟨decoder, decoded, -, after⟩ := held.readsRight promised distinct frame isView
  obtain ⟨valid, signature, options, limit, -⟩ :=
    VideoSixelEncoder.shouldEmitPalette_spec held.persist
      (session.encoder.table host frame).signature
  have same := VideoSixelEncoder.sameRegisters_encodeAny host session.encoder frame
  have ran := EncoderCall.run_of_view host isView session.encoder
  rw [ran] at decoded
  have state : session.step host call =
      { encoder := (session.encoder.encodeAny host frame).1
        registers := decoder.registers
        lastTable := some (session.encoder.table host frame) } := by
    have shown : display session.registers (session.encoder.encodeAny host frame).2 =
        decoder.registers := by
      rw [display, decoded]
    cases call with
    | reset => exact absurd rfl notReset
    | prepare _ => cases isView
    | prepareRegional _ => cases isView
    | prepareArea _ _ => cases isView
    | encode full => simp only [step, ran, shown, isView]
    | encodeArea full region => simp only [step, ran, shown, isView]
  rw [state]
  refine ⟨?_, ?_, ?_, ?_⟩
  · have adapted := EncoderCall.adapted_run host call held.adapted
    rwa [ran] at adapted
  · rw [same.options, options]
    exact held.persist
  · rw [same.outputLimit, limit]
    exact held.unlimited
  · intro _
    exact ⟨_, rfl, signature.symm.trans same.signature.symm, after⟩

theorem Held.step (held : session.Held) {call : EncoderCall} (promised : call.Promised)
    (distinct : session.NoCollision host call) : (session.step host call).Held := by
  have adapted := EncoderCall.adapted_run host call held.adapted
  cases isView : call.view with
  | some frame =>
      refine held.step_view promised distinct isView ?_
      rintro rfl
      cases isView
  | none =>
      cases call with
      | prepare frame =>
          exact held.of_sameRegisters adapted (session.encoder.sameRegisters_prepare host frame)
      | prepareRegional frame =>
          exact held.of_sameRegisters adapted
            (session.encoder.sameRegisters_prepareRegional host frame)
      | prepareArea frame region =>
          exact held.of_sameRegisters adapted
            (session.encoder.sameRegisters_prepareArea host region frame)
      | encode frame =>
          have rejected : (EncoderCall.encode frame).run host session.encoder =
              (session.encoder, []) := by
            simp only [EncoderCall.view, ite_eq_right_iff, reduceCtorEq, imp_false,
              Bool.not_eq_true] at isView
            simp only [EncoderCall.run, VideoSixelEncoder.encode_eq, isView]
            rfl
          simpa only [Session.step, rejected, isView, display_nil] using held
      | encodeArea frame region =>
          have rejected : (EncoderCall.encodeArea frame region).run host session.encoder =
              (session.encoder, []) := by
            simp only [EncoderCall.view, ite_eq_right_iff, reduceCtorEq, imp_false,
              Bool.not_eq_true] at isView
            simp only [EncoderCall.run, VideoSixelEncoder.encodeArea_eq, isView]
            rfl
          simpa only [Session.step, rejected, isView, display_nil] using held
      | reset =>
          exact ⟨adapted, held.persist, held.unlimited, fun valid => by cases valid⟩

/-- A fresh encoder with persistent registers, in front of any terminal. -/
def start (host : Host) (options : SixelOptions) (scratch : Scratch) (registers : Registers) :
    Session :=
  { encoder := VideoSixelEncoder.create host options scratch, registers := registers }

theorem held_start (options : SixelOptions) (scratch : Scratch) (registers : Registers)
    (persist : options.persistPaletteRegisters = true) :
    (start host options scratch registers).Held where
  adapted := VideoSixelEncoder.adapted_create host options scratch
  persist := persist
  unlimited := rfl
  held := fun valid => by cases valid

theorem Held.run {calls : List EncoderCall} (held : session.Held)
    (promised : ∀ call ∈ calls, call.Promised)
    (distinct : ∀ before call after, calls = before ++ call :: after →
      (session.run host before).NoCollision host call) : (session.run host calls).Held := by
  induction calls using List.reverseRecOn with
  | nil => exact held
  | append_singleton calls call inductionHypothesis =>
      have before := inductionHypothesis (fun earlier member => promised earlier (by simp [member]))
        fun earlier chosen later split =>
          distinct earlier chosen (later ++ [call]) (by simp [split])
      have last := before.step (promised call (by simp)) (distinct calls call [] rfl)
      rw [Session.run, List.foldl_append]
      exact last

/-- In a run in which no encode call finds its signature held for another table,
every control string is read with the colours of its own frame. -/
theorem readsRight_of_noCollision (host : Host) (options : SixelOptions) (scratch : Scratch)
    (registers : Registers) (persist : options.persistPaletteRegisters = true)
    (calls : List EncoderCall) (promised : ∀ call ∈ calls, call.Promised)
    (distinct : ∀ before call after, calls = before ++ call :: after →
      ((start host options scratch registers).run host before).NoCollision host call) :
    ∀ before call after, calls = before ++ call :: after →
      ((start host options scratch registers).run host before).ReadsRight host call := by
  intro before call after split
  have held := @Held.run host _ before (held_start options scratch registers persist)
    (fun earlier member => promised earlier (by simp [split, member]))
    fun earlier chosen later prefixSplit =>
      distinct earlier chosen (later ++ call :: after) (by simp [split, prefixSplit])
  exact held.readsRight (promised call (by simp [split])) (distinct before call after split)

/-! ### A collision -/

/-- The packed table starts with the unused entry 0, the caller's palette is seeded with
its first register: whatever the other colours are, the two signatures agree although
every colour sits one register higher. -/
theorem collision (colors : List RgbColor) :
    paletteHash (0 :: colors.map fun color => packRgb color.red color.green color.blue) =
      callerPaletteHash (⟨0, 0, 1⟩ :: colors) 1 := by
  have first : packRgb 0 0 1 = 1 := by decide
  have seeds : fnvOffset ^^^ (0 : UInt32).toUInt64 =
      (fnvOffset ^^^ UInt64.ofNat 1) ^^^ (1 : UInt32).toUInt64 := by decide
  simp only [paletteHash, callerPaletteHash, hashColors, List.map_cons, List.foldl_cons, first,
    seeds, List.length_cons]

/-- One colour register besides the background, kept between images. -/
def oneColor : SixelOptions :=
  { SixelOptions.forVideo with maxFrameColors := 1, persistPaletteRegisters := true }

/-- One black pixel. -/
def blackPixel : FrameView where
  data := some fun _ => 0
  width := 1
  height := 1
  stride := 3

/-- One black pixel by its index in a palette of two colours. -/
def indexedPixel : IndexedFrameView where
  indices := some fun _ => 1
  width := 1
  height := 1
  stride := 1
  palette := PaletteView.ofList [⟨0, 0, 1⟩, ⟨0, 0, 0⟩]

/-- The packed pixel sent twice: the second time its register is only selected. -/
theorem readsRight_blackPixel_twice :
    ((start Host.plain oneColor {} fun _ => none).run Host.plain
      [.encode (.packed blackPixel)]).ReadsRight Host.plain (.encode (.packed blackPixel)) := by
  refine readsRight_of_noCollision Host.plain oneColor {} (fun _ => none) rfl
    [.encode (.packed blackPixel), .encode (.packed blackPixel)] ?_ ?_
    [.encode (.packed blackPixel)] (.encode (.packed blackPixel)) [] rfl
  · intro call member
    have isFrame : call = .encode (.packed blackPixel) := by
      rcases List.mem_cons.mp member with first | second
      · exact first
      · exact List.mem_singleton.mp second
    rw [isFrame]
    exact fun valid => valid
  · intro before call after split
    match before, split with
    | [], _ =>
        intro frame _ last isLast
        cases isLast
    | [_], split =>
        simp only [List.cons_append, List.nil_append, List.cons.injEq] at split
        obtain ⟨rfl, rfl, -⟩ := split
        intro frame isView last isLast _ _
        have view : (EncoderCall.encode (.packed blackPixel)).view = some (.packed blackPixel) :=
          EncoderCall.view_encode (by decide)
        rw [view, Option.some.injEq] at isView
        subst isView
        simp only [run, List.foldl_cons, List.foldl_nil, step, view, Option.some.injEq] at isLast
        subst isLast
        decide +kernel
    | _ :: _ :: rest, split =>
        have length := congrArg List.length split
        simp only [List.length_append, List.length_cons, List.length_nil] at length
        omega

/-- After the packed pixel the indexed one is painted with a register never defined. -/
theorem misread_after_collision :
    ¬ ((start Host.plain oneColor {} fun _ => none).run Host.plain
      [.encode (.packed blackPixel)]).ReadsRight Host.plain (.encode (.indexed indexedPixel)) := by
  intro right
  obtain ⟨decoder, decoded, colors, -⟩ := right (.indexed indexedPixel)
    (EncoderCall.view_encode (by decide))
  have painted : (decode
      ((start Host.plain oneColor {} fun _ => none).run Host.plain
        [.encode (.packed blackPixel)]).registers
      ((EncoderCall.encode (.indexed indexedPixel)).run Host.plain
        ((start Host.plain oneColor {} fun _ => none).run Host.plain
          [.encode (.packed blackPixel)]).encoder).2).map Decoder.paints =
      some [⟨0, 0, 2, none⟩] := by
    decide +kernel
  rw [decoded, Option.map_some, Option.some.injEq] at painted
  have member : (⟨0, 0, 2, none⟩ : Paint) ∈ decoder.paints := by
    rw [painted]
    exact List.mem_singleton.mpr rfl
  cases colors _ member

end Session

end Rasterm
