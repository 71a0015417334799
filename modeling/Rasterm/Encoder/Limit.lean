import Rasterm.Encoder.Twin

/-!
Contract: what an output limit does to one encode call.

Owns the comparison of two encoders that differ in their limit alone: either the
whole control string fits and both return it, or the limited one reports that the
limit was exceeded; and the buffer, which never holds more than its limit.
-/

set_option autoImplicit false

namespace Rasterm

namespace VideoSixelEncoder

/-- The pieces of the control string of one frame. -/
def framedPieces (host : Host) (encoder : VideoSixelEncoder) (frame : Frame) : List (List UInt8) :=
  let table := encoder.table host frame
  let defined :=
    if (encoder.shouldEmitPalette table.signature).2 then table.registers else []
  streamPieces encoder.options (registerPieces defined table.colors) table.image
    frame.width.toNat frame.height.toNat

/-- Every state the output buffer goes through while a frame is encoded. -/
def bufferStates (host : Host) (encoder : VideoSixelEncoder) (frame : Frame) : List SixelOutput :=
  (encoder.framedPieces host frame).inits.map
    ({ maximumBytes := encoder.outputLimit } : SixelOutput).appendAll

variable {host : Host} {left right encoder : VideoSixelEncoder} {frame : Frame}

/-- What an encode call returns, in terms of the last state of its buffer. -/
theorem encodeAny_framed (adapted : encoder.MayEncode frame) (readable : frame.Readable) :
    let buffer := ({ maximumBytes := encoder.outputLimit } : SixelOutput).appendAll
      (encoder.framedPieces host frame)
    (encoder.encodeAny host frame).1.limitExceeded = buffer.limitExceeded ∧
      (encoder.encodeAny host frame).2 =
        if buffer.limitExceeded then [] else (encoder.framedPieces host frame).flatten :=
  (encodeAny_bytes host adapted readable).symm

/-- The buffer never holds more bytes than it was allowed. -/
theorem length_storage_bufferStates (limited : 0 < encoder.outputLimit) :
    ∀ buffer ∈ encoder.bufferStates host frame, buffer.storage.length ≤ encoder.outputLimit := by
  intro buffer member
  rcases List.mem_map.mp member with ⟨pieces, -, same⟩
  rw [← same]
  exact SixelOutput.length_storage_appendAll limited (Nat.zero_le _) pieces

/-- A control string is never empty. -/
theorem framedPieces_ne_nil : 0 < (encoder.framedPieces host frame).flatten.length := by
  simp [framedPieces, streamPieces, beginPieces, ascii]

/-- Without a limit the whole control string is returned. -/
theorem encodeAny_unlimited (adapted : encoder.MayEncode frame) (readable : frame.Readable)
    (unlimited : encoder.outputLimit = 0) :
    (encoder.encodeAny host frame).1.limitExceeded = false ∧
      (encoder.encodeAny host frame).2 = (encoder.framedPieces host frame).flatten := by
  rcases encodeAny_framed adapted readable with ⟨exceeded, bytes⟩
  have fits := @SixelOutput.limitExceeded_appendAll_of_unlimited
    { maximumBytes := encoder.outputLimit } unlimited (encoder.framedPieces host frame)
  rw [exceeded, bytes, fits]
  exact ⟨rfl, if_neg Bool.false_ne_true⟩

/-- With a limit it is returned exactly when it fits. -/
theorem encodeAny_limited (adapted : encoder.MayEncode frame) (readable : frame.Readable)
    (limited : 0 < encoder.outputLimit) :
    ((encoder.encodeAny host frame).1.limitExceeded = true ↔
        encoder.outputLimit < (encoder.framedPieces host frame).flatten.length) ∧
      ((encoder.encodeAny host frame).1.limitExceeded = false →
        (encoder.encodeAny host frame).2 = (encoder.framedPieces host frame).flatten) := by
  rcases encodeAny_framed adapted readable with ⟨exceeded, bytes⟩
  have exact := @SixelOutput.limitExceeded_appendAll_iff { maximumBytes := encoder.outputLimit }
    rfl limited (Nat.zero_le _) (encoder.framedPieces host frame)
  rw [List.length_nil, Nat.zero_add] at exact
  constructor
  · rw [exceeded]
    exact exact
  · intro fits
    rw [exceeded] at fits
    rw [bytes, fits]
    exact if_neg Bool.false_ne_true

/-- Twins write the same control string, whatever their limits. -/
theorem Twin.framedPieces (twin : left.Twin right) (leftAdapted : left.Adapted)
    (rightAdapted : right.Adapted) (readable : frame.Readable) :
    left.framedPieces host frame = right.framedPieces host frame := by
  rcases twin.sameTable host leftAdapted rightAdapted readable with
    ⟨signature, registers, colors, images⟩
  have decision := (twin.shouldEmitPalette (left.table host frame).signature).1
  simp only [VideoSixelEncoder.framedPieces]
  rw [streamPieces, streamPieces, twin.options, ← signature, decision, registers, colors,
    framePieces_congr images]

end VideoSixelEncoder

end Rasterm
