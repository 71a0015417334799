import Rasterm.Encoder.Omission
import Rasterm.Render.Decision
import Rasterm.Render.Outcome

/-!
Contract: the clear between two pictures of different sizes.

Owns where an update sends its clear, what a full frame leaves outside its rectangle, the
record of the sizes shown and of the renders that failed since, that a resized picture
stands alone on a cleared screen when none failed, and a run in which it does not.
-/

set_option autoImplicit false

namespace Rasterm

open ScreenEvent Sixel TerminalRenderer

/-- What `clearAndHome` sends. -/
def TerminalRenderer.clearBytes : List UInt8 := ascii "\x1b[2J\x1b[H"

namespace SinkCall

/-- The sink took the clear. -/
def IsClear (call : SinkCall) : Prop := call.delivered = clearBytes

instance (call : SinkCall) : Decidable call.IsClear := by
  unfold IsClear
  infer_instance

/-- The two sequences an update may open with. -/
def opensUpdate : SinkCall → Bool
  | write _ bytes _ => bytes = ascii "\x1b[?2026h" || bytes = saveCursorBytes
  | flush _ _ => false

theorem opensUpdate_of_isClear {call : SinkCall} (clear : call.IsClear) :
    call.opensUpdate = false := by
  have bytes : clearBytes ≠ [] := by decide
  cases call with
  | flush purpose succeeded => rfl
  | write purpose sent accepted =>
      cases accepted with
      | false => exact absurd clear.symm bytes
      | true =>
          have same : sent = clearBytes := clear
          have other : (clearBytes = ascii "\x1b[?2026h" || clearBytes = saveCursorBytes : Bool) =
              false := by decide
          rw [same]
          exact other

/-- The first call that opens no update is the same however it is found. -/
theorem eq_of_opening {opening other : List SinkCall} {first second : SinkCall}
    {rest later : List SinkCall} (same : opening ++ first :: rest = other ++ second :: later)
    (opens : ∀ call ∈ opening, call.opensUpdate = true) (stops : first.opensUpdate = false)
    (otherOpens : ∀ call ∈ other, call.opensUpdate = true)
    (otherStops : second.opensUpdate = false) : first = second := by
  have drops := congrArg (List.dropWhile opensUpdate) same
  rw [List.dropWhile_append_of_pos opens, List.dropWhile_append_of_pos otherOpens,
    List.dropWhile_cons_of_neg (Bool.eq_false_iff.mp stops),
    List.dropWhile_cons_of_neg (Bool.eq_false_iff.mp otherStops)] at drops
  exact (List.cons.inj drops).1

end SinkCall

/-! ### What one picture leaves alone -/

/-- Nothing is drawn beyond this many columns and rows. -/
def Screen.BlankOutside (screen : Screen) (width height : Nat) : Prop :=
  ∀ x y, width ≤ x ∨ height ≤ y → screen.grid x y = none

/-- A decoder, whatever registers the terminal holds, reads the bytes and paints nothing
outside the raster. -/
def PaintsWithin (bytes : List UInt8) (width height : Nat) : Prop :=
  ∀ registers : Registers, ∃ decoder : Decoder, decode registers bytes = some decoder ∧
    ∀ x y, width ≤ x ∨ height ≤ y → decoder.paints.filter (Paint.isAt x y) = []

theorem ControlString.WrittenWith.paintsWithin {options : SixelOptions} {string : ControlString}
    (written : string.WrittenWith options) :
    PaintsWithin string.bytes string.view.width.toNat string.view.height.toNat := by
  intro registers
  rcases decode_streamBytes options (if string.defines then string.table.registers else [])
    string.table.colors string.table.image string.view.width.toNat string.view.height.toNat
    registers with ⟨decoder, decoded, -, -, paints⟩
  refine ⟨decoder, written ▸ decoded, ?_⟩
  intro x y outside
  rw [paints, filter_imagePaints, if_neg fun inside => by omega]

theorem blankOutside_of_cleared {payload : List UInt8} {width height : Nat}
    (paints : PaintsWithin payload width height) {before after : Screen}
    (reaches : Reaches [.cleared, .drawn 0 0 payload true] before after) :
    after.BlankOutside width height := by
  cases reaches with
  | @cons _ _ _ empty _ clears draws =>
      intro x y outside
      rcases paints empty.registers with ⟨decoder, decoded, nothing⟩
      have drawn := (reaches_singleton draws).2 rfl decoder decoded
      rw [drawn.2, overlay, Nat.zero_mul, Nat.zero_mul, if_pos ⟨Nat.zero_le x, Nat.zero_le y⟩,
        Nat.sub_zero, Nat.sub_zero, nothing x y outside, clears.2]
      rfl

/-! ### What an update sends first -/

namespace TerminalRenderer

theorem calls_write (terminal : TerminalRenderer) (bytes : List UInt8) :
    (terminal.write bytes).1.sink.calls =
      terminal.sink.calls ++ [.write .ordinary bytes (terminal.write bytes).2] := by
  simp only [write, OutputSink.write]
  split_ifs with accepted
  · simp [accepted]
  · simp [accepted]

theorem calls_beginSynchronizedUpdate {terminal : TerminalRenderer}
    (closed : terminal.updateActive = false) (preserveCursor synchronizedOutput : Bool) :
    ∃ opening, (terminal.beginSynchronizedUpdate preserveCursor
        synchronizedOutput).1.sink.calls = terminal.sink.calls ++ opening ∧
      ∀ call ∈ opening, call.opensUpdate = true := by
  have synchronizes : ∃ opening, (terminal.openUpdate.synchronize synchronizedOutput).1.sink.calls =
      terminal.sink.calls ++ opening ∧ ∀ call ∈ opening, call.opensUpdate = true := by
    cases synchronizedOutput with
    | false => exact ⟨[], (List.append_nil _).symm, fun _ none => absurd none List.not_mem_nil⟩
    | true =>
        refine ⟨_, calls_write terminal.openUpdate _, ?_⟩
        intro call member
        rw [List.mem_singleton.mp member]
        simp [SinkCall.opensUpdate]
  rcases synchronizes with ⟨first, grown, opens⟩
  rw [beginSynchronizedUpdate, closed, if_neg Bool.false_ne_true]
  cases preserveCursor with
  | false => exact ⟨first, grown, opens⟩
  | true =>
      have saved := (terminal.openUpdate.synchronize synchronizedOutput).1.calls_write
        saveCursorBytes
      rw [grown, List.append_assoc] at saved
      refine ⟨_, saved, ?_⟩
      intro call member
      rcases List.mem_append.mp member with earlier | new
      · exact opens call earlier
      · rw [List.mem_singleton.mp new]
        simp [SinkCall.opensUpdate]

/-- Inside an update the clear is one write. -/
theorem calls_clearAndHome {terminal : TerminalRenderer} (active : terminal.updateActive = true) :
    terminal.clearAndHome.1.sink.calls =
      terminal.sink.calls ++ [.write .ordinary clearBytes terminal.clearAndHome.2] := by
  have stillActive : (terminal.write (ascii "\x1b[2J\x1b[H")).1.updateActive = true :=
    (terminal.keeps_write _).updateActive.trans active
  have sent := terminal.calls_write (ascii "\x1b[2J\x1b[H")
  simp only [clearAndHome, flushOutsideUpdate, stillActive, if_true, Bool.true_and]
  exact sent

/-- A draw at home starts by switching off scrolling. -/
theorem calls_drawAtHome (terminal : TerminalRenderer) (sixel : List UInt8) (chunkBytes : Nat) :
    ∃ accepted later, (terminal.drawAtHome sixel false chunkBytes).1.sink.calls =
      terminal.sink.calls ++ .write .ordinary (ascii "\x1b[?80h") accepted :: later := by
  have first := terminal.calls_write (ascii "\x1b[?80h")
  have grows : (terminal.write (ascii "\x1b[?80h")).1.Keeps
      (terminal.drawAtHome sixel false chunkBytes).1 :=
    ((((keeps_write _ _).trans (keeps_writeChunks _ _ _)).trans (keeps_recoveryWrite _ _)).trans
      (keeps_recover _ _ _)).trans (sends_flushOutsideUpdate _).toKeeps
  rcases grows.calls with ⟨later, grown⟩
  refine ⟨(terminal.write (ascii "\x1b[?80h")).2, later, ?_⟩
  rw [← grown, first, List.append_assoc]
  rfl

end TerminalRenderer

namespace Renderer

section Updates

variable {options : RendererOptions} {terminal : TerminalRenderer}

/-- Whatever an update goes on with stands right after its opening. -/
private theorem calls_after_opening (closed : terminal.updateActive = false)
    {first : SinkCall} {middle after : TerminalRenderer}
    (begun : ∃ later, middle.sink.calls = (terminal.beginSynchronizedUpdate options.preserveCursor
      options.useSynchronizedOutput).1.sink.calls ++ first :: later)
    (grown : middle.sink.calls <+: after.sink.calls) :
    ∃ opening later, after.sink.calls = terminal.sink.calls ++ (opening ++ first :: later) ∧
      ∀ call ∈ opening, call.opensUpdate = true := by
  rcases calls_beginSynchronizedUpdate closed options.preserveCursor
    options.useSynchronizedOutput with ⟨opening, opened, opens⟩
  rcases begun with ⟨next, continued⟩
  rcases grown with ⟨rest, whole⟩
  refine ⟨opening, next ++ rest, ?_, opens⟩
  rw [← whole, continued, opened, List.append_assoc, List.append_assoc, List.cons_append]

/-- A successful update after a change of size clears the screen before it draws. -/
theorem calls_present_cleared (closed : terminal.updateActive = false) (sixel : List UInt8)
    (taken : (present options terminal true fun terminal =>
      terminal.drawAtHome sixel false options.outputChunkBytes).2 = true) :
    ∃ opening clear later,
      (present options terminal true fun terminal =>
          terminal.drawAtHome sixel false options.outputChunkBytes).1.sink.calls =
        terminal.sink.calls ++ (opening ++ clear :: later) ∧
      (∀ call ∈ opening, call.opensUpdate = true) ∧ clear.IsClear := by
  rcases terminal.attempts_beginSynchronizedUpdate closed options.preserveCursor
    options.useSynchronizedOutput with ⟨-, -, active⟩
  simp only [present, if_true, Bool.and_eq_true] at taken ⊢
  set begun := terminal.beginSynchronizedUpdate options.preserveCursor
    options.useSynchronizedOutput
  have clears := calls_clearAndHome active
  rw [taken.2.2] at clears
  rcases begun.1.clearAndHome.1.sends_drawAtHome sixel false options.outputChunkBytes with
    ⟨events, drawing, -⟩
  have ends := (begun.1.clearAndHome.1.drawAtHome sixel false
    options.outputChunkBytes).1.extends_endSynchronizedUpdate
  rcases @calls_after_opening options terminal closed (.write .ordinary clearBytes true)
    begun.1.clearAndHome.1 _ ⟨[], clears⟩ (drawing.calls.trans ends.calls) with
    ⟨opening, later, whole, opens⟩
  exact ⟨opening, _, later, whole, opens, rfl⟩

/-- Without a change of size a full frame starts by switching off scrolling. -/
theorem calls_presentFull (closed : terminal.updateActive = false) (sixel : List UInt8) :
    ∃ opening accepted later,
      (present options terminal false fun terminal =>
          terminal.drawAtHome sixel false options.outputChunkBytes).1.sink.calls =
        terminal.sink.calls ++
          (opening ++ .write .ordinary (ascii "\x1b[?80h") accepted :: later) ∧
      ∀ call ∈ opening, call.opensUpdate = true := by
  simp only [present, Bool.false_eq_true, if_false]
  set begun := terminal.beginSynchronizedUpdate options.preserveCursor
    options.useSynchronizedOutput
  rcases begun.1.calls_drawAtHome sixel options.outputChunkBytes with ⟨accepted, next, drawing⟩
  have ends := (begun.1.drawAtHome sixel false
    options.outputChunkBytes).1.extends_endSynchronizedUpdate
  rcases @calls_after_opening options terminal closed _ _ _ ⟨next, drawing⟩ ends.calls with
    ⟨opening, later, whole, opens⟩
  exact ⟨opening, accepted, later, whole, opens⟩

end Updates

/-! ### How a render ends -/

variable {host : Host} {renderer : Renderer} {frame : Frame}

/-- A render that was attempted is remembered, or nothing is. -/
def Concluded (frame : Frame) (answer : Renderer × RenderResult) : Prop :=
  (answer.2.rendered = true ∧ answer.1.previousWidth = frame.width ∧
      answer.1.previousHeight = frame.height) ∨
    (answer.2.rendered = false ∧ answer.2.error ≠ .none ∧ answer.1.Forgotten)

private theorem concluded_of_present {options : RendererOptions} {terminal : TerminalRenderer}
    {draw : TerminalRenderer → TerminalRenderer × Bool} (drawing : Drawing draw) (changed : Bool)
    {result : RenderResult} :
    let presented := present options terminal changed draw
    result.rendered = presented.2 →
      result.error = (if presented.2 then .none else presented.1.lastError) →
      Concluded frame (renderer.settle frame presented.2, result) := by
  intro presented rendered error
  have reason := @lastError_present options terminal changed draw drawing.reports
  cases taken : presented.2 with
  | true =>
      rw [taken] at rendered
      exact Or.inl ⟨rendered, rfl, rfl⟩
  | false =>
      rw [taken] at rendered error
      refine Or.inr ⟨rendered, ?_, forgotten_reset renderer⟩
      rw [error]
      exact reason taken

theorem concluded_carryOut (host : Host) (renderer : Renderer) (frame : Frame) (changed : Bool)
    {decided : Presentation} (attempted : decided ≠ .nothing) :
    Concluded frame (renderer.carryOut host frame changed decided) := by
  have refused : ∀ current : Renderer, Concluded frame (current.reset, limitResult) :=
    fun current => Or.inr ⟨rfl, (fun none => by cases none), forgotten_reset current⟩
  cases decided with
  | nothing => exact absurd rfl attempted
  | full =>
      show Concluded frame (renderer.renderFull host frame changed)
      by_cases exceeded : (renderer.encodedFull host frame).1.limitExceeded = true
      · rw [renderFull_of_exceeded exceeded]
        exact refused _
      · rw [renderFull_of_fits (Bool.eq_false_iff.mpr exceeded)]
        exact concluded_of_present (drawing_drawAtHome _ _) changed rfl rfl
  | patches regions =>
      show Concluded frame (renderer.renderRegions host frame changed regions)
      by_cases exceeded : (renderer.encodedPatches host frame regions).2 = false
      · rw [renderRegions_of_exceeded exceeded]
        exact refused _
      · rw [renderRegions_of_fits ((Bool.not_eq_false _).mp exceeded)]
        exact concluded_of_present (drawing_drawRegions _ _) changed rfl rfl

/-- With nothing remembered a frame is presented in full, over whatever is on the screen. -/
theorem render_of_forgotten (sound : renderer.Sound host) (forgotten : renderer.Forgotten)
    (readable : frame.isReadable = true) :
    ∃ current, renderer.OtherDamage current ∧
      renderer.render host frame = current.carryOut host frame false .full := by
  have valid := Frame.isValid_of_isReadable readable
  rw [render_eq, if_pos readable]
  exact renderFrame_of_forgotten host valid sound.positive sound.tiling forgotten.previousWidth
    forgotten.previousFormatTag (forgotten.shape valid)

/-! ### Clears -/

/-- The calls of an update that clears before it draws. -/
def ClearsFirst (made : List SinkCall) : Prop :=
  ∃ opening clear later, made = opening ++ clear :: later ∧
    (∀ call ∈ opening, call.opensUpdate = true) ∧ clear.IsClear

theorem clearsFirst_of_changed (closed : renderer.terminal.updateActive = false)
    (rendered : (renderer.renderFull host frame true).2.rendered = true) :
    ∃ made, (renderer.renderFull host frame true).1.terminal.sink.calls =
      renderer.terminal.sink.calls ++ made ∧ ClearsFirst made := by
  by_cases exceeded : (renderer.encodedFull host frame).1.limitExceeded = true
  · rw [renderFull_of_exceeded exceeded] at rendered
    cases rendered
  · rw [renderFull_of_fits (Bool.eq_false_iff.mpr exceeded)] at rendered ⊢
    rcases @calls_present_cleared renderer.options renderer.terminal closed _ rendered with
      ⟨opening, clear, later, grown, opens, isClear⟩
    refine ⟨_, ?_, opening, clear, later, rfl, opens, isClear⟩
    rw [terminal_settle]
    exact grown

/-- A full frame of what is taken to be the same size is drawn without a clear. -/
theorem not_clearsFirst_of_unchanged (closed : renderer.terminal.updateActive = false)
    (rendered : (renderer.renderFull host frame false).2.rendered = true) :
    ∃ made, (renderer.renderFull host frame false).1.terminal.sink.calls =
      renderer.terminal.sink.calls ++ made ∧ ¬ ClearsFirst made := by
  by_cases exceeded : (renderer.encodedFull host frame).1.limitExceeded = true
  · rw [renderFull_of_exceeded exceeded] at rendered
    cases rendered
  · rw [renderFull_of_fits (Bool.eq_false_iff.mpr exceeded)]
    rcases @calls_presentFull renderer.options renderer.terminal closed
      (renderer.encodedFull host frame).2 with ⟨opening, accepted, later, grown, opens⟩
    refine ⟨_, by rw [terminal_settle]; exact grown, ?_⟩
    rintro ⟨other, clear, rest, same, otherOpens, isClear⟩
    have scrolling := SinkCall.eq_of_opening same opens (by simp [SinkCall.opensUpdate]; decide)
      otherOpens (SinkCall.opensUpdate_of_isClear isClear)
    rw [← scrolling] at isClear
    cases accepted with
    | false => exact absurd isClear (by decide)
    | true => exact absurd isClear (by decide)

/-! ### What stays visible -/

/-- After the clear a full frame of a new size is all there is. -/
theorem blank_renderFull (sound : renderer.Sound host) (dated : renderer.terminal.Dated)
    (readable : frame.isReadable = true)
    (rendered : (renderer.renderFull host frame true).2.rendered = true) {before after : Screen}
    (reaches : Reaches (renderer.renderFull host frame true).1.terminal.screen before after) :
    after.BlankOutside frame.width.toNat frame.height.toNat := by
  have encodes : renderer.encodedFull host frame =
      (renderer.fullEncoder host frame).encodeAny host frame := by
    rw [encodedFull, VideoSixelEncoder.encode_eq, if_pos (Frame.isValid_of_isReadable readable)]
  by_cases exceeded : (renderer.encodedFull host frame).1.limitExceeded = true
  · rw [renderFull_of_exceeded exceeded] at rendered
    cases rendered
  · have fits := Bool.eq_false_iff.mpr exceeded
    rw [renderFull_of_fits fits] at rendered reaches
    rw [encodes] at fits
    have written := VideoSixelEncoder.writtenWith_controlString (sound.fullEncoder frame)
      (Frame.readable_of_isReadable readable) fits
    rcases extends_presentFull renderer.options renderer.terminal true
      (renderer.encodedFull host frame).2 with ⟨events, grown, -, same⟩
    rw [encodes] at rendered reaches grown same
    rw [terminal_settle, grown.screen dated, same written.framed rendered, reaches_append] at reaches
    rcases reaches with ⟨earlier, -, update⟩
    exact blankOutside_of_cleared written.paintsWithin update

/-- Patches are for frames of the size before. -/
theorem full_of_dimensionsChanged (sound : renderer.Sound host)
    (changed : renderer.dimensionsChanged frame = true)
    (attempted : (renderer.presentation host frame).2 ≠ .nothing) :
    (renderer.presentation host frame).2 = .full := by
  rcases decided : (renderer.presentation host frame).2 with - | - | regions
  · exact absurd decided attempted
  · rfl
  · exfalso
    rcases planned_of_patches decided with ⟨valid, -, planned, -⟩
    have adapted := sound.otherDamage (renderer.otherDamage_adapt frame)
    have found := partial_findDamage host valid adapted.positive adapted.tiling
      (planPresentation_full planned)
    obtain ⟨unchanged, -⟩ := adapt_of_partial rfl valid found
    rw [changed, Bool.true_or] at unchanged
    cases unchanged

/-! ### Sizes on the screen -/

/-- A renderer, the size of the last frame it rendered with success, and since then: whether a
render has failed, and the calls made. -/
structure SizeHistory where
  renderer : Renderer
  shown : Option (Int × Int) := none
  failed : Bool := false
  since : List SinkCall := []

namespace SizeHistory

variable {history : SizeHistory}

/-- The calls a render makes. -/
def made (host : Host) (history : SizeHistory) (frame : Frame) : List SinkCall :=
  (history.renderer.render host frame).1.terminal.sink.calls.drop
    history.renderer.terminal.sink.calls.length

def render (host : Host) (history : SizeHistory) (frame : Frame) : SizeHistory :=
  let answer := history.renderer.render host frame
  if answer.2.rendered then { renderer := answer.1, shown := some (frame.width, frame.height) }
  else
    { renderer := answer.1
      shown := history.shown
      failed := history.failed || answer.2.error ≠ .none
      since := history.since ++ history.made host frame }

def renderAll (host : Host) (history : SizeHistory) (frames : List Frame) : SizeHistory :=
  frames.foldl (render host) history

theorem renderer_render (host : Host) (history : SizeHistory) (frame : Frame) :
    (history.render host frame).renderer = history.renderer.perform host (.render frame) := by
  simp only [render, perform]
  split_ifs <;> rfl

/-- The record does not touch the renderer. -/
theorem renderer_renderAll (host : Host) (history : SizeHistory) (frames : List Frame) :
    (history.renderAll host frames).renderer =
      history.renderer.performAll host (frames.map Call.render) := by
  induction frames generalizing history with
  | nil => rfl
  | cons frame frames inductionHypothesis =>
      rw [renderAll, List.foldl_cons, List.map_cons, performAll, List.foldl_cons,
        ← renderer_render]
      exact inductionHypothesis (history.render host frame)

/-- The sink took a clear after the picture before, and before anything is drawn of this one. -/
def ClearedBetween (host : Host) (history : SizeHistory) (frame : Frame) : Prop :=
  (∃ call ∈ history.since, call.IsClear) ∨ ClearsFirst (history.made host frame)

/-- Between two renders. -/
structure Consistent (host : Host) (history : SizeHistory) : Prop where
  sound : history.renderer.Sound host
  dated : history.renderer.terminal.Dated
  remembers : history.failed = false → ∀ size ∈ history.shown,
    history.renderer.previousWidth = size.1 ∧ history.renderer.previousHeight = size.2 ∧ 0 < size.1
  forgotten : history.failed = true → history.renderer.Forgotten

theorem Consistent.render (consistent : history.Consistent host) (frame : Frame) :
    (history.render host frame).Consistent host := by
  have sound : (history.render host frame).renderer.Sound host := by
    rw [renderer_render]
    exact consistent.sound.perform (.render frame)
  have dated : (history.render host frame).renderer.terminal.Dated := by
    rw [renderer_render]
    rcases extends_perform host history.renderer (.render frame) with ⟨_, grown⟩
    exact grown.dated consistent.dated
  have concluded : frame.isReadable = true →
      Concluded frame (history.renderer.render host frame) →
      (history.render host frame).Consistent host := by
    intro readable ended
    have width := (Frame.geometry_of_isValid (Frame.isValid_of_isReadable readable)).width_pos
    rcases ended with ⟨rendered, sameWidth, sameHeight⟩ | ⟨rendered, failed, forgotten⟩
    · simp only [SizeHistory.render, rendered, if_true] at sound dated ⊢
      refine ⟨sound, dated, ?_, fun none => by cases none⟩
      intro _ size member
      rw [Option.mem_some_iff] at member
      rw [← member]
      exact ⟨sameWidth, sameHeight, width⟩
    · simp only [SizeHistory.render, rendered, Bool.false_eq_true, if_false] at sound dated ⊢
      refine ⟨sound, dated, ?_, fun _ => forgotten⟩
      intro clean
      simp [failed] at clean
  cases readable : frame.isReadable with
  | false =>
      have ignored : history.renderer.render host frame = (history.renderer, {}) := by
        rw [render_eq, readable]
        rfl
      simp only [SizeHistory.render, ignored, Bool.false_eq_true, if_false, ne_eq,
        not_true_eq_false, decide_false, Bool.or_false]
      exact ⟨consistent.sound, consistent.dated, consistent.remembers, consistent.forgotten⟩
  | true =>
      cases failed : history.failed with
      | true =>
          rcases render_of_forgotten consistent.sound (consistent.forgotten failed) readable with
            ⟨current, -, same⟩
          apply concluded readable
          rw [same]
          exact concluded_carryOut host current frame false (fun none => by cases none)
      | false =>
          have unfolded : history.renderer.render host frame =
              (history.renderer.presentation host frame).1.carryOut host frame
                (history.renderer.dimensionsChanged frame)
                (history.renderer.presentation host frame).2 := by
            rw [render_eq, if_pos readable, renderFrame_eq]
          by_cases silent : (history.renderer.presentation host frame).2 = .nothing
          · rcases (history.renderer.otherDamage_presentation host frame).same with
              ⟨damage, supplied, same⟩
            rw [silent] at unfolded
            change history.renderer.render host frame =
              ((history.renderer.presentation host frame).1, {}) at unfolded
            simp only [SizeHistory.render, unfolded, failed, Bool.false_eq_true, if_false, ne_eq,
              not_true_eq_false, decide_false, Bool.or_false] at sound dated ⊢
            refine ⟨sound, dated, ?_, fun none => by cases none⟩
            intro _
            rw [same]
            exact consistent.remembers failed
          · apply concluded readable
            rw [unfolded]
            exact concluded_carryOut host _ frame _ silent

def start (host : Host) (options : RendererOptions) (scratch : Scratch) (sink : OutputSink) :
    SizeHistory :=
  { renderer := create host options scratch sink }

theorem consistent_renderAll (host : Host) {options : RendererOptions}
    (positive : options.cellPixels.Positive) (scratch : Scratch) (sink : OutputSink)
    (frames : List Frame) :
    ((start host options scratch sink).renderAll host frames).Consistent host := by
  induction frames using List.reverseRecOn with
  | nil =>
      exact ⟨Sound.create host positive scratch sink,
        dated_create sink options.useAlternateScreen, (fun _ _ none => by cases none),
        fun none => by cases none⟩
  | append_singleton frames frame inductionHypothesis =>
      rw [renderAll, List.foldl_append]
      exact inductionHypothesis.render frame

/-- The calls of a render, found in the renderer that looked at the damage. -/
private theorem made_eq {current after : Renderer} {result : RenderResult} {made : List SinkCall}
    (looked : history.renderer.OtherDamage current)
    (same : history.renderer.render host frame = (after, result))
    (grown : after.terminal.sink.calls = current.terminal.sink.calls ++ made) :
    history.made host frame = made := by
  rcases looked.same with ⟨damage, supplied, currentEq⟩
  have terminal : current.terminal = history.renderer.terminal := by rw [currentEq]
  rw [SizeHistory.made, same, grown, terminal, List.drop_left]

/-- A rendered frame is one that could be read. -/
private theorem readable_of_rendered
    (rendered : (renderer.render host frame).2.rendered = true) : frame.isReadable = true := by
  by_contra ignored
  rw [render_eq, if_neg ignored] at rendered
  cases rendered

/-- With the last picture remembered, a frame of another size is a full frame after a clear. -/
theorem Consistent.changed (consistent : history.Consistent host)
    (rendered : (history.renderer.render host frame).2.rendered = true) {size : Int × Int}
    (shown : history.shown = some size) (other : size ≠ (frame.width, frame.height))
    (clean : history.failed = false) :
    history.renderer.render host frame =
      (history.renderer.presentation host frame).1.renderFull host frame true := by
  have readable := readable_of_rendered rendered
  rcases consistent.remembers clean size (by rw [shown]; exact rfl) with ⟨width, height, positive⟩
  have changed : history.renderer.dimensionsChanged frame = true := by
    simp only [dimensionsChanged, width, height, positive, decide_true, Bool.true_and,
      Bool.or_eq_true, decide_eq_true_eq]
    by_contra same
    push Not at same
    exact other (Prod.ext same.1.symm same.2.symm)
  rw [render_eq, if_pos readable, renderFrame_eq, changed] at rendered ⊢
  rw [full_of_dimensionsChanged consistent.sound changed fun silent => by
    rw [silent] at rendered
    cases rendered]
  rfl

/-- A render clears first exactly when none has failed since the last picture. -/
theorem Consistent.clearsFirst_iff (consistent : history.Consistent host)
    (rendered : (history.renderer.render host frame).2.rendered = true) {size : Int × Int}
    (shown : history.shown = some size) (other : size ≠ (frame.width, frame.height)) :
    ClearsFirst (history.made host frame) ↔ history.failed = false := by
  cases failed : history.failed with
  | false =>
      have unfolded := consistent.changed rendered shown other failed
      have looked := history.renderer.otherDamage_presentation host frame
      rw [unfolded] at rendered
      rcases clearsFirst_of_changed (consistent.sound.otherDamage looked).inactive rendered with
        ⟨made, grown, first⟩
      rw [made_eq looked unfolded grown]
      exact ⟨fun _ => rfl, fun _ => first⟩
  | true =>
      rcases render_of_forgotten consistent.sound (consistent.forgotten failed)
        (readable_of_rendered rendered) with ⟨current, looked, unfolded⟩
      rw [unfolded] at rendered
      rcases not_clearsFirst_of_unchanged (consistent.sound.otherDamage looked).inactive
        rendered with ⟨made, grown, never⟩
      rw [made_eq looked unfolded grown]
      exact ⟨fun first => absurd first never, fun clean => by cases clean⟩

/-- With the last picture remembered, nothing of it is left outside a frame of another size. -/
theorem Consistent.blankOutside (consistent : history.Consistent host)
    (rendered : (history.renderer.render host frame).2.rendered = true) {size : Int × Int}
    (shown : history.shown = some size) (other : size ≠ (frame.width, frame.height))
    (clean : history.failed = false) {before after : Screen}
    (reaches : Reaches (history.renderer.render host frame).1.terminal.screen before after) :
    after.BlankOutside frame.width.toNat frame.height.toNat := by
  have readable := readable_of_rendered rendered
  have looked := history.renderer.otherDamage_presentation host frame
  have sound := consistent.sound.otherDamage looked
  have dated : (history.renderer.presentation host frame).1.terminal.Dated := by
    rcases looked.same with ⟨damage, supplied, same⟩
    rw [same]
    exact consistent.dated
  have unfolded := consistent.changed rendered shown other clean
  rw [unfolded] at rendered reaches
  exact blank_renderFull sound dated readable rendered reaches

end SizeHistory

/-- In every run of renders, whatever is refused: when none has failed since the last picture, a
picture of another size comes after a clear that the sink took since, and nothing is drawn outside
of it; and a render sends its own clear in no other case. -/
theorem cleared_before_resize (host : Host) (options : RendererOptions)
    (positive : options.cellPixels.Positive) (scratch : Scratch) (sink : OutputSink)
    (frames : List Frame) (frame : Frame) :
    let history := (SizeHistory.start host options scratch sink).renderAll host frames
    let answer := history.renderer.render host frame
    history.renderer = (create host options scratch sink).performAll host
        (frames.map Call.render) ∧
      (answer.2.rendered = true →
        ∀ size, history.shown = some size → size ≠ (frame.width, frame.height) →
          (history.failed = false → history.ClearedBetween host frame ∧
            ∀ before after : Screen, Reaches answer.1.terminal.screen before after →
              after.BlankOutside frame.width.toNat frame.height.toNat) ∧
          (ClearsFirst (history.made host frame) ↔ history.failed = false)) := by
  intro history answer
  refine ⟨SizeHistory.renderer_renderAll host _ frames, ?_⟩
  intro rendered size shown other
  have consistent := SizeHistory.consistent_renderAll host positive scratch sink frames
  have clears := consistent.clearsFirst_iff rendered shown other
  refine ⟨fun clean => ⟨Or.inr (clears.mpr clean), ?_⟩, clears⟩
  intro before after reaches
  exact consistent.blankOutside rendered shown other clean reaches

/-- Nine columns of stripes. -/
def wideStripes : IndexedFrameView := { IndexedFrameView.stripes with width := 9, stride := 9 }

/-- The first pixel of the stripes. -/
def oneStripe : IndexedFrameView := { IndexedFrameView.stripes with width := 1, height := 1 }

/-- The stripes, then one pixel of them: the clear comes first and the pixel stands alone. -/
theorem cleared_before_oneStripe :
    let history := (SizeHistory.start Host.plain { maximumOutputBytes := 92 } {}
      { responses := fun _ => true }).renderAll Host.plain [.indexed .stripes]
    let answer := history.renderer.render Host.plain (.indexed oneStripe)
    answer.2.rendered = true ∧ history.ClearedBetween Host.plain (.indexed oneStripe) ∧
      ∀ before after : Screen, Reaches answer.1.terminal.screen before after →
        after.BlankOutside 1 1 := by
  refine ⟨by decide +kernel, ?_⟩
  exact ((cleared_before_resize Host.plain { maximumOutputBytes := 92 } ⟨by decide, by decide⟩ {}
    { responses := fun _ => true } [.indexed .stripes] (.indexed oneStripe)).2 (by decide +kernel)
    (4, 7) (by decide +kernel) (by decide)).1 (by decide +kernel)

/-- The same with frames in between that exceed the output limit: the pixel is drawn without a
clear, over stripes that stay on the screen. -/
theorem not_cleared_after_refusal :
    let history := (SizeHistory.start Host.plain { maximumOutputBytes := 92 } {}
      { responses := fun _ => true }).renderAll Host.plain
        [.indexed .stripes, .indexed wideStripes]
    (history.renderer.render Host.plain (.indexed oneStripe)).2.rendered = true ∧
      history.shown = some (4, 7) ∧ (4, 7) ≠ ((1, 1) : Int × Int) ∧
      (Frame.indexed oneStripe).width = 1 ∧ (Frame.indexed oneStripe).height = 1 ∧
      ¬ history.ClearedBetween Host.plain (.indexed oneStripe) := by
  refine ⟨by decide +kernel, by decide +kernel, by decide, rfl, rfl, ?_⟩
  have none : ∀ call ∈ ((SizeHistory.start Host.plain { maximumOutputBytes := 92 } {}
      { responses := fun _ => true }).renderAll Host.plain
        [.indexed .stripes, .indexed wideStripes]).since ++
      ((SizeHistory.start Host.plain { maximumOutputBytes := 92 } {}
        { responses := fun _ => true }).renderAll Host.plain
          [.indexed .stripes, .indexed wideStripes]).made Host.plain (.indexed oneStripe),
      ¬ call.IsClear := by decide +kernel
  rintro (⟨call, member, clear⟩ | ⟨opening, clear, later, same, -, isClear⟩)
  · exact none call (List.mem_append_left _ member) clear
  · apply none clear (List.mem_append_right _ _) isClear
    rw [same]
    exact List.mem_append_right _ List.mem_cons_self

end Renderer

end Rasterm
