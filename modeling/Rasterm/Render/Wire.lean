import Rasterm.Output.Counting
import Rasterm.Render.Renderer

/-!
Contract: `wireBytes` against the bytes the sink took during a render.

Owns when the counters of the terminal renderer and of a render are exact: as
long as no recovery sequence is accepted at its second attempt.
-/

set_option autoImplicit false

namespace Rasterm

open TerminalRenderer

namespace Renderer

/-! ### One update -/

theorem counted_drawRegions (options : RendererOptions) (transaction : Transaction)
    (terminal : TerminalRenderer) :
    Counted terminal (drawRegions options transaction terminal).1 := by
  apply @drawRegions_induction (fun _ middle _ => Counted terminal middle) options transaction
    terminal (Counted.refl terminal)
  intro done encoded middle succeeded counted
  exact counted.trans (middle.counted_drawAtCell _ _ _ false _)

theorem counted_present {options : RendererOptions} {terminal : TerminalRenderer}
    {draw : TerminalRenderer → TerminalRenderer × Bool}
    (draws : ∀ terminal, Counted terminal (draw terminal).1) (dimensionsChanged : Bool) :
    Counted terminal (present options terminal dimensionsChanged draw).1 := by
  simp only [present]
  have begun := terminal.counted_beginSynchronizedUpdate options.preserveCursor
    options.useSynchronizedOutput
  split_ifs
  · exact ((begun.trans (counted_clearAndHome _)).trans (draws _)).trans
      (counted_endSynchronizedUpdate _)
  · exact (begun.trans (draws _)).trans (counted_endSynchronizedUpdate _)

/-! ### One call -/

/-- The account of the terminal renderer over a call, and the result that is read off it. -/
structure Wired (renderer : Renderer) (answer : Renderer × RenderResult) : Prop where
  counted : Counted renderer.terminal answer.1.terminal
  wireBytes : answer.2.wireBytes =
    answer.1.terminal.totalAcceptedBytes - renderer.terminal.totalAcceptedBytes

/-- A call that made no update. -/
theorem wired_of_silent {renderer : Renderer} {answer : Renderer × RenderResult}
    (terminal : answer.1.terminal = renderer.terminal) (wireBytes : answer.2.wireBytes = 0) :
    Wired renderer answer := by
  refine ⟨?_, ?_⟩
  · rw [terminal]
    exact Counted.refl renderer.terminal
  · rw [terminal, wireBytes, Nat.sub_self]

variable {host : Host} {renderer : Renderer} {frame : Frame}

theorem wired_renderFull (host : Host) (renderer : Renderer) (frame : Frame) (changed : Bool) :
    Wired renderer (renderer.renderFull host frame changed) := by
  by_cases exceeded : (renderer.encodedFull host frame).1.limitExceeded = true
  · rw [renderFull_of_exceeded exceeded]
    exact wired_of_silent rfl rfl
  · rw [renderFull_of_fits (Bool.eq_false_iff.mpr exceeded)]
    refine ⟨?_, ?_⟩
    · rw [terminal_settle]
      exact counted_present (fun terminal => terminal.counted_drawAtHome _ _ _) changed
    · rw [terminal_settle]

theorem wired_renderRegions (host : Host) (renderer : Renderer) (frame : Frame) (changed : Bool)
    (regions : List DamageRegion) :
    Wired renderer (renderer.renderRegions host frame changed regions) := by
  by_cases exceeded : (renderer.encodedPatches host frame regions).2 = false
  · rw [renderRegions_of_exceeded exceeded]
    exact wired_of_silent rfl rfl
  · rw [renderRegions_of_fits ((Bool.not_eq_false _).mp exceeded)]
    refine ⟨?_, ?_⟩
    · rw [terminal_settle]
      exact counted_present (counted_drawRegions renderer.options _) changed
    · rw [terminal_settle]

theorem wired_renderFrame (host : Host) (renderer : Renderer) (frame : Frame) :
    Wired renderer (renderer.renderFrame host frame) := by
  rcases renderer.answered_renderFrame host frame with ⟨current, ⟨⟨damage, supplied, same⟩, -⟩,
    answered⟩
  have kept : current.terminal = renderer.terminal := by rw [same]
  have transfer : ∀ answer : Renderer × RenderResult, Wired current answer →
      Wired renderer answer := by
    rintro answer ⟨counted, wireBytes⟩
    rw [kept] at counted wireBytes
    exact ⟨counted, wireBytes⟩
  apply transfer
  generalize renderer.renderFrame host frame = answer at answered ⊢
  cases answered with
  | unchanged => exact wired_of_silent rfl rfl
  | full => exact wired_renderFull host current frame _
  | patches regions => exact wired_renderRegions host current frame _ regions

theorem wired_render (host : Host) (renderer : Renderer) (frame : Frame) :
    Wired renderer (renderer.render host frame) := by
  rw [render_eq]
  split_ifs
  · exact wired_renderFrame host renderer frame
  · exact wired_of_silent rfl rfl

/-! ### When the counters are exact -/

/-- The calls made between two states, none of which is an accepted second attempt. -/
def NoRetryAccepted (made : List SinkCall) : Prop := ∀ call ∈ made, call.retryAccepted = false

/-- After any operations, `acceptedBytes()` is what the sink took since the construction, and
after any render `wireBytes` is what it took during the render, if and only if the sink accepted
no recovery sequence at its second attempt. -/
theorem counters_exact_iff (sink : OutputSink) (useAlternateScreen : Bool)
    (operations : List Operation) (host : Host) (renderer : Renderer) (frame : Frame) :
    (∃ made,
      ((TerminalRenderer.create sink useAlternateScreen).performAll operations).sink.calls =
          sink.calls ++ made ∧
        (((TerminalRenderer.create sink useAlternateScreen).performAll
            operations).totalAcceptedBytes = deliveredBytes made ↔ NoRetryAccepted made)) ∧
      ∃ made,
        (renderer.render host frame).1.terminal.sink.calls = renderer.terminal.sink.calls ++ made ∧
          ((renderer.render host frame).2.wireBytes = deliveredBytes made ↔
            NoRetryAccepted made) := by
  constructor
  · obtain ⟨made, counts⟩ := (counted_create sink useAlternateScreen).trans
      (counted_performAll _ operations)
    have exactIff := counts.exact_iff
    rw [Nat.zero_add] at exactIff
    exact ⟨made, counts.calls, exactIff⟩
  · obtain ⟨⟨made, counts⟩, wireBytes⟩ := wired_render host renderer frame
    refine ⟨made, counts.calls, ?_⟩
    rw [NoRetryAccepted, ← counts.exact_iff, wireBytes]
    have uncounted := retriedBytes_le made
    have account := counts.account
    omega

/-! ### A sink that refuses one call -/

/-- Refuses one call, and takes whatever comes before and after it. -/
def refusing (call : Nat) : OutputSink := { responses := fun other => other != call }

/-- The sequence that ends display mode is refused and taken at the second attempt: it is missing
from both counters. -/
theorem retry_uncounted :
    let terminal := (TerminalRenderer.create (refusing 6) false).performAll
      [.drawAtHome [27, 80, 113, 27, 92] false 0]
    let renderer := create Host.plain {} {} (refusing 8)
    let rendered := renderer.render Host.plain (.indexed IndexedFrameView.stripes)
    terminal.totalAcceptedBytes = 26 ∧ terminal.sink.accepted.length = 32 ∧
      rendered.2.wireBytes + renderer.terminal.sink.accepted.length + 6 =
        rendered.1.terminal.sink.accepted.length := by
  decide +kernel

end Renderer

end Rasterm
