import Rasterm.Output.Attempts
import Rasterm.Render.Display

/-!
Contract: a render reports success exactly when the sink did.

Owns, for every render call from any reachable state, the relation between the
result and the first attempts of the writes and flushes the call made.
-/

set_option autoImplicit false

namespace Rasterm

open TerminalRenderer

namespace Renderer

/-! ### One update -/

theorem attempts_drawRegions (options : RendererOptions) (transaction : Transaction)
    (terminal : TerminalRenderer) :
    Attempts terminal (drawRegions options transaction terminal).1
      (drawRegions options transaction terminal).2 := by
  apply @drawRegions_induction (fun _ => Attempts terminal) options transaction terminal
    (Attempts.refl terminal)
  intro done encoded middle succeeded attempts
  exact attempts.trans (middle.attempts_drawAtCell _ _ _ false _)

theorem updateActive_drawRegions (options : RendererOptions) (transaction : Transaction)
    (terminal : TerminalRenderer) :
    (drawRegions options transaction terminal).1.updateActive = terminal.updateActive := by
  rcases adds_drawRegions options transaction terminal with ⟨_, sent, -⟩
  exact sent.updateActive

/-- A draw inside an update. -/
structure Drawing (draw : TerminalRenderer → TerminalRenderer × Bool) : Prop where
  attempts : ∀ terminal, Attempts terminal (draw terminal).1 (draw terminal).2
  reports : ∀ terminal, Reports terminal (draw terminal).1 (draw terminal).2
  active : ∀ terminal, (draw terminal).1.updateActive = terminal.updateActive

theorem drawing_drawAtHome (sixel : List UInt8) (chunkBytes : Nat) :
    Drawing fun terminal => terminal.drawAtHome sixel false chunkBytes where
  attempts terminal := terminal.attempts_drawAtHome sixel false chunkBytes
  reports terminal := terminal.reports_drawAtHome sixel false chunkBytes
  active terminal := by
    rcases terminal.sends_drawAtHome sixel false chunkBytes with ⟨_, sent, -⟩
    exact sent.updateActive

theorem drawing_drawRegions (options : RendererOptions) (transaction : Transaction) :
    Drawing (drawRegions options transaction) where
  attempts := attempts_drawRegions options transaction
  reports := reports_drawRegions options transaction
  active := updateActive_drawRegions options transaction

variable {options : RendererOptions} {terminal : TerminalRenderer}
  {draw : TerminalRenderer → TerminalRenderer × Bool}

/-- The result of an update is the conjunction of all its first attempts. -/
theorem attempts_present (drawing : Drawing draw) (closed : terminal.updateActive = false)
    (dimensionsChanged : Bool) :
    let presented := present options terminal dimensionsChanged draw
    Attempts terminal presented.1 presented.2 ∧ presented.1.KnownError := by
  intro presented
  rcases terminal.attempts_beginSynchronizedUpdate closed options.preserveCursor
    options.useSynchronizedOutput with ⟨opens, known, active⟩
  simp only [presented, present]
  set begun := terminal.beginSynchronizedUpdate options.preserveCursor
    options.useSynchronizedOutput
  have clears : Attempts begun.1
      (if dimensionsChanged = true then begun.1.clearAndHome else (begun.1, true)).1
      (if dimensionsChanged = true then begun.1.clearAndHome else (begun.1, true)).2 := by
    split_ifs
    · exact begun.1.attempts_clearAndHome
    · exact Attempts.refl begun.1
  have stillActive :
      (if dimensionsChanged = true then begun.1.clearAndHome else (begun.1, true)).1.updateActive =
        true := by
    split_ifs
    · exact begun.1.keeps_clearAndHome.updateActive.trans active
    · exact active
  set cleared := if dimensionsChanged = true then begun.1.clearAndHome else (begun.1, true)
  have ends := (draw cleared.1).1.attempts_endSynchronizedUpdate
    ((drawing.active cleared.1).trans stillActive)
  have all := ((opens.trans clears).trans (drawing.attempts cleared.1)).trans ends
  refine ⟨all.congr ?_, ?_⟩
  · generalize (draw cleared.1).1.endSynchronizedUpdate.2 = ended
    cases ended <;> cases begun.2 <;> cases (draw cleared.1).2 <;> cases cleared.2 <;> rfl
  · exact ends.known ((drawing.attempts cleared.1).known (clears.known known))

/-- An update makes at least one call. -/
theorem calls_present (drawing : Drawing draw) (closed : terminal.updateActive = false)
    (dimensionsChanged : Bool) :
    terminal.sink.calls.length <
      (present options terminal dimensionsChanged draw).1.sink.calls.length := by
  rcases terminal.attempts_beginSynchronizedUpdate closed options.preserveCursor
    options.useSynchronizedOutput with ⟨opens, -, active⟩
  simp only [present]
  set begun := terminal.beginSynchronizedUpdate options.preserveCursor
    options.useSynchronizedOutput
  have clears : begun.1.sink.calls.length ≤
      (if dimensionsChanged = true then begun.1.clearAndHome else
        (begun.1, true)).1.sink.calls.length ∧
      (if dimensionsChanged = true then begun.1.clearAndHome else (begun.1, true)).1.updateActive =
        true := by
    split_ifs
    · have sent := begun.1.keeps_clearAndHome
      exact ⟨sent.calls.length_le, sent.updateActive.trans active⟩
    · exact ⟨le_refl _, active⟩
  set cleared := if dimensionsChanged = true then begun.1.clearAndHome else (begun.1, true)
  have first := opens.length_le
  have drawn := (drawing.attempts cleared.1).length_le
  have last := (draw cleared.1).1.calls_endSynchronizedUpdate
    ((drawing.active cleared.1).trans clears.2)
  omega

/-! ### One call -/

/-- What a call reports about the writes and flushes it made. -/
structure Outcome (renderer : Renderer) (answer : Renderer × RenderResult)
    (made : List SinkCall) : Prop where
  calls : answer.1.terminal.sink.calls = renderer.terminal.sink.calls ++ made
  silent : made = [] → answer.2.rendered = false
  succeeded : made ≠ [] → (answer.2.rendered = true ∧ answer.2.error = .none ↔
    ∀ call ∈ made, call.firstAttempt = true)
  failed : made ≠ [] → ¬ (∀ call ∈ made, call.firstAttempt = true) →
    answer.2.rendered = false ∧ answer.2.outputBytes = 0 ∧ answer.2.error.IsOutputFailure

/-- The result of a call that went through an update. -/
theorem outcome_of_present {renderer : Renderer} {answer : Renderer × RenderResult}
    (drawing : Drawing draw) (closed : renderer.terminal.updateActive = false)
    (dimensionsChanged : Bool)
    (terminalEq : answer.1.terminal =
      (present options renderer.terminal dimensionsChanged draw).1)
    (rendered : answer.2.rendered =
      (present options renderer.terminal dimensionsChanged draw).2)
    (error : answer.2.error =
      if (present options renderer.terminal dimensionsChanged draw).2 then .none
      else (present options renderer.terminal dimensionsChanged draw).1.lastError)
    (outputBytes : (present options renderer.terminal dimensionsChanged draw).2 = false →
      answer.2.outputBytes = 0) : ∃ made, Outcome renderer answer made := by
  have reported := @lastError_present options renderer.terminal dimensionsChanged draw
    drawing.reports
  have grown := @calls_present options renderer.terminal draw drawing closed dimensionsChanged
  rcases @attempts_present options renderer.terminal draw drawing closed dimensionsChanged with
    ⟨⟨⟨made, calls, same⟩, -⟩, known⟩
  have some : made ≠ [] := by
    intro none
    rw [calls, none, List.append_nil] at grown
    exact absurd grown (lt_irrefl _)
  refine ⟨made, ?_, ?_, ?_, ?_⟩
  · rw [terminalEq, calls]
  · intro none
    exact absurd none some
  · intro _
    rw [← same, rendered, error]
    constructor
    · exact fun both => both.1
    · intro taken
      exact ⟨taken, by rw [taken, if_pos rfl]⟩
  · intro _ refused
    rw [← same, Bool.not_eq_true] at refused
    rw [rendered, error, refused, if_neg Bool.false_ne_true]
    refine ⟨rfl, outputBytes refused, ?_⟩
    rcases known with clean | output
    · exact absurd clean (reported refused)
    · exact output

/-- A call that made no update. -/
theorem outcome_of_silent {renderer : Renderer} {answer : Renderer × RenderResult}
    (terminalEq : answer.1.terminal = renderer.terminal) (rendered : answer.2.rendered = false) :
    ∃ made, Outcome renderer answer made := by
  refine ⟨[], ?_, fun _ => rendered, ?_, ?_⟩
  · rw [terminalEq, List.append_nil]
  · intro some
    exact absurd rfl some
  · intro some
    exact absurd rfl some

theorem outcome_renderFull (host : Host) {renderer : Renderer} (frame : Frame)
    (closed : renderer.terminal.updateActive = false) (changed : Bool) :
    ∃ made, Outcome renderer (renderer.renderFull host frame changed) made := by
  by_cases exceeded : (renderer.encodedFull host frame).1.limitExceeded = true
  · rw [renderFull_of_exceeded exceeded]
    exact outcome_of_silent rfl rfl
  · rw [renderFull_of_fits (Bool.eq_false_iff.mpr exceeded)]
    apply outcome_of_present (drawing_drawAtHome _ _) closed changed
    · rw [terminal_settle]
    · rfl
    · rfl
    · intro refused
      exact if_neg (Bool.eq_false_iff.mp refused)

theorem outcome_renderRegions (host : Host) {renderer : Renderer} (frame : Frame)
    (closed : renderer.terminal.updateActive = false) (changed : Bool)
    (regions : List DamageRegion) :
    ∃ made, Outcome renderer (renderer.renderRegions host frame changed regions) made := by
  by_cases exceeded : (renderer.encodedPatches host frame regions).2 = false
  · rw [renderRegions_of_exceeded exceeded]
    exact outcome_of_silent rfl rfl
  · rw [renderRegions_of_fits ((Bool.not_eq_false _).mp exceeded)]
    apply outcome_of_present (drawing_drawRegions _ _) closed changed
    · rw [terminal_settle]
    · rfl
    · rfl
    · intro refused
      exact if_neg (Bool.eq_false_iff.mp refused)

theorem outcome_renderFrame (host : Host) {renderer : Renderer} (frame : Frame)
    (closed : renderer.terminal.updateActive = false) :
    ∃ made, Outcome renderer (renderer.renderFrame host frame) made := by
  rcases renderer.answered_renderFrame host frame with ⟨current, ⟨⟨damage, supplied, same⟩, -⟩,
    answered⟩
  have kept : current.terminal = renderer.terminal := by rw [same]
  have transfer : ∀ answer : Renderer × RenderResult, (∃ made, Outcome current answer made) →
      ∃ made, Outcome renderer answer made := by
    rintro answer ⟨made, outcome⟩
    refine ⟨made, ?_, outcome.silent, outcome.succeeded, outcome.failed⟩
    rw [← kept]
    exact outcome.calls
  rw [← kept] at closed
  apply transfer
  generalize renderer.renderFrame host frame = answer at answered ⊢
  cases answered with
  | unchanged => exact outcome_of_silent rfl rfl
  | full => exact outcome_renderFull host frame closed _
  | patches regions => exact outcome_renderRegions host frame closed _ regions

/-! ### Every reachable state -/

theorem closed_renderFull (host : Host) {renderer : Renderer} (frame : Frame) (changed : Bool)
    (closed : renderer.terminal.updateActive = false) :
    (renderer.renderFull host frame changed).1.terminal.updateActive = false := by
  by_cases exceeded : (renderer.encodedFull host frame).1.limitExceeded = true
  · rw [renderFull_of_exceeded exceeded]
    exact closed
  · rw [renderFull_of_fits (Bool.eq_false_iff.mpr exceeded)]
    show (settle _ _ _).terminal.updateActive = false
    rw [terminal_settle]
    exact updateActive_endSynchronizedUpdate _

theorem closed_renderRegions (host : Host) {renderer : Renderer} (frame : Frame) (changed : Bool)
    (regions : List DamageRegion) (closed : renderer.terminal.updateActive = false) :
    (renderer.renderRegions host frame changed regions).1.terminal.updateActive = false := by
  by_cases exceeded : (renderer.encodedPatches host frame regions).2 = false
  · rw [renderRegions_of_exceeded exceeded]
    exact closed
  · rw [renderRegions_of_fits ((Bool.not_eq_false _).mp exceeded)]
    show (settle _ _ _).terminal.updateActive = false
    rw [terminal_settle]
    exact updateActive_endSynchronizedUpdate _

theorem closed_renderFrame (host : Host) {renderer : Renderer} (frame : Frame)
    (closed : renderer.terminal.updateActive = false) :
    (renderer.renderFrame host frame).1.terminal.updateActive = false := by
  rcases renderer.answered_renderFrame host frame with ⟨current, ⟨⟨damage, supplied, same⟩, -⟩,
    answered⟩
  have kept : current.terminal = renderer.terminal := by rw [same]
  rw [← kept] at closed
  generalize renderer.renderFrame host frame = answer at answered ⊢
  cases answered with
  | unchanged => exact closed
  | full => exact closed_renderFull host frame _ closed
  | patches regions => exact closed_renderRegions host frame _ regions closed

/-- Between two calls no update is open. -/
theorem closed_performAll (host : Host) (options : RendererOptions) (scratch : Scratch)
    (sink : OutputSink) (calls : List Call) :
    ((create host options scratch sink).performAll host calls).terminal.updateActive = false := by
  apply @performAll_invariant host (fun renderer => renderer.terminal.updateActive = false)
  · intro renderer call closed
    cases call with
    | render frame =>
        simp only [perform, render_eq]
        split_ifs
        · exact closed_renderFrame host frame closed
        · exact closed
    | clear => exact renderer.terminal.keeps_clearAndHome.updateActive.trans closed
    | reset => exact closed
    | updateCellPixels cellPixels =>
        simp only [perform, updateCellPixels]
        split_ifs
        · exact closed
        · exact closed
  · exact (keeps_create sink options.useAlternateScreen).updateActive

/-- From every reachable state, a render that makes output reports success exactly when
the sink took every write and flush at the first attempt, and an output error otherwise. -/
theorem outcome_of_render (host : Host) (options : RendererOptions) (scratch : Scratch)
    (sink : OutputSink) (calls : List Call) (frame : Frame) :
    let renderer := (create host options scratch sink).performAll host calls
    ∃ made, Outcome renderer (renderer.render host frame) made := by
  intro renderer
  rw [render_eq]
  split_ifs
  · exact outcome_renderFrame host frame (closed_performAll host options scratch sink calls)
  · exact outcome_of_silent rfl rfl

end Renderer

end Rasterm
