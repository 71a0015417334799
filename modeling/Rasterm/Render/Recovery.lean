import Rasterm.Output.Recovery
import Rasterm.Render.Renderer

/-!
Contract: output failures never leave the terminal in an open mode.

Owns the law for whole runs of a renderer, from construction to destruction,
whatever writes and flushes the sink refuses, as long as no recovery sequence is
refused on both of its attempts.
-/

set_option autoImplicit false

namespace Rasterm

open TerminalRenderer

/-- What an encoder returns may be drawn. -/
theorem isPayload_encodeAny (host : Host) {encoder : VideoSixelEncoder} {frame : Frame}
    (adapted : encoder.Adapted) (readable : frame.Readable) :
    IsPayload (encoder.encodeAny host frame).2 := by
  obtain ⟨bytes, -⟩ := VideoSixelEncoder.encodeAny_bytes host (adapted.mayEncode frame) readable
  rw [bytes]
  generalize (if (encoder.shouldEmitPalette _).2 = true then _ else _ : List Nat) = defined
  split
  · exact Or.inl rfl
  · exact Or.inr (isControlString_streamBytes _ _ _ _ _ _)

namespace Renderer

variable {start : Vt.Terminal}

/-! ### One update -/

/-- Drawing within an update. -/
structure Draws (start : Vt.Terminal) (draw : TerminalRenderer → TerminalRenderer × Bool) :
    Prop where
  grows : ∀ terminal : TerminalRenderer, ∃ events, terminal.Sends events (draw terminal).1
  keeps : ∀ terminal : TerminalRenderer, (terminal.parsed start).parser = .ground →
    (terminal.parsed start).modes 80 = false → (draw terminal).1.sink.Restores →
    (draw terminal).1.parsed start = terminal.parsed start

theorem draws_drawAtHome {sixel : List UInt8} (payload : IsPayload sixel) (chunkBytes : Nat) :
    Draws start fun terminal => terminal.drawAtHome sixel false chunkBytes where
  grows := fun terminal =>
    have ⟨_, sent, _⟩ := terminal.sends_drawAtHome sixel false chunkBytes
    ⟨_, sent⟩
  keeps := fun _ ground scrolling restores =>
    parsed_drawAtHome payload false chunkBytes ground scrolling restores

theorem draws_drawRegions (options : RendererOptions) (transaction : Transaction)
    (payloads : ∀ encoded ∈ transaction.regions, IsPayload (transaction.payload encoded)) :
    Draws start (drawRegions options transaction) := by
  have all : ∀ regions ⊆ transaction.regions, ∀ succeeded : Bool,
      Draws start fun terminal => regions.foldl
        (fun drawn encoded =>
          let next := drawn.1.drawAtCell (encoded.region.y / options.cellPixels.cellHeight).toNat
            (encoded.region.x / options.cellPixels.cellWidth).toNat (transaction.payload encoded)
            false options.outputChunkBytes
          (next.1, next.2 && drawn.2)) (terminal, succeeded) := by
    intro regions
    induction regions with
    | nil =>
        intro _ _
        exact ⟨fun terminal => ⟨[], Sends.refl terminal⟩, fun _ _ _ _ => rfl⟩
    | cons encoded regions inductionHypothesis =>
        intro inside succeeded
        have later := fun succeeded =>
          inductionHypothesis (fun _ member => inside (List.mem_cons_of_mem _ member)) succeeded
        have drawable := payloads encoded (inside List.mem_cons_self)
        constructor
        · intro terminal
          obtain ⟨_, first, -⟩ := terminal.sends_drawAtCell
            (encoded.region.y / options.cellPixels.cellHeight).toNat
            (encoded.region.x / options.cellPixels.cellWidth).toNat (transaction.payload encoded)
            false options.outputChunkBytes
          obtain ⟨_, rest⟩ := (later _).grows _
          exact ⟨_, first.trans rest⟩
        · intro terminal ground scrolling restores
          simp only [List.foldl_cons] at restores ⊢
          obtain ⟨_, rest⟩ := (later _).grows
            (terminal.drawAtCell (encoded.region.y / options.cellPixels.cellHeight).toNat
              (encoded.region.x / options.cellPixels.cellWidth).toNat
              (transaction.payload encoded) false options.outputChunkBytes).1
          have first := parsed_drawAtCell _ _ drawable false options.outputChunkBytes ground
            (rest.restores restores)
          rw [(later _).keeps _ (by rw [first]; exact ground) (by rw [first]; exact scrolling)
            restores, first]
  exact all transaction.regions (List.Subset.refl _) true

/-- An update leaves the terminal as it found it. -/
theorem settled_present {terminal : TerminalRenderer} (settled : Settled start terminal)
    (options : RendererOptions) (dimensionsChanged : Bool)
    {draw : TerminalRenderer → TerminalRenderer × Bool} (draws : Draws start draw)
    (restores : (present options terminal dimensionsChanged draw).1.sink.Restores) :
    Settled start (present options terminal dimensionsChanged draw).1 := by
  have begun := updating_beginSynchronizedUpdate settled.inactive settled.calm.ground
    options.preserveCursor options.useSynchronizedOutput
  have opens := terminal.extends_beginSynchronizedUpdate options.preserveCursor
    options.useSynchronizedOutput
  simp only [present] at restores ⊢
  set opened := (terminal.beginSynchronizedUpdate options.preserveCursor
    options.useSynchronizedOutput).1
  set cleared := (if dimensionsChanged = true then opened.clearAndHome else (opened, true)).1
    with clearedEq
  have clears : opened.Keeps cleared ∧
      Updating start (terminal.parsed start) cleared := by
    rw [clearedEq]
    cases dimensionsChanged with
    | false => exact ⟨Keeps.refl opened, begun⟩
    | true =>
        have sent := opened.keeps_clearAndHome
        exact ⟨sent, begun.sends sent (parsed_clearAndHome (begun.atRest settled.calm).1)⟩
  obtain ⟨clearing, ready⟩ := clears
  obtain ⟨_, drawing⟩ := draws.grows cleared
  have closes := (draw cleared).1.extends_endSynchronizedUpdate
  have atRest := ready.atRest settled.calm
  have drawn := ready.sends drawing.toKeeps
    (draws.keeps cleared atRest.1 atRest.2 (closes.restores restores))
  obtain ⟨same, inactive⟩ := parsed_endSynchronizedUpdate drawn settled.calm restores
  exact settled.extends (((opens.toGrows.trans clearing.toGrows).trans drawing.toGrows).trans
    closes.toGrows) inactive same

/-! ### Calls -/

/-- Between two calls. -/
structure AtRest (start : Vt.Terminal) (renderer : Renderer) : Prop where
  terminal : Settled start renderer.terminal
  backend : renderer.backend.Adapted

theorem AtRest.reset {renderer : Renderer} (atRest : AtRest start renderer) :
    AtRest start renderer.reset :=
  ⟨atRest.terminal, atRest.backend.reset⟩

theorem AtRest.settle {renderer : Renderer} (atRest : AtRest start renderer) (frame : Frame)
    (succeeded : Bool) : AtRest start (renderer.settle frame succeeded) := by
  cases succeeded with
  | true => exact ⟨atRest.terminal, atRest.backend⟩
  | false => exact atRest.reset

theorem AtRest.renderFull (host : Host) {renderer : Renderer} (atRest : AtRest start renderer)
    {frame : Frame} (readable : frame.isReadable = true) (dimensionsChanged : Bool)
    (restores : (renderer.renderFull host frame dimensionsChanged).1.terminal.sink.Restores) :
    AtRest start (renderer.renderFull host frame dimensionsChanged).1 := by
  have prepared := (atRest.backend.prepare host frame).setOutputLimit
    renderer.options.maximumOutputBytes
  have adapted := prepared.encode host frame
  have payload := isPayload_encodeAny host prepared (Frame.readable_of_isReadable readable)
  have drawable : IsPayload (((renderer.backend.prepare host frame).setOutputLimit
      renderer.options.maximumOutputBytes).encode host frame).2 := by
    rw [VideoSixelEncoder.encode_eq, if_pos (Frame.isValid_of_isReadable readable)]
    exact payload
  simp only [Renderer.renderFull] at restores ⊢
  split
  · exact AtRest.reset ⟨atRest.terminal, adapted⟩
  · rename_i fits
    rw [if_neg fits, terminal_settle] at restores
    exact AtRest.settle ⟨settled_present atRest.terminal _ _ (draws_drawAtHome drawable _) restores,
      adapted⟩ frame _

theorem AtRest.renderRegions (host : Host) {renderer : Renderer} (atRest : AtRest start renderer)
    {frame : Frame} (readable : frame.isReadable = true) (dimensionsChanged : Bool)
    (regions : List DamageRegion)
    (restores :
      (renderer.renderRegions host frame dimensionsChanged regions).1.terminal.sink.Restores) :
    AtRest start (renderer.renderRegions host frame dimensionsChanged regions).1 := by
  have encoded := @encodeRegions_spec host frame renderer.options.maximumOutputBytes
    VideoSixelEncoder.Adapted
    (fun _ region limit adapted => (adapted.prepareArea host region frame).setOutputLimit limit)
    (fun _ region adapted => adapted.encodeArea host region frame) regions
    { backend := renderer.backend.prepareRegional host frame }
    (atRest.backend.prepareRegional host frame)
  obtain ⟨adapted, -, patches⟩ := encoded
  simp only [Renderer.renderRegions] at restores ⊢
  split
  · exact AtRest.reset ⟨atRest.terminal, adapted⟩
  · rename_i succeeded
    rw [if_neg succeeded, terminal_settle] at restores
    refine AtRest.settle ⟨settled_present atRest.terminal _ _ (draws_drawRegions _ _ ?_) restores,
      adapted⟩ frame _
    obtain ⟨added, all, -, made⟩ := patches (by simpa using succeeded)
    rw [List.nil_append] at all
    rw [all]
    intro patch member
    obtain ⟨backend, kept, -, payload⟩ := made patch member
    rw [payload, VideoSixelEncoder.encodeArea_eq]
    split_ifs with inside
    · simp only [Bool.and_eq_true] at inside
      exact isPayload_encodeAny host kept ((Frame.readable_of_isReadable readable).region inside.2)
    · exact Or.inl rfl

theorem AtRest.renderFrame (host : Host) {renderer : Renderer} (atRest : AtRest start renderer)
    {frame : Frame} (readable : frame.isReadable = true)
    (restores : (renderer.renderFrame host frame).1.terminal.sink.Restores) :
    AtRest start (renderer.renderFrame host frame).1 := by
  obtain ⟨current, ⟨⟨damage, supplied, same⟩, -⟩, answered⟩ :=
    renderer.answered_renderFrame host frame
  have found : AtRest start current := by
    rw [same]
    exact ⟨atRest.terminal, atRest.backend⟩
  generalize renderer.renderFrame host frame = answer at answered restores ⊢
  cases answered with
  | unchanged => exact found
  | full => exact found.renderFull host readable _ restores
  | patches regions => exact found.renderRegions host readable _ regions restores

theorem AtRest.perform (host : Host) {renderer : Renderer} (atRest : AtRest start renderer)
    (call : Call) (restores : (renderer.perform host call).terminal.sink.Restores) :
    AtRest start (renderer.perform host call) := by
  cases call with
  | render frame =>
      simp only [Renderer.perform, render_eq] at restores ⊢
      by_cases readable : frame.isReadable = true
      · rw [if_pos readable] at restores ⊢
        exact atRest.renderFrame host readable restores
      · rw [if_neg readable]
        exact atRest
  | clear =>
      have sent := renderer.terminal.keeps_clearAndHome
      exact AtRest.reset
        ⟨atRest.terminal.extends sent.toGrows (sent.updateActive.trans atRest.terminal.inactive)
          (parsed_clearAndHome atRest.terminal.calm.ground), atRest.backend⟩
  | reset => exact atRest.reset
  | updateCellPixels cellPixels =>
      simp only [Renderer.perform, Renderer.updateCellPixels]
      split_ifs
      · exact atRest
      · have resized := renderer.terminal.extends_resize cellPixels
        exact ⟨atRest.terminal.extends resized.toGrows atRest.terminal.inactive rfl,
          atRest.backend⟩

/-! ### Runs -/

/-- What holds along a run: earlier states restored whatever a later one restored. -/
theorem atRest_performAll (host : Host) {renderer : Renderer} (atRest : AtRest start renderer)
    (calls : List Call)
    (restores : (renderer.performAll host calls).terminal.sink.Restores) :
    AtRest start (renderer.performAll host calls) ∧
      (renderer.performAll host calls).terminal.usesAlternateScreen =
        renderer.terminal.usesAlternateScreen := by
  have run := @performAll_invariant host
    (fun current => current.terminal.sink.Restores → AtRest start current) ?_ calls renderer
    fun _ => atRest
  · obtain ⟨_, grown⟩ := renderer.extends_performAll host calls
    exact ⟨run restores, grown.usesAlternateScreen⟩
  · intro current call settled restoresAfter
    obtain ⟨_, grows⟩ := current.extends_perform host call
    exact (settled (grows.restores restoresAfter)).perform host call restoresAfter

/-- After every call nothing is left open; after destruction the cursor is shown and
the alternate screen is left, if it was entered. -/
theorem calm_after_calls (host : Host) (options : RendererOptions) (scratch : Scratch)
    (responses : Nat → Bool) (start : Vt.Terminal) (calm : Calm start) (calls : List Call) :
    let renderer := (create host options scratch { responses := responses }).performAll host calls
    (renderer.terminal.sink.Restores → Calm (renderer.terminal.parsed start)) ∧
      (renderer.destroy.sink.Restores → Calm (renderer.destroy.parsed start) ∧
        (renderer.destroy.parsed start).modes 25 = true ∧
        (renderer.destroy.parsed start).modes 1049 =
          if options.useAlternateScreen then false else start.modes 1049) := by
  intro renderer
  have created : AtRest start (create host options scratch { responses := responses }) :=
    ⟨settled_create rfl options.useAlternateScreen calm,
      VideoSixelEncoder.adapted_create host options.sixel scratch⟩
  constructor
  · intro restores
    exact (atRest_performAll host created calls restores).1.terminal.calm
  · intro restores
    have before := renderer.terminal.grows_destroy.restores restores
    obtain ⟨atRest, alternate⟩ := atRest_performAll host created calls before
    have alternateScreen : renderer.terminal.usesAlternateScreen = options.useAlternateScreen :=
      alternate.trans (keeps_create _ _).usesAlternateScreen
    obtain ⟨calmAfter, shown, left⟩ := parsed_destroy atRest.terminal restores
    rw [alternateScreen] at left
    exact ⟨calmAfter, shown, left⟩

/-- A chunk refused inside a control string, the terminator refused once, and a refused flush. -/
theorem calm_after_stripes_refused :
    let renderer := (create Host.plain { outputChunkBytes := 16, useAlternateScreen := true } {}
      { responses := fun call => call ∉ [9, 10, 15] }).performAll Host.plain
        [.render (.indexed .stripes), .clear,
          .render (.indexed .stripes)]
    Calm (renderer.terminal.parsed {}) ∧
      (Calm (renderer.destroy.parsed {}) ∧ (renderer.destroy.parsed {}).modes 25 = true ∧
        (renderer.destroy.parsed {}).modes 1049 =
          if ({ outputChunkBytes := 16, useAlternateScreen := true } :
            RendererOptions).useAlternateScreen then false else ({} : Vt.Terminal).modes 1049) := by
  have settled := calm_after_calls Host.plain
    { outputChunkBytes := 16, useAlternateScreen := true } {} (fun call => call ∉ [9, 10, 15]) {}
    ⟨rfl, rfl, rfl⟩ [.render (.indexed .stripes), .clear,
      .render (.indexed .stripes)]
  exact ⟨settled.1 (by decide +kernel), settled.2 (by decide +kernel)⟩

end Renderer

end Rasterm
