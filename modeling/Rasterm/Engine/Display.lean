import Rasterm.Engine.Cache
import Rasterm.Engine.Redraw
import Rasterm.Frame.Layout
import Rasterm.Render.Display

/-!
Contract: what the screen shows of the frames an engine is given, colour conversion included.

Owns the engine around its renderer (resized terminals, errors passed on), the frame handed on as
a stand-in for the caller's, and that in every run in which the conversion cache is right the
screen shows each rendered frame in its fully converted colours.

Does not own dithering, adaptive palettes and persistent registers.
-/

set_option autoImplicit false

namespace Rasterm

open ColorConverter ScreenEvent Sixel

/-! ### The engine -/

/-- A renderer told of other cells starts anew; what it remembers of the last frame is true. -/
theorem Renderer.Displayed.resized {host : Host} {options : RendererOptions} {start : Screen}
    {renderer : Renderer} {last : Option Frame}
    (displayed : renderer.Displayed host options start last)
    (persists : options.sixel.persistPaletteRegisters = false) (cells : TerminalCellPixels) :
    (renderer.updateCellPixels cells).reset.Displayed host options start last := by
  have updated := @Renderer.Displayed.perform host options start _ _ displayed persists
    (.updateCellPixels cells) trivial
  exact @Renderer.Displayed.perform host options start _ _ updated persists .reset trivial

namespace Engine

variable {host : Host} {options : RendererOptions} {start : Screen} {engine : Engine}
  {last : Option Frame} {observed : TerminalGeometry}

/-- A terminal that has been resized is redrawn; no other picture is promised meanwhile. -/
theorem displayed_refreshTerminalGeometry
    (displayed : engine.renderer.Displayed host options start last)
    (persists : options.sixel.persistPaletteRegisters = false) :
    (engine.refreshTerminalGeometry observed).renderer.Displayed host options start last := by
  simp only [refreshTerminalGeometry]
  split_ifs
  · exact displayed
  · exact displayed
  · exact displayed.resized persists _

/-- A frame that needs no conversion is handed on as it is. -/
theorem colorManaged_of_kept {view : FrameView}
    (kept : bypasses engine.options.color view.metadata.color = true) :
    (engine.colorManaged host view).2 = view := by
  have unpacked : engine.unpack view = (engine, view) :=
    unpack_of_kept fun taken => absurd (kept.symm.trans taken.2) (by decide)
  simp only [colorManaged, unpacked, toSrgb_of_bypasses kept]

/-- The engine adds nothing to the error of a render. -/
theorem error_record (result : RenderResult) (width height : Int) (metadata : FrameMetadata) :
    (engine.record result width height metadata).2.error = result.error := by
  simp only [record]
  split_ifs <;> rfl

/-- What the worker's call leaves: the screen shows the frame, unless an error is reported. -/
structure Presents (host : Host) (options : RendererOptions) (start : Screen) (engine : Engine)
    (frame : Frame) (answer : Engine × RenderStats) : Prop where
  engineOptions : answer.1.options = engine.options
  displayed : answer.1.renderer.Displayed host options start (some frame)
  shows : answer.2.error = .none → ∀ screen,
    Reaches answer.1.renderer.terminal.screen start screen → screen.Shows host options.sixel frame

theorem presents_record {current : Engine} {frame : Frame} {answer : Renderer × RenderResult}
    (same : current.options = engine.options)
    (answers : Renderer.Answers host options start frame answer) (width height : Int)
    (metadata : FrameMetadata) :
    engine.Presents host options start frame
      ({ current with renderer := answer.1 }.record answer.2 width height metadata) where
  engineOptions := by
    rw [options_record]
    exact same
  displayed := by
    rw [renderer_record]
    exact answers.displayed
  shows := by
    intro succeeded
    rw [error_record] at succeeded
    rw [renderer_record]
    rcases answers.outcome with ⟨failed, -⟩ | ⟨-, shows⟩
    · exact absurd succeeded failed
    · exact shows

end Engine

/-! ### Stand-ins -/

/-- The table colour of a pixel that is converted in full, or its palette colour. -/
def convertedPercent (host : Host) (options : SixelOptions) (settings : ColorOptions) :
    Frame → Nat → Nat → Percent
  | .packed view => fun x y =>
      let encoder := VideoSixelEncoder.create host options {}
      encoder.fixedColors (encoder.fastColorMapper.register (view.srgbColor host settings x y))
  | .indexed view => fun x y => colorPercent (view.color x y)

/-- The screen shows the frame with its colours converted in full. -/
def Screen.ShowsConverted (screen : Screen) (host : Host) (options : SixelOptions)
    (settings : ColorOptions) (frame : Frame) : Prop :=
  ∀ x < frame.width.toNat, ∀ y < frame.height.toNat,
    screen.grid x y = some (convertedPercent host options settings frame x y)

/-- A frame for the renderer that is displayed as the caller's frame should be. -/
structure StandsFor (host : Host) (options : SixelOptions) (settings : ColorOptions)
    (frame handed : Frame) : Prop where
  valid : handed.isValid = true
  kind : handed.isIndexed = frame.isIndexed
  width : handed.width = frame.width
  height : handed.height = frame.height
  damage : handed.metadata.damage = frame.metadata.damage
  colors : ∀ x y, Engine.InFrame frame x y →
    shownColor host options handed x y = convertedPercent host options settings frame x y

theorem SameRepresentation.isIndexed {last frame : Frame} (same : SameRepresentation last frame)
    (lastValid : last.isValid = true) (valid : frame.isValid = true) :
    frame.isIndexed = last.isIndexed := by
  have listed := (Frame.geometry_of_isValid valid).bytesPerPixel_pos
  have lastListed := (Frame.geometry_of_isValid lastValid).bytesPerPixel_pos
  cases frame with
  | packed view =>
      cases last with
      | packed other => rfl
      | indexed other =>
          exact absurd same.formatTag (PixelFormat.code_ne_indexed (Nat.pos_iff_ne_zero.mp listed))
  | indexed view =>
      cases last with
      | packed other =>
          exact absurd same.formatTag.symm
            (PixelFormat.code_ne_indexed (Nat.pos_iff_ne_zero.mp lastListed))
      | indexed other => rfl

/-- Rows without padding leave nothing to overflow. -/
theorem FrameView.isValid_of_tight {frame : FrameView} (geometry : frame.Geometry)
    (tight : frame.stride = frame.width * bytesPerPixel frame.format) :
    frame.isValid = true := by
  have widthPos := geometry.width_pos
  have heightPos := geometry.height_pos
  have bytesPos : 0 < (bytesPerPixel frame.format : Int) :=
    Int.natCast_pos.mpr (Nat.pos_of_ne_zero geometry.format_listed)
  have bytesLe : (bytesPerPixel frame.format : Int) ≤ 4 := by
    unfold bytesPerPixel
    split <;> decide
  have sides := sides_le_of_area_le widthPos heightPos geometry.area_le
  have rowLe : frame.width * bytesPerPixel frame.format ≤ ptrdiffMax := by
    calc frame.width * bytesPerPixel frame.format
        ≤ intMax * 4 := Int.mul_le_mul sides.1 bytesLe bytesPos.le (by decide)
      _ ≤ ptrdiffMax := by decide
  have rowsLe : frame.width * bytesPerPixel frame.format * frame.height ≤ ptrdiffMax := by
    calc frame.width * bytesPerPixel frame.format * frame.height
        = frame.width * frame.height * bytesPerPixel frame.format := by ring
      _ ≤ intMax * 4 := Int.mul_le_mul geometry.area_le bytesLe bytesPos.le (by decide)
      _ ≤ ptrdiffMax := by decide
  have stridePos : 0 < frame.stride := tight ▸ Int.mul_pos widthPos bytesPos
  have present : frame.data.isNone = false := by
    rw [Option.isNone_eq_false_iff]
    exact geometry.present
  unfold isValid
  dsimp only
  rw [if_neg, if_neg, if_neg, if_neg]
  · rw [Bool.and_eq_true, decide_eq_true_eq]
    refine ⟨?_, geometry.damage_valid⟩
    rw [Int.le_ediv_iff_mul_le heightPos]
    exact rowsLe.trans (by decide)
  · simp only [Bool.or_eq_true, decide_eq_true_eq, Bool.and_eq_true, not_or, not_and, not_lt]
    refine ⟨tight.ge, fun several => ?_⟩
    rw [Int.le_ediv_iff_mul_le (by omega), tight]
    have rest : frame.width * bytesPerPixel frame.format * (frame.height - 1) =
        frame.width * bytesPerPixel frame.format * frame.height -
          frame.width * bytesPerPixel frame.format := by ring
    omega
  · rw [gt_iff_lt, not_lt, Int.le_ediv_iff_mul_le bytesPos]
    exact rowLe
  · rw [gt_iff_lt, not_lt, Int.le_ediv_iff_mul_le heightPos]
    exact geometry.area_le
  · simp only [present, Bool.false_or, Bool.or_eq_true, decide_eq_true_eq, beq_iff_eq, not_or,
      not_le]
    exact ⟨⟨⟨widthPos, heightPos⟩, bytesPos.ne'⟩, stridePos⟩

section StandsFor

variable {host : Host} {options : SixelOptions} {settings : ColorOptions}
  {frame handed : Frame}

theorem Screen.Shows.converted {screen : Screen} (shows : screen.Shows host options handed)
    (stands : StandsFor host options settings frame handed) :
    screen.ShowsConverted host options settings frame := by
  intro x xInside y yInside
  rw [← stands.colors x y ⟨xInside, yInside⟩]
  exact shows x (stands.width ▸ xInside) y (stands.height ▸ yInside)

/-- Pixels of one displayed colour are shown alike. -/
theorem convertedPercent_congr {previous : Frame} (kind : previous.isIndexed = frame.isIndexed)
    {x y : Nat} (same : previous.displayedColor host settings x y =
      frame.displayedColor host settings x y) :
    convertedPercent host options settings previous x y =
      convertedPercent host options settings frame x y := by
  cases previous with
  | packed before =>
      cases frame with
      | packed view =>
          change before.srgbColor host settings x y = view.srgbColor host settings x y at same
          simp only [convertedPercent, same]
      | indexed view => cases kind
  | indexed before =>
      cases frame with
      | packed view => cases kind
      | indexed view =>
          simp only [Frame.displayedColor, PixelChannels.mk.injEq] at same
          obtain ⟨red, green, blue⟩ := same
          simp only [convertedPercent, colorPercent, red, green, blue]

/-- The promise about displayed colours is the one the renderer asks for. -/
theorem StandsFor.coversChanges {previous before : Frame}
    (earlier : StandsFor host options settings previous before)
    (stands : StandsFor host options settings frame handed)
    (promised : frame.metadata.damage.supplied = true → previous.width = frame.width →
      previous.height = frame.height → ∀ x y, Engine.InFrame frame x y →
        previous.displayedColor host settings x y ≠ frame.displayedColor host settings x y →
          Covers frame.metadata.damage.rects x y) :
    Renderer.CoversChanges host options (some before) handed := by
  intro supplied other isBefore representation x xInside y yInside differs
  cases isBefore
  have width : previous.width = frame.width := by
    rw [← earlier.width, ← stands.width, representation.width]
  have height : previous.height = frame.height := by
    rw [← earlier.height, ← stands.height, representation.height]
  have inside : Engine.InFrame frame x y := ⟨stands.width ▸ xInside, stands.height ▸ yInside⟩
  have insidePrevious : Engine.InFrame previous x y := by
    unfold Engine.InFrame
    rw [width, height]
    exact inside
  have kind : previous.isIndexed = frame.isIndexed := by
    rw [← earlier.kind, ← stands.kind]
    exact (representation.isIndexed earlier.valid stands.valid).symm
  rw [stands.damage] at supplied ⊢
  apply promised supplied width height x y inside
  intro same
  apply differs
  rw [earlier.colors x y insidePrevious, stands.colors x y inside]
  exact convertedPercent_congr kind same

end StandsFor

/-! ### Frames that are handed on -/

namespace Engine

variable {host : Host} {options : RendererOptions} {start : Screen} {engine : Engine}
  {observed : TerminalGeometry} {view : FrameView}

theorem shape_colorManaged (engine : Engine) (view : FrameView) :
    (engine.colorManaged host view).2.width = view.width ∧
      (engine.colorManaged host view).2.height = view.height ∧
      (engine.colorManaged host view).2.metadata.damage = view.metadata.damage := by
  simp only [colorManaged, toSrgb]
  split_ifs <;> simp

theorem cast_rowBytes {width : Int} (widthPos : 0 < width) (format : PixelFormat) :
    (rowBytes width format : Int) = width * bytesPerPixel format := by
  rw [rowBytes, Nat.cast_mul, Int.toNat_of_nonneg widthPos.le]

/-- The renderer accepts what it is handed. -/
theorem isValid_colorManaged (valid : view.isValid = true) :
    (engine.colorManaged host view).2.isValid = true := by
  by_cases kept : bypasses engine.options.color view.metadata.color = true
  · rw [colorManaged_of_kept kept]
    exact valid
  · rw [Bool.not_eq_true] at kept
    obtain ⟨geometry, stored⟩ := @geometry_unpack engine view (FrameView.geometry_of_isValid valid) kept
    have converts : bypasses engine.options.color (engine.unpack view).2.metadata.color = false := by
      rw [metadata_unpack]
      exact kept
    simp only [colorManaged]
    rw [toSrgb_of_converts converts]
    apply FrameView.isValid_of_tight
    · exact ⟨rfl, geometry.width_pos, geometry.height_pos, geometry.format_listed,
        geometry.area_le, (cast_rowBytes geometry.width_pos _).ge, geometry.damage_valid⟩
    · exact cast_rowBytes geometry.width_pos _

theorem standsFor_colorManaged (valid : view.isValid = true)
    (plain : options.sixel.dither = .none)
    (handed : ∀ x y, InFrame (.packed view) x y →
      (engine.colorManaged host view).2.channels x y =
        view.srgbColor host engine.options.color x y) :
    StandsFor host options.sixel engine.options.color (.packed view)
      (.packed (engine.colorManaged host view).2) where
  valid := isValid_colorManaged valid
  kind := rfl
  width := (shape_colorManaged engine view).1
  height := (shape_colorManaged engine view).2.1
  damage := (shape_colorManaged engine view).2.2
  colors := by
    intro x y inside
    rw [shownColor, VideoSixelEncoder.pixelColor_packed host (by exact plain), handed x y inside]
    rfl

theorem standsFor_indexed {indexed : IndexedFrameView} (valid : indexed.isValid = true)
    (settings : ColorOptions) :
    StandsFor host options.sixel settings (.indexed indexed) (.indexed indexed) :=
  ⟨valid, rfl, rfl, rfl, rfl, fun _ _ _ => rfl⟩

/-- A resized terminal does not touch the cache. -/
theorem colorManaged_refreshTerminalGeometry (view : FrameView) :
    ((engine.refreshTerminalGeometry observed).colorManaged host view).2 =
      (engine.colorManaged host view).2 := by
  simp only [colorManaged, colorConverter_unpack, colorConverter_refreshTerminalGeometry,
    options_refreshTerminalGeometry]
  simp only [unpack, options_refreshTerminalGeometry, convertedFrame_refreshTerminalGeometry]
  split_ifs <;> rfl

/-- The picture that is left of the frame rendered last. -/
structure Pictured (host : Host) (options : RendererOptions) (start : Screen)
    (history : History) : Prop where
  cached : Cached host history
  picture : ∃ last, history.engine.renderer.Displayed host options start last ∧
    ∀ handed ∈ last, ∃ frame, history.rendered = some frame ∧
      StandsFor host options.sixel history.engine.options.color frame handed

namespace Pictured

variable {history : History} {frame : Frame}

/-- A frame that passes validation is presented as it should be displayed. -/
theorem presents (pictured : Pictured host options start history)
    (persists : options.sixel.persistPaletteRegisters = false) (accepted : accepts frame = true)
    (plain : Plain options.sixel frame) (promised : Promised host history (.render observed frame))
    (inFull : HandedInFull host history (.render observed frame)) :
    ∃ handed, StandsFor host options.sixel history.engine.options.color frame handed ∧
      history.engine.Presents host options start handed
        (history.engine.renderFrame host observed frame) := by
  obtain ⟨last, displayed, stood⟩ := pictured.picture
  have refreshed := @displayed_refreshTerminalGeometry host options start history.engine last
    observed displayed persists
  have covers : ∀ handed, StandsFor host options.sixel history.engine.options.color frame handed →
      Renderer.CoversChanges host options.sixel last handed := by
    intro handed stands supplied before isLast
    obtain ⟨previous, rendered, earlier⟩ := stood before isLast
    exact earlier.coversChanges stands
      (fun asked => promised accepted asked previous rendered) supplied before rfl
  cases frame with
  | packed view =>
      obtain ⟨valid, metadata⟩ := Bool.and_eq_true_iff.mp accepted
      have stands : StandsFor host options.sixel history.engine.options.color (.packed view)
          (.packed (history.engine.colorManaged host view).2) :=
        standsFor_colorManaged valid (plain rfl).2 (inFull accepted)
      refine ⟨_, stands, ?_⟩
      have readable : (Frame.packed (history.engine.colorManaged host view).2).isReadable = true :=
        stands.valid
      have answers := refreshed.renderFrame persists readable (fun _ => plain rfl)
        (covers _ stands)
      have same : ((history.engine.refreshTerminalGeometry observed).colorManaged host view).1.options
          = history.engine.options := by simp [colorManaged]
      change history.engine.Presents host options start _
        (history.engine.renderPackedFrame host observed view)
      rw [renderPackedFrame, if_neg (by simp [valid, metadata])]
      simp only [colorManaged_refreshTerminalGeometry, renderer_colorManaged]
      exact presents_record same answers _ _ _
  | indexed view =>
      obtain ⟨readable, metadata⟩ := Bool.and_eq_true_iff.mp accepted
      have valid := IndexedFrameView.isValid_of_hasValidIndices readable
      have stands := @standsFor_indexed host options view valid history.engine.options.color
      refine ⟨_, stands, ?_⟩
      have answers := refreshed.renderFrame persists
        (show (Frame.indexed view).isReadable = true from readable) plain (covers _ stands)
      change history.engine.Presents host options start _
        (history.engine.renderIndexedFrame host observed view)
      rw [renderIndexedFrame, if_neg (by simp [readable, metadata]), renderValidatedIndexedFrame,
        if_neg (by simp [valid, metadata])]
      exact presents_record options_refreshTerminalGeometry answers _ _ _

theorem perform (pictured : Pictured host options start history)
    (persists : options.sixel.persistPaletteRegisters = false) {call : Call}
    (plain : ∀ observed frame, call = .render observed frame → Plain options.sixel frame)
    (promised : Promised host history call) (inFull : HandedInFull host history call) :
    Pictured host options start (history.perform host call) where
  cached := pictured.cached.perform call inFull
  picture := by
    obtain ⟨last, displayed, stood⟩ := pictured.picture
    cases call with
    | render observed frame =>
        by_cases accepted : accepts frame = true
        · obtain ⟨handed, stands, presents⟩ :=
            pictured.presents persists accepted (plain _ _ rfl) promised inFull
          refine ⟨some handed, presents.displayed, ?_⟩
          intro other isHanded
          cases isHanded
          refine ⟨frame, by simp only [History.perform, if_pos accepted], ?_⟩
          simp only [History.perform, options_perform]
          exact stands
        · have kept : (history.engine.renderFrame host observed frame).1.renderer =
              history.engine.renderer :=
            (renderFrame_of_refused (Bool.eq_false_iff.mpr accepted)).2
          refine ⟨last, ?_, ?_⟩
          · simp only [History.perform, Engine.perform, kept]
            exact displayed
          · intro handed isLast
            obtain ⟨previous, rendered, stands⟩ := stood handed isLast
            refine ⟨previous, ?_, ?_⟩
            · simp only [History.perform, if_neg accepted]
              exact rendered
            · simp only [History.perform, options_perform]
              exact stands
    | clear =>
        have cleared := @Renderer.Displayed.perform host options start _ _ displayed persists .clear
          trivial
        exact ⟨last, cleared, stood⟩
    | reset =>
        have again := @Renderer.Displayed.perform host options start _ _ displayed persists .reset
          trivial
        refine ⟨none, ⟨again.toSteady, Or.inl (Renderer.forgotten_reset _)⟩, ?_⟩
        intro handed none
        cases none

end Pictured

/-- A render without an error leaves the frame on the screen, its colours converted in full. -/
def ShownInFull (host : Host) (options : RendererOptions) (history : History) : Call → Prop
  | .render observed frame =>
      accepts frame = true → (history.engine.renderFrame host observed frame).2.error = .none →
        ∀ before after : Screen, before.cells = options.cellPixels →
          Reaches (history.engine.renderFrame host observed frame).1.renderer.terminal.screen
            before after →
          after.ShowsConverted host options.sixel history.engine.options.color frame
  | _ => True

theorem throughout_shownInFull (persists : options.sixel.persistPaletteRegisters = false)
    (calls : List Call) :
    ∀ {history : History}, Cached host history →
      (∀ start : Screen, start.cells = options.cellPixels → Pictured host options start history) →
      (∀ observed frame, Call.render observed frame ∈ calls → Plain options.sixel frame) →
      Throughout host (Promised host) history calls →
      Throughout host (CoversSinceConverted host) history calls →
      Throughout host (ShownInFull host options) history calls := by
  induction calls with
  | nil => exact fun _ _ _ _ _ => trivial
  | cons call calls inductionHypothesis =>
      intro history cached pictured plain promised covers
      have inFull := (cached.handedInFull_iff call promised.1).mpr covers.1
      constructor
      · cases call with
        | render observed frame =>
            intro accepted succeeded before after sameCells reaches
            obtain ⟨handed, stands, presents⟩ := (pictured before sameCells).presents persists
              accepted (plain observed frame List.mem_cons_self) promised.1 inFull
            exact (presents.shows succeeded after reaches).converted stands
        | clear => trivial
        | reset => trivial
      · apply inductionHypothesis (cached.perform call inFull) _ _ promised.2 covers.2
        · intro start sameCells
          apply (pictured start sameCells).perform persists _ promised.1 inFull
          intro observed frame same
          exact plain observed frame (same ▸ List.mem_cons_self)
        · intro observed frame member
          exact plain observed frame (List.mem_cons_of_mem _ member)

/-- Colour conversion and dirty regions together: in every run of an engine in which damage is
true to the displayed colours, and a reuse of the cache after an indexed frame covers what changed
since the packed frame converted last, each frame that is rendered without an error is on the
screen in its fully converted colours. -/
theorem converted_frames_shown (host : Host) (options : RendererOptions)
    (positive : options.cellPixels.Positive) (tracks : options.enableDirtyRegions = true)
    (persists : options.sixel.persistPaletteRegisters = false) (scratch : Scratch)
    (sink : OutputSink) (settings : EngineOptions) (geometry : TerminalGeometry)
    (calls : List Call)
    (plain : ∀ observed frame, Call.render observed frame ∈ calls → Plain options.sixel frame)
    (promised : Throughout host (Promised host)
      (History.start settings (Renderer.create host options scratch sink) geometry) calls)
    (covers : Throughout host (CoversSinceConverted host)
      (History.start settings (Renderer.create host options scratch sink) geometry) calls) :
    Throughout host (ShownInFull host options)
      (History.start settings (Renderer.create host options scratch sink) geometry) calls := by
  have cached := cached_start host settings (Renderer.create host options scratch sink) geometry
  apply throughout_shownInFull persists calls cached _ plain promised covers
  intro start sameCells
  refine ⟨cached, none,
    Renderer.displayed_create positive tracks scratch sink sameCells, ?_⟩
  intro handed none
  cases none

/-! ### A run -/

/-- A host that converts a colour into its negative. -/
def negative : Host :=
  { Host.plain with
    convertPixel := fun _ _ pixel => ⟨255 - pixel.red, 255 - pixel.green, 255 - pixel.blue⟩ }

/-- A column of four grey pixels in linear light. -/
def linearColumn (first rest : UInt8) (damage : List DamageRect) : FrameView where
  data := some fun offset => if offset < 3 then first else rest
  width := 1
  height := 4
  stride := 3
  metadata := { color := { transfer := .linear }, damage := DamageView.ofList damage true }

/-- The first pixel changes. -/
def columnRun : List Call :=
  [.render {} (.packed (linearColumn 10 10 [⟨0, 0, 1, 4⟩])),
    .render {} (.packed (linearColumn 200 10 [⟨0, 0, 1, 1⟩]))]

/-- Cells of one pixel, on an output that takes everything. -/
def columnStart : History :=
  History.start { customOutput := true }
    (Renderer.create negative { cellPixels := ⟨1, 1⟩ } {} { responses := fun _ => true }) {}

/-- The first pixel alone is converted and drawn. -/
theorem converted_frames_shown_column :
    (columnRun.foldl (History.perform negative) columnStart).engine.latestStats.dirtyRegions = 1 ∧
      Throughout negative (ShownInFull negative { cellPixels := ⟨1, 1⟩ }) columnStart
        columnRun := by
  have covers : ∀ x < 1, ∀ y < 4,
      (Frame.packed (linearColumn 10 10 [⟨0, 0, 1, 4⟩])).displayedColor negative {} x y ≠
        (Frame.packed (linearColumn 200 10 [⟨0, 0, 1, 1⟩])).displayedColor negative {} x y →
      Covers (linearColumn 200 10 [⟨0, 0, 1, 1⟩]).metadata.damage.rects x y := by
    decide +kernel
  refine ⟨by decide +kernel, ?_⟩
  apply converted_frames_shown negative { cellPixels := ⟨1, 1⟩ } ⟨by decide, by decide⟩ rfl rfl {}
    { responses := fun _ => true } { customOutput := true } {} columnRun
  · intro observed frame _ _
    exact ⟨rfl, rfl⟩
  · refine ⟨?_, ?_, trivial⟩
    · intro _ _ previous none
      cases none
    · intro _ _ previous rendered _ _ x y inside differs
      cases rendered
      simp only [History.perform, options_perform] at differs
      exact covers x inside.1 y inside.2 differs
  · refine ⟨?_, ?_, trivial⟩
    · intro _ _ previous none
      cases none
    · intro _ _ previous packed
      cases packed

end Engine

end Rasterm
