import Rasterm.Output.Reporting
import Rasterm.Render.Sound

/-!
Contract: after every render without an error the screen shows the frame.

Owns the colour a frame's pixel is displayed with, what full frames and patches
make of the screen, the invariant that ties the screen to the remembered frame and
to the tracker's copy, and its preservation by every call.
-/

set_option autoImplicit false

namespace Rasterm

open ScreenEvent Sixel TerminalRenderer

/-! ### Colours -/

namespace VideoSixelEncoder

variable {left right encoder : VideoSixelEncoder}

theorem SameKind.pixelColor (host : Host) (kind : left.SameKind right) (frame : Frame) (x y : Nat) :
    left.pixelColor host frame x y = right.pixelColor host frame x y := by
  have colors := congrArg FastColorMapper.colorNumToRgb kind.table
  have lookup := congrArg FastColorMapper.rgbLookup32 kind.table
  change left.fastColorMapper.colorNumToRgb = right.fastColorMapper.colorNumToRgb at colors
  change left.fastColorMapper.rgbLookup32 = right.fastColorMapper.rgbLookup32 at lookup
  cases frame with
  | packed view =>
      simp only [VideoSixelEncoder.pixelColor, fixedColors, fixedImage, FastColorMapper.register,
        colors, lookup, kind.options]
  | indexed view => rfl

/-- Without dithering a pixel's colour depends on the pixel only. -/
theorem pixelColor_packed (host : Host) (plain : encoder.options.dither = .none)
    (view : FrameView) (x y : Nat) :
    encoder.pixelColor host (.packed view) x y =
      encoder.fixedColors (encoder.fastColorMapper.register (view.channels x y)) := by
  simp only [pixelColor, fixedImage, ditheredSource, plain, if_true]

theorem pixelColor_region (host : Host) {frame : Frame}
    (plain : frame.isIndexed = false → encoder.options.dither = .none) (area : DamageRegion)
    (x y : Nat) :
    encoder.pixelColor host (frame.region area) x y =
      encoder.pixelColor host frame (area.x.toNat + x) (area.y.toNat + y) := by
  cases frame with
  | packed view =>
      simp only [Frame.region]
      rw [pixelColor_packed host (plain rfl), pixelColor_packed host (plain rfl),
        FrameView.channels_region]
  | indexed view =>
      simp only [Frame.region, pixelColor, IndexedFrameView.color, IndexedFrameView.index_region]
      rfl

end VideoSixelEncoder

theorem PixelFormat.eq_of_code {left right : PixelFormat} (leftListed : bytesPerPixel left ≠ 0)
    (rightListed : bytesPerPixel right ≠ 0) (same : left.code = right.code) : left = right := by
  cases left <;> cases right <;>
    first
    | rfl
    | exact absurd rfl leftListed
    | exact absurd rfl rightListed
    | (exfalso; revert same; decide)

theorem PixelFormat.code_ne_indexed {format : PixelFormat} (listed : bytesPerPixel format ≠ 0) :
    format.code ≠ 100 := by
  cases format <;> first | decide | exact absurd rfl listed

theorem Frame.formatTag_nonneg {frame : Frame} (valid : frame.isValid = true) :
    0 ≤ frame.formatTag := by
  have listed := (Frame.geometry_of_isValid valid).bytesPerPixel_pos
  cases frame with
  | packed view =>
      simp only [Frame.formatTag, Frame.bytesPerPixel] at listed ⊢
      cases format : view.format with
      | unlisted value =>
          rw [format] at listed
          exact absurd listed (Nat.lt_irrefl 0)
      | _ => decide
  | indexed _ => exact (by decide : (0 : Int) ≤ 100)

/-- Same size, format and palette. -/
structure SameRepresentation (last frame : Frame) : Prop where
  width : frame.width = last.width
  height : frame.height = last.height
  formatTag : frame.formatTag = last.formatTag
  palette : frame.paletteEntries = last.paletteEntries

/-- Pixels with the same bytes in frames of one shape have the same colour. -/
theorem pixelColor_of_sameBytes (host : Host) {encoder : VideoSixelEncoder} {last frame : Frame}
    (plain : frame.isIndexed = false → encoder.options.dither = .none)
    (lastValid : last.isValid = true) (valid : frame.isValid = true)
    (same : SameRepresentation last frame) {x y : Nat}
    (bytes : DamageTracker.SameBytes last frame x y) :
    encoder.pixelColor host frame x y = encoder.pixelColor host last x y := by
  have listed := (Frame.geometry_of_isValid valid).bytesPerPixel_pos
  have lastListed := (Frame.geometry_of_isValid lastValid).bytesPerPixel_pos
  cases frame with
  | packed view =>
      cases last with
      | packed other =>
          have format : view.format = other.format :=
            PixelFormat.eq_of_code (Nat.pos_iff_ne_zero.mp listed)
              (Nat.pos_iff_ne_zero.mp lastListed) same.formatTag
          rw [VideoSixelEncoder.pixelColor_packed host (plain rfl),
            VideoSixelEncoder.pixelColor_packed host (plain rfl)]
          have channels : view.channels x y = other.channels x y := by
            rw [FrameView.channels, FrameView.channels, format]
            apply readPixel_congr
            intro index inside
            rw [← format, pixelStride_pixelLayout (Nat.pos_iff_ne_zero.mp listed)] at inside
            exact bytes index inside
          rw [channels]
      | indexed other =>
          exact absurd same.formatTag
            (PixelFormat.code_ne_indexed (Nat.pos_iff_ne_zero.mp listed))
  | indexed view =>
      cases last with
      | packed other =>
          exact absurd same.formatTag.symm
            (PixelFormat.code_ne_indexed (Nat.pos_iff_ne_zero.mp lastListed))
      | indexed other =>
          have index : view.index x y = other.index x y := by
            have read := bytes 0 Nat.one_pos
            simp only [Frame.bytesPerPixel, Nat.mul_one, Nat.add_zero] at read
            exact read
          have palette : view.palette.entries = other.palette.entries := same.palette
          simp only [VideoSixelEncoder.pixelColor, IndexedFrameView.color, index, palette]

/-! ### Full frames and patches on the screen -/

/-- Packed frames are mapped through the fixed table, without dithering. -/
def Plain (options : SixelOptions) (frame : Frame) : Prop :=
  frame.isIndexed = false → options.useAdaptivePalette = false ∧ options.dither = .none

/-- The colour a pixel is displayed with. -/
def shownColor (host : Host) (options : SixelOptions) (frame : Frame) (x y : Nat) : Percent :=
  (VideoSixelEncoder.create host options {}).pixelColor host frame x y

/-- The screen shows the frame in the frame's rectangle. -/
def Screen.Shows (screen : Screen) (host : Host) (options : SixelOptions) (frame : Frame) : Prop :=
  ∀ x < frame.width.toNat, ∀ y < frame.height.toNat,
    screen.grid x y = some (shownColor host options frame x y)

section Painting

variable {host : Host} {options : SixelOptions} {frame : Frame}

/-- Without persistent registers every view is a control string that decodes to its own
pixels. -/
theorem decodesTo_encodeAny (persists : options.persistPaletteRegisters = false)
    {encoder : VideoSixelEncoder} (kind : encoder.SameKind (.create host options {}))
    (readable : frame.Readable) (plain : Plain options frame)
    (fits : (encoder.encodeAny host frame).1.limitExceeded = false) :
    IsControlString (encoder.encodeAny host frame).2 ∧
      ∃ register, DecodesTo (encoder.encodeAny host frame).2 frame.width.toNat
        frame.height.toNat register (shownColor host options frame) := by
  have defines : (encoder.shouldEmitPalette (encoder.fixedSignature frame)).2 = true := by
    have off : encoder.options.persistPaletteRegisters = false := by
      rw [kind.options]
      exact persists
    simp [VideoSixelEncoder.shouldEmitPalette, off]
  have fixed : frame.isIndexed = false → encoder.options.useAdaptivePalette = false := by
    intro packed
    rw [kind.options]
    exact (plain packed).1
  obtain ⟨framed, decodes⟩ :=
    VideoSixelEncoder.decode_encodeAny host readable fixed fits defines
  refine ⟨framed, _, decodes.congr (fun _ _ _ _ => rfl) ?_⟩
  intro x _ y _
  exact kind.pixelColor host frame x y

/-- A patch shows its part of the frame and leaves the rest alone. -/
theorem grid_of_patch (plain : Plain options frame) {cells : TerminalCellPixels}
    (positive : cells.Positive) {region : DamageRegion}
    (placed : region.Placed cells frame.width frame.height) {payload : List UInt8}
    {register : Nat → Nat → Nat}
    (decodes : DecodesTo payload (frame.region region).width.toNat
      (frame.region region).height.toNat register (shownColor host options (frame.region region)))
    {before after : Screen} (sameCells : before.cells = cells)
    (leads : (drawn (region.y / cells.cellHeight).toNat (region.x / cells.cellWidth).toNat payload
      true).Leads before after) (x y : Nat) :
    after.grid x y =
      if region.Contains x y then some (shownColor host options frame x y)
      else before.grid x y := by
  obtain ⟨⟨xNonneg, yNonneg, widthPos, heightPos, -, -⟩, column, row⟩ := placed
  have painted := grid_of_drawn decodes leads x y
  simp only [Frame.width_region, Frame.height_region, sameCells] at painted
  -- the cell of a placed patch starts where the patch starts
  have left : (region.x / cells.cellWidth).toNat * cells.cellWidth.toNat = region.x.toNat := by
    rw [← Int.toNat_mul (Int.ediv_nonneg xNonneg positive.1.le) positive.1.le,
      Int.ediv_mul_cancel column]
  have top : (region.y / cells.cellHeight).toNat * cells.cellHeight.toNat = region.y.toNat := by
    rw [← Int.toNat_mul (Int.ediv_nonneg yNonneg positive.2.le) positive.2.le,
      Int.ediv_mul_cancel row]
  rw [left, top] at painted
  rw [painted]
  by_cases contained : region.Contains x y
  · have inside := contained
    unfold DamageRect.Contains at inside
    rw [if_pos contained, if_pos (by omega)]
    have undithered : frame.isIndexed = false →
        (VideoSixelEncoder.create host options {}).options.dither = .none :=
      fun packed => (plain packed).2
    have moved := VideoSixelEncoder.pixelColor_region host undithered region
      (x - region.x.toNat) (y - region.y.toNat)
    rw [shownColor, moved, shownColor, Nat.add_sub_cancel' (by omega),
      Nat.add_sub_cancel' (by omega)]
  · rw [if_neg contained, if_neg]
    intro inside
    apply contained
    unfold DamageRect.Contains
    omega

/-- After the patches every pixel they cover and every pixel shown before is shown. -/
theorem grid_of_patches (plain : Plain options frame) {settings : RendererOptions}
    (positive : settings.cellPixels.Positive) (transaction : Renderer.Transaction)
    (patches : List EncodedRegion)
    (made : ∀ patch ∈ patches,
      patch.region.Placed settings.cellPixels frame.width frame.height ∧
        ∃ register, DecodesTo (transaction.payload patch) (frame.region patch.region).width.toNat
          (frame.region patch.region).height.toNat register
          (shownColor host options (frame.region patch.region)))
    {before after : Screen} (sameCells : before.cells = settings.cellPixels)
    (reaches : Reaches (patches.map (Renderer.patchEvent settings transaction)) before after) :
    ∀ x y : Nat, Covers (patches.map EncodedRegion.region) x y ∨
        before.grid x y = some (shownColor host options frame x y) →
      after.grid x y = some (shownColor host options frame x y) := by
  induction patches generalizing before with
  | nil =>
      intro x y shown
      rw [reaches_nil reaches]
      rcases shown with covered | shown
      · exact absurd covered (not_covers_nil _ _)
      · exact shown
  | cons patch patches inductionHypothesis =>
      intro x y shown
      cases reaches with
      | @cons _ _ _ next _ head tail =>
          obtain ⟨placed, register, decodes⟩ := made patch List.mem_cons_self
          have painted := grid_of_patch plain positive placed decodes sameCells head x y
          have nextCells : next.cells = settings.cellPixels := head.1.trans sameCells
          apply inductionHypothesis
            (fun later member => made later (List.mem_cons_of_mem _ member)) nextCells tail x y
          by_cases contained : patch.region.Contains x y
          · right
            rw [painted, if_pos contained]
          · rw [if_neg contained] at painted
            rcases shown with ⟨region, listed, inRegion⟩ | shown
            · rcases List.mem_cons.mp listed with first | later
              · rw [first] at inRegion
                exact absurd inRegion contained
              · exact Or.inl ⟨region, later, inRegion⟩
            · exact Or.inr (painted.trans shown)

/-- A full frame shows all of itself. -/
theorem shows_of_full {payload : List UInt8} {register : Nat → Nat → Nat}
    (decodes : DecodesTo payload frame.width.toNat frame.height.toNat register
      (shownColor host options frame)) {before after : Screen}
    (leads : (drawn 0 0 payload true).Leads before after) : after.Shows host options frame := by
  intro x xInside y yInside
  have painted := grid_of_drawn decodes leads x y
  simpa [xInside, yInside] using painted

end Painting

namespace Renderer

/-! ### Refused output is reported -/

theorem reports_drawRegions (options : RendererOptions) (transaction : Transaction)
    (terminal : TerminalRenderer) :
    Reports terminal (drawRegions options transaction terminal).1
      (drawRegions options transaction terminal).2 := by
  apply @drawRegions_induction (fun _ => Reports terminal) options transaction terminal
    (Reports.refl terminal)
  intro done encoded middle succeeded reports
  exact reports.trans (middle.reports_drawAtCell _ _ _ false _)

/-- An update that failed says why. -/
theorem lastError_present (options : RendererOptions) (terminal : TerminalRenderer)
    (dimensionsChanged : Bool) {draw : TerminalRenderer → TerminalRenderer × Bool}
    (draws : ∀ terminal, Reports terminal (draw terminal).1 (draw terminal).2)
    (failed : (present options terminal dimensionsChanged draw).2 = false) :
    (present options terminal dimensionsChanged draw).1.lastError ≠ .none := by
  simp only [present] at failed ⊢
  have opens := terminal.reported_beginSynchronizedUpdate options.preserveCursor
    options.useSynchronizedOutput
  set begun := terminal.beginSynchronizedUpdate options.preserveCursor
    options.useSynchronizedOutput
  have clears : Reports begun.1
      (if dimensionsChanged = true then begun.1.clearAndHome else (begun.1, true)).1
      (if dimensionsChanged = true then begun.1.clearAndHome else (begun.1, true)).2 := by
    split_ifs
    · exact begun.1.reports_clearAndHome
    · exact Reports.refl begun.1
  set cleared := if dimensionsChanged = true then begun.1.clearAndHome else (begun.1, true)
  have rest := (clears.trans (draws cleared.1)).trans (reports_endSynchronizedUpdate _)
  cases opened : begun.2 with
  | false => exact rest.kept (opens opened)
  | true =>
      rw [opened, Bool.and_true] at failed
      exact rest.reported failed

/-! ### What is remembered -/

structure Forgotten (renderer : Renderer) : Prop where
  previousWidth : renderer.previousWidth = 0
  previousFormatTag : renderer.previousFormatTag = -1
  damage : renderer.damage.previousWidth = 0

structure Remembers (renderer : Renderer) (last : Frame) : Prop where
  valid : last.isValid = true
  width : renderer.previousWidth = last.width
  height : renderer.previousHeight = last.height
  formatTag : renderer.previousFormatTag = last.formatTag
  palette : renderer.previousPalette = last.paletteEntries
  copy : renderer.usingSuppliedDamage = false → renderer.damage.Holds last

theorem forgotten_reset (renderer : Renderer) : renderer.reset.Forgotten := ⟨rfl, rfl, rfl⟩

theorem Forgotten.shape {renderer : Renderer} (forgotten : renderer.Forgotten) {frame : Frame}
    (valid : frame.isValid = true) : renderer.damage.hasSameShape frame = false := by
  have positive := (Frame.geometry_of_isValid valid).width_pos
  have other : (frame.width == renderer.damage.previousWidth) = false := by
    rw [forgotten.damage]
    exact beq_eq_false_iff_ne.mpr (ne_of_gt positive)
  simp [DamageTracker.hasSameShape, other]

/-- What every call keeps of a renderer that tracks damage, and of the cell size. -/
structure Steady (host : Host) (options : RendererOptions) (start : Screen) (renderer : Renderer) :
    Prop where
  sound : Sound host renderer
  sixel : renderer.options.sixel = options.sixel
  tracks : renderer.options.enableDirtyRegions = true
  dated : renderer.terminal.Dated
  cells : ∀ screen, Reaches renderer.terminal.screen start screen →
    screen.cells = renderer.options.cellPixels

/-- A frame failed and everything is forgotten, or the screen shows it. -/
structure Answers (host : Host) (options : RendererOptions) (start : Screen) (frame : Frame)
    (answer : Renderer × RenderResult) : Prop where
  steady : answer.1.Steady host options start
  outcome : answer.2.error ≠ .none ∧ answer.1.Forgotten ∨
    answer.1.Remembers frame ∧ ∀ screen, Reaches answer.1.terminal.screen start screen →
      screen.Shows host options.sixel frame

variable {host : Host} {options : RendererOptions} {start : Screen} {renderer : Renderer}
  {frame : Frame}

theorem Steady.otherDamage (steady : renderer.Steady host options start) {other : Renderer}
    (looked : renderer.OtherDamage other) : other.Steady host options start := by
  have sound := steady.sound.otherDamage looked
  obtain ⟨⟨damage, supplied, same⟩, -⟩ := looked
  subst same
  exact ⟨sound, steady.sixel, steady.tracks, steady.dated, steady.cells⟩

/-- New events that leave the cells alone. -/
theorem Steady.extends (steady : renderer.Steady host options start) {other : Renderer}
    (sound : Sound host other) (same : other.options = renderer.options)
    {events : List ScreenEvent} (grown : renderer.terminal.Extends events other.terminal)
    (keep : Emulator.KeepCells events) : other.Steady host options start := by
  refine ⟨sound, same ▸ steady.sixel, same ▸ steady.tracks, grown.dated steady.dated, ?_⟩
  intro screen reaches
  rw [grown.screen steady.dated, reaches_append] at reaches
  obtain ⟨middle, before, after⟩ := reaches
  rw [cells_of_reaches after keep, steady.cells middle before, same]

theorem Remembers.of_remember (valid : frame.isValid = true)
    (copy : renderer.usingSuppliedDamage = false → renderer.damage.Holds frame) :
    (renderer.remember frame).Remembers frame :=
  ⟨valid, rfl, rfl, rfl, rfl, copy⟩

theorem Steady.renderFull (steady : renderer.Steady host options start)
    (persists : options.sixel.persistPaletteRegisters = false)
    (readable : frame.isReadable = true) (plain : Plain options.sixel frame)
    (copy : renderer.usingSuppliedDamage = false → renderer.damage.Holds frame) (changed : Bool) :
    Answers host options start frame (renderer.renderFull host frame changed) := by
  have valid := Frame.isValid_of_isReadable readable
  have view := Frame.readable_of_isReadable readable
  have sound := steady.sound.renderFull frame changed
  have encoded := steady.sound.encodedFull_backend frame
  cases outcome : (renderer.encodedFull host frame).1.limitExceeded with
  | true =>
      rw [renderFull_of_exceeded outcome] at sound ⊢
      exact ⟨steady.extends sound rfl (Extends.refl _) Emulator.keepCells_nil,
        Or.inl ⟨(fun none => by cases none), forgotten_reset _⟩⟩
  | false =>
      rw [renderFull_of_fits outcome] at sound ⊢
      obtain ⟨events, grown, keep, same⟩ := extends_presentFull renderer.options
        renderer.terminal changed (renderer.encodedFull host frame).2
      have reason := lastError_present renderer.options renderer.terminal changed
        (fun terminal => terminal.reports_drawAtHome (renderer.encodedFull host frame).2 false
          renderer.options.outputChunkBytes)
      simp only at sound ⊢
      set presented := present renderer.options renderer.terminal changed
        fun terminal => terminal.drawAtHome (renderer.encodedFull host frame).2 false
          renderer.options.outputChunkBytes
      cases taken : presented.2 with
      | false =>
          rw [taken] at sound
          refine ⟨steady.extends sound rfl grown keep, Or.inl ⟨?_, forgotten_reset _⟩⟩
          exact reason taken
      | true =>
          rw [taken] at sound
          refine ⟨steady.extends sound rfl grown keep,
            Or.inr ⟨Remembers.of_remember valid copy, ?_⟩⟩
          intro screen reaches
          have encodes : renderer.encodedFull host frame =
              (renderer.fullEncoder host frame).encodeAny host frame := by
            rw [encodedFull, VideoSixelEncoder.encode_eq, if_pos valid]
          have kind := steady.sound.fullEncoder_kind frame
          rw [steady.sixel] at kind
          rw [encodes] at outcome same
          obtain ⟨framed, register, decodes⟩ :=
            decodesTo_encodeAny persists kind view plain outcome
          change Reaches presented.1.screen start screen at reaches
          rw [grown.screen steady.dated, same framed taken, reaches_append] at reaches
          obtain ⟨_, -, update⟩ := reaches
          obtain ⟨_, -, drawn⟩ := reaches_append.mp update
          exact shows_of_full decodes (reaches_singleton drawn)

theorem Steady.renderRegions (steady : renderer.Steady host options start)
    (persists : options.sixel.persistPaletteRegisters = false)
    (readable : frame.isReadable = true) (plain : Plain options.sixel frame)
    (copy : renderer.usingSuppliedDamage = false → renderer.damage.Holds frame)
    {regions : List DamageRegion}
    (placed : AllPlaced renderer.options.cellPixels frame.width frame.height regions)
    (shown : ∀ screen, Reaches renderer.terminal.screen start screen →
      ∀ x < frame.width.toNat, ∀ y < frame.height.toNat, ¬ Covers regions x y →
        screen.grid x y = some (shownColor host options.sixel frame x y)) :
    Answers host options start frame (renderer.renderRegions host frame false regions) := by
  have valid := Frame.isValid_of_isReadable readable
  have sound := steady.sound.renderRegions frame false regions
  obtain ⟨-, -, patches⟩ := @encodeRegions_spec host frame renderer.options.maximumOutputBytes
    (fun backend => backend.SameKind (VideoSixelEncoder.create host renderer.options.sixel {}))
    (fun _ region limit kind => (VideoSixelEncoder.sameKind_setOutputLimit _ limit).trans
      ((VideoSixelEncoder.sameKind_prepareArea host _ region frame).trans kind))
    (fun _ region kind => (VideoSixelEncoder.sameKind_encodeArea host _ region frame).trans kind)
    regions { backend := renderer.backend.prepareRegional host frame }
    ((VideoSixelEncoder.sameKind_prepareRegional host _ frame).trans steady.sound.kind)
  change (renderer.encodedPatches host frame regions).2 = true → _ at patches
  cases outcome : (renderer.encodedPatches host frame regions).2 with
  | false =>
      rw [renderRegions_of_exceeded outcome] at sound ⊢
      exact ⟨steady.extends sound rfl (Extends.refl _) Emulator.keepCells_nil,
        Or.inl ⟨(fun none => by cases none), forgotten_reset _⟩⟩
  | true =>
      rw [renderRegions_of_fits outcome] at sound ⊢
      obtain ⟨events, grown, keep, same⟩ := extends_present renderer.options renderer.terminal false
        (adds_drawRegions renderer.options (renderer.encodedPatches host frame regions).1)
      have reason := lastError_present renderer.options renderer.terminal false
        (reports_drawRegions renderer.options (renderer.encodedPatches host frame regions).1)
      simp only at sound ⊢
      set presented := present renderer.options renderer.terminal false
        (drawRegions renderer.options (renderer.encodedPatches host frame regions).1)
      cases taken : presented.2 with
      | false =>
          rw [taken] at sound
          refine ⟨steady.extends sound rfl grown keep, Or.inl ⟨?_, forgotten_reset _⟩⟩
          exact reason taken
      | true =>
          rw [taken] at sound
          refine ⟨steady.extends sound rfl grown keep,
            Or.inr ⟨Remembers.of_remember valid copy, ?_⟩⟩
          obtain ⟨added, all, inOrder, made⟩ := patches outcome
          rw [List.nil_append] at all
          change (renderer.encodedPatches host frame regions).1.regions = added at all
          have decodes : ∀ patch ∈ added,
              patch.region.Placed renderer.options.cellPixels frame.width frame.height ∧
                IsControlString
                  ((renderer.encodedPatches host frame regions).1.payload patch) ∧
                ∃ register, DecodesTo
                  ((renderer.encodedPatches host frame regions).1.payload patch)
                  (frame.region patch.region).width.toNat
                  (frame.region patch.region).height.toNat register
                  (shownColor host options.sixel (frame.region patch.region)) := by
            intro patch member
            have listed : patch.region ∈ regions := by
              rw [← inOrder]
              exact List.mem_map_of_mem member
            have inFrame := placed patch.region listed
            obtain ⟨backend, kind, fits, payload⟩ := made patch member
            have encodes : backend.encodeArea host patch.region frame =
                backend.encodeAny host (frame.region patch.region) := by
              rw [VideoSixelEncoder.encodeArea_eq, valid, regionInside_of_placed inFrame]
              rfl
            rw [encodes] at fits payload
            rw [steady.sixel] at kind
            have regionPlain : Plain options.sixel (frame.region patch.region) := by
              intro packed
              apply plain
              cases frame with
              | packed view => rfl
              | indexed view => exact packed
            have decoded := decodesTo_encodeAny persists kind
              ((Frame.readable_of_isReadable readable).region (regionInside_of_placed inFrame))
              regionPlain fits
            rw [← payload] at decoded
            exact ⟨inFrame, decoded⟩
          intro screen reaches x xInside y yInside
          change Reaches presented.1.screen start screen at reaches
          rw [all] at same
          rw [grown.screen steady.dated, same (fun patch member => (decodes patch member).2.1) taken,
            reaches_append] at reaches
          obtain ⟨middle, before, drawn⟩ := reaches
          simp only [Bool.false_eq_true, if_false, List.nil_append] at drawn
          refine grid_of_patches plain steady.sound.positive _ added ?_
            (steady.cells middle before) drawn x y ?_
          · exact fun patch member => ⟨(decodes patch member).1, (decodes patch member).2.2⟩
          · rw [inOrder]
            by_cases covered : Covers regions x y
            · exact Or.inl covered
            · exact Or.inr (shown middle before x xInside y yInside covered)

/-! ### One frame -/

/-- The screen shows the remembered frame. -/
structure Displayed (host : Host) (options : RendererOptions) (start : Screen)
    (renderer : Renderer) (last : Option Frame) : Prop
    extends Steady host options start renderer where
  memory : renderer.Forgotten ∨
    ∃ previous, last = some previous ∧ renderer.Remembers previous ∧
      ∀ screen, Reaches renderer.terminal.screen start screen →
        screen.Shows host options.sixel previous

/-- Supplied damage contains every pixel that changed since a frame of the same size
and representation. -/
def CoversChanges (host : Host) (options : SixelOptions) (last : Option Frame) (frame : Frame) :
    Prop :=
  frame.metadata.damage.supplied = true → ∀ previous ∈ last, SameRepresentation previous frame →
    ∀ x < frame.width.toNat, ∀ y < frame.height.toNat,
      shownColor host options previous x y ≠ shownColor host options frame x y →
        Covers frame.metadata.damage.rects x y

/-- Whatever the tracker does with a frame, it then holds a copy of it. -/
theorem holds_findDamage (host : Host) (valid : frame.isValid = true)
    (tiling : renderer.damage.TilesCells renderer.options.cellPixels) (changed : Bool)
    (compares : (renderer.findDamage host frame changed).1.usingSuppliedDamage = false) :
    (renderer.findDamage host frame changed).1.damage.Holds frame := by
  unfold findDamage at compares ⊢
  by_cases supplied : frame.metadata.damage.supplied = true
  · rw [if_pos supplied] at compares ⊢
    simp only at compares
    split_ifs at compares with already
    rw [already] at compares
    cases compares
  · rw [if_neg supplied]
    have copies : ∀ current : Renderer, current.damage.TilesCells renderer.options.cellPixels →
        (current.damage.compareAndUpdate host frame).1.Holds frame := by
      intro current tiles
      rw [(DamageTracker.compareAndUpdate_spec host valid tiles).1]
      exact DamageTracker.holds_copyFrame current.damage frame
    apply copies
    split_ifs
    · exact ⟨tiling.width_pos, tiling.height_pos, tiling.columns, tiling.rows⟩
    · exact tiling

theorem Remembers.sameRepresentation {previous : Frame} (remembers : renderer.Remembers previous)
    (valid : frame.isValid = true) (dimensions : renderer.dimensionsChanged frame = false)
    (identity : renderer.frameIdentityChanged frame = false) :
    SameRepresentation previous frame := by
  have positive := (Frame.geometry_of_isValid remembers.valid).width_pos
  have tagged := Frame.formatTag_nonneg remembers.valid
  simp only [dimensionsChanged, remembers.width, remembers.height, decide_eq_true positive,
    Bool.true_and, Bool.or_eq_false_iff, decide_eq_false_iff_not, not_not] at dimensions
  simp only [frameIdentityChanged, remembers.formatTag, decide_eq_true tagged, Bool.true_and,
    Bool.or_eq_false_iff, decide_eq_false_iff_not, not_not] at identity
  refine ⟨dimensions.1, dimensions.2, identity.1, ?_⟩
  cases frame with
  | packed view =>
      have listed := (Frame.geometry_of_isValid valid).bytesPerPixel_pos
      cases previous with
      | packed other => rfl
      | indexed other =>
          exact absurd identity.1 (PixelFormat.code_ne_indexed (Nat.pos_iff_ne_zero.mp listed))
  | indexed view =>
      have palette := identity.2
      simp only [paletteChanged, Frame.isIndexed, Bool.true_and, decide_eq_false_iff_not,
        not_not] at palette
      rw [← palette, remembers.palette]

/-- Where damage is partial, the screen shows the new frame outside the damage. -/
theorem Displayed.outside {last : Option Frame}
    (displayed : renderer.Displayed host options start last) (valid : frame.isValid = true)
    (plain : Plain options.sixel frame) (covers : CoversChanges host options.sixel last frame)
    {difference : DamageResult}
    (promised : renderer.Partial frame false difference)
    (dimensions : renderer.dimensionsChanged frame = false)
    (identity : renderer.frameIdentityChanged frame = false) :
    ∃ previous, renderer.Remembers previous ∧ SameRepresentation previous frame ∧
      ∀ screen, Reaches renderer.terminal.screen start screen →
        ∀ x < frame.width.toNat, ∀ y < frame.height.toNat, ¬ Covers difference.regions x y →
          screen.grid x y = some (shownColor host options.sixel frame x y) := by
  rcases displayed.memory with forgotten | ⟨previous, isLast, remembers, shows⟩
  · exfalso
    cases supplied : frame.metadata.damage.supplied with
    | true => exact (promised.supplied supplied).1 forgotten.previousWidth
    | false =>
        have shape := (promised.compared supplied).2.1
        rw [forgotten.shape valid] at shape
        cases shape
  · have same := remembers.sameRepresentation valid dimensions identity
    refine ⟨previous, remembers, same, ?_⟩
    intro screen reaches x xInside y yInside uncovered
    have before := shows screen reaches x (same.width ▸ xInside) y (same.height ▸ yInside)
    rw [before]
    congr 1
    cases supplied : frame.metadata.damage.supplied with
    | true =>
        by_contra differs
        have listed := covers supplied previous isLast same x xInside y yInside differs
        exact uncovered ((promised.supplied supplied).2.2 x y listed)
    | false =>
        obtain ⟨compares, shape, unchanged⟩ := promised.compared supplied
        have holds := remembers.copy compares
        have bytes := (holds.sameBytes_iff (holds.hasSameShape_iff.mp shape) xInside yInside).mp
          (unchanged x xInside y yInside uncovered)
        have undithered : frame.isIndexed = false →
            (VideoSixelEncoder.create host options.sixel {}).options.dither = .none :=
          fun packed => (plain packed).2
        exact (pixelColor_of_sameBytes host undithered remembers.valid valid same bytes).symm

/-- One frame: it fails and everything is forgotten, or the screen shows it. -/
theorem Displayed.renderFrame {last : Option Frame}
    (displayed : renderer.Displayed host options start last)
    (persists : options.sixel.persistPaletteRegisters = false)
    (readable : frame.isReadable = true) (plain : Plain options.sixel frame)
    (covers : CoversChanges host options.sixel last frame) :
    Answers host options start frame (renderer.renderFrame host frame) := by
  have valid := Frame.isValid_of_isReadable readable
  have adapted := displayed.toSteady.otherDamage (renderer.otherDamage_adapt frame)
  simp only [Renderer.renderFrame, valid, displayed.tracks, Bool.not_true, Bool.false_eq_true,
    if_false]
  set changed := renderer.dimensionsChanged frame || renderer.frameIdentityChanged frame
    with changedEq
  have found := adapted.otherDamage
    ((renderer.adapt frame).otherDamage_findDamage host frame changed)
  have copy := holds_findDamage host valid adapted.sound.tiling changed
  cases full : ((renderer.adapt frame).findDamage host frame changed).2.isFullFrame with
  | true =>
      rw [hasChanges_findDamage host valid adapted.sound.tiling full]
      simp only [Bool.not_true, Bool.false_eq_true, if_false, planPresentation, full, if_true]
      exact found.renderFull persists readable plain copy _
  | false =>
      have promised := partial_findDamage host valid adapted.sound.positive adapted.sound.tiling full
      obtain ⟨unchanged, kept⟩ := adapt_of_partial changedEq valid promised
      rw [unchanged] at changedEq
      have dimensions : renderer.dimensionsChanged frame = false := by
        cases dimension : renderer.dimensionsChanged frame with
        | false => rfl
        | true => rw [dimension] at changedEq; cases changedEq
      have identity : renderer.frameIdentityChanged frame = false := by
        rw [dimensions] at changedEq
        exact changedEq.symm
      rw [kept, unchanged] at promised
      obtain ⟨previous, remembers, same, shown⟩ :=
        displayed.outside valid plain covers promised dimensions identity
      rw [kept, unchanged] at found copy ⊢
      rw [dimensions]
      obtain ⟨⟨damage, supplied, current⟩, -⟩ := renderer.otherDamage_findDamage host frame false
      have terminal : (renderer.findDamage host frame false).1.terminal = renderer.terminal := by
        rw [current]
      have cells : (renderer.findDamage host frame false).1.options = renderer.options := by
        rw [current]
      rw [← terminal] at shown
      split_ifs with nothing whole
      · have none := promised.nothing (by simpa using nothing)
        refine ⟨found, Or.inr ⟨?_, ?_⟩⟩
        · refine ⟨valid, ?_, ?_, ?_, ?_, copy⟩ <;> rw [current]
          · exact remembers.width.trans same.width.symm
          · exact remembers.height.trans same.height.symm
          · exact remembers.formatTag.trans same.formatTag.symm
          · exact remembers.palette.trans same.palette.symm
        · intro screen reaches x xInside y yInside
          apply shown screen reaches x xInside y yInside
          rw [none]
          exact not_covers_nil _ _
      · exact found.renderFull persists readable plain copy _
      · have coarser := coarsens_planPresentation host (renderer.findDamage host frame false).1 frame
          (renderer.findDamage host frame false).2
        rw [cells] at coarser
        apply found.renderRegions persists readable plain copy
        · rw [cells]
          exact coarser.placed promised.placed
        · intro screen reaches x xInside y yInside uncovered
          apply shown screen reaches x xInside y yInside
          intro covered
          exact uncovered (coarser.covers promised.placed x y covered)

/-! ### Runs -/

/-- The last frame that could be rendered. -/
def Call.lastFrame (last : Option Frame) : Call → Option Frame
  | .render frame => if frame.isReadable then some frame else last
  | _ => last

/-- What the caller promises with each call. -/
def Call.Promised (host : Host) (options : SixelOptions) (last : Option Frame) : Call → Prop
  | .render frame =>
      frame.isReadable = true → Plain options frame ∧ CoversChanges host options last frame
  | _ => True

def AllPromised (host : Host) (options : SixelOptions) : Option Frame → List Call → Prop
  | _, [] => True
  | last, call :: calls =>
      call.Promised host options last ∧ AllPromised host options (call.lastFrame last) calls

theorem Answers.displayed {answer : Renderer × RenderResult}
    (answers : Answers host options start frame answer) :
    answer.1.Displayed host options start (some frame) where
  toSteady := answers.steady
  memory := by
    rcases answers.outcome with ⟨-, forgotten⟩ | ⟨remembers, shows⟩
    · exact Or.inl forgotten
    · exact Or.inr ⟨frame, rfl, remembers, shows⟩

theorem displayed_create (positive : options.cellPixels.Positive)
    (tracks : options.enableDirtyRegions = true) (scratch : Scratch) (sink : OutputSink)
    (sameCells : start.cells = options.cellPixels) :
    (create host options scratch sink).Displayed host options start none where
  sound := Sound.create host positive scratch sink
  sixel := rfl
  tracks := tracks
  dated := dated_create sink options.useAlternateScreen
  cells := by
    intro screen reaches
    rw [cells_of_reaches reaches (keepCells_screen_create sink options.useAlternateScreen),
      sameCells]
    rfl
  memory := Or.inl ⟨rfl, rfl, rfl⟩

theorem Displayed.perform {last : Option Frame}
    (displayed : renderer.Displayed host options start last)
    (persists : options.sixel.persistPaletteRegisters = false) {call : Call}
    (promised : call.Promised host options.sixel last) :
    (renderer.perform host call).Displayed host options start (call.lastFrame last) := by
  have sound := displayed.sound.perform call
  cases call with
  | render frame =>
      simp only [Renderer.perform, render_eq, Call.lastFrame]
      by_cases readable : frame.isReadable = true
      · rw [if_pos readable, if_pos readable]
        obtain ⟨plain, covers⟩ := promised readable
        exact (displayed.renderFrame persists readable plain covers).displayed
      · rw [if_neg readable, if_neg readable]
        exact displayed
  | clear =>
      obtain ⟨_, sent, keep, -⟩ := renderer.terminal.sends_clearAndHome
      exact ⟨displayed.toSteady.extends sound rfl sent.toExtends keep,
        Or.inl (forgotten_reset _)⟩
  | reset =>
      exact ⟨displayed.toSteady.extends sound rfl (Extends.refl _) Emulator.keepCells_nil,
        Or.inl (forgotten_reset _)⟩
  | updateCellPixels cellPixels =>
      simp only [Renderer.perform, Renderer.updateCellPixels] at sound ⊢
      by_cases ignored : cellPixels.cellWidth ≤ 0 ∨ cellPixels.cellHeight ≤ 0 ∨
          cellPixels = renderer.options.cellPixels
      · rw [if_pos ignored]
        exact displayed
      · rw [if_neg ignored] at sound ⊢
        have resized := renderer.terminal.extends_resize cellPixels
        have keep := renderer.terminal.emulator.keepCells_pending
        refine ⟨⟨sound, displayed.sixel, displayed.tracks, resized.dated displayed.dated, ?_⟩,
          Or.inl ⟨rfl, rfl, rfl⟩⟩
        intro screen reaches
        change Reaches (renderer.terminal.resize cellPixels).screen start screen at reaches
        rw [resized.screen displayed.dated] at reaches
        obtain ⟨_, -, later⟩ := reaches_append.mp reaches
        cases later with
        | @cons _ _ _ next _ changed rest => exact (cells_of_reaches rest keep).trans changed

theorem Displayed.performAll (persists : options.sixel.persistPaletteRegisters = false)
    (calls : List Call) :
    ∀ {renderer : Renderer} {last : Option Frame},
      renderer.Displayed host options start last → AllPromised host options.sixel last calls →
      (renderer.performAll host calls).Displayed host options start
        (calls.foldl Call.lastFrame last) := by
  induction calls with
  | nil => exact fun displayed _ => displayed
  | cons call calls inductionHypothesis =>
      intro renderer last displayed promised
      exact inductionHypothesis (displayed.perform persists promised.1) promised.2

theorem AllPromised.last (calls : List Call) (call : Call) :
    ∀ {last : Option Frame}, AllPromised host options.sixel last (calls ++ [call]) →
      AllPromised host options.sixel last calls ∧
        call.Promised host options.sixel (calls.foldl Call.lastFrame last) := by
  induction calls with
  | nil => exact fun promised => ⟨trivial, promised.1⟩
  | cons first calls inductionHypothesis =>
      intro last promised
      obtain ⟨rest, final⟩ := inductionHypothesis promised.2
      exact ⟨⟨promised.1, rest⟩, final⟩

/-- After a frame without an error the screen shows the frame, whatever was refused,
reset, cleared or resized before. -/
theorem shows_after_render (host : Host) (options : RendererOptions)
    (positive : options.cellPixels.Positive) (tracks : options.enableDirtyRegions = true)
    (persists : options.sixel.persistPaletteRegisters = false) (scratch : Scratch)
    (sink : OutputSink) (calls : List Call) (frame : Frame) (readable : frame.isReadable = true)
    (promised : AllPromised host options.sixel none (calls ++ [.render frame])) :
    let rendered := ((create host options scratch sink).performAll host calls).render host frame
    rendered.2.error = .none →
      ∀ before after : Screen, before.cells = options.cellPixels →
        Reaches rendered.1.terminal.screen before after →
          after.Shows host options.sixel frame := by
  intro rendered succeeded before after sameCells reaches
  obtain ⟨earlier, last⟩ := AllPromised.last calls (.render frame) promised
  obtain ⟨plain, covers⟩ := last readable
  have displayed := Displayed.performAll persists calls
    (@displayed_create host options before positive tracks scratch sink sameCells) earlier
  have answers := displayed.renderFrame persists readable plain covers
  have same : rendered =
      ((create host options scratch sink).performAll host calls).renderFrame host frame := by
    simp only [rendered, render_eq, readable, if_true]
  rw [same] at succeeded reaches
  rcases answers.outcome with ⟨failed, -⟩ | ⟨-, shows⟩
  · exact absurd succeeded failed
  · exact shows after reaches

/-- The stripes with another first pixel, and the rectangle that changed. -/
def dottedStripes : IndexedFrameView :=
  { IndexedFrameView.stripes with
    indices := some fun offset => if offset = 0 then 1 else UInt8.ofNat (offset % 3)
    metadata := { damage := DamageView.ofList [⟨0, 0, 1, 1⟩] true } }

/-- A frame of which one write is refused, the same frame again, then one patch. -/
theorem shows_dottedStripes :
    let options : RendererOptions :=
      { cellPixels := ⟨2, 3⟩, sixel := { persistPaletteRegisters := false } }
    let rendered := ((create Host.plain options {}
      { responses := fun call => call ≠ 5 }).performAll Host.plain
        [.render (.indexed .stripes), .render (.indexed .stripes)]).render Host.plain
          (.indexed dottedStripes)
    rendered.2.dirtyRegionCount = 1 ∧
      ∀ before after : Screen, before.cells = ⟨2, 3⟩ →
        Reaches rendered.1.terminal.screen before after →
          after.Shows Host.plain options.sixel (.indexed dottedStripes) := by
  have covers : ∀ x < 4, ∀ y < 7,
      colorPercent (IndexedFrameView.stripes.color x y) ≠ colorPercent (dottedStripes.color x y) →
        Covers dottedStripes.metadata.damage.rects x y := by decide +kernel
  have unsupplied : CoversChanges Host.plain
      { persistPaletteRegisters := false } (some (.indexed .stripes)) (.indexed .stripes) :=
    fun given => by cases given
  refine ⟨by decide +kernel, ?_⟩
  exact shows_after_render Host.plain
    { cellPixels := ⟨2, 3⟩, sixel := { persistPaletteRegisters := false } }
    ⟨by decide, by decide⟩ rfl rfl {} { responses := fun call => call ≠ 5 }
    [.render (.indexed .stripes), .render (.indexed .stripes)] (.indexed dottedStripes)
    (by decide +kernel)
    ⟨fun _ => ⟨(fun packed => by cases packed), (fun given => by cases given)⟩,
      fun _ => ⟨(fun packed => by cases packed), unsupplied⟩,
      fun _ => ⟨(fun packed => by cases packed), by
        intro _ previous isLast _ x xInside y yInside
        cases isLast
        exact covers x xInside y yInside⟩, trivial⟩
    (by decide +kernel)

end Renderer

end Rasterm
