import Rasterm.Damage.DamageTracker
import Rasterm.Damage.Regions
import Rasterm.Encoder.Table
import Rasterm.Output.Picture

/-!
Contract: `Renderer`: choosing between nothing, patches and a full frame, encoding
within the output limit, and presenting in one update.

Owns the renderer state, every exit of `renderFrame` and the calls a caller can
make. Integers are mathematical; capacities and durations are left out.
-/

set_option autoImplicit false

namespace Rasterm

structure RendererOptions where
  useAlternateScreen : Bool := false
  preserveCursor : Bool := true
  enableDirtyRegions : Bool := true
  useSynchronizedOutput : Bool := true
  maximumOutputBytes : Nat := 0
  outputChunkBytes : Nat := 64 * 1024
  cellPixels : TerminalCellPixels := {}
  damage : DamageOptions := {}
  sixel : SixelOptions := SixelOptions.forRealtimeVideo

structure RenderResult where
  error : ErrorCode := .none
  rendered : Bool := false
  usedFullFrame : Bool := false
  outputBytes : Nat := 0
  wireBytes : Nat := 0
  dirtyRegionCount : Nat := 0
  colorsUsed : Nat := 0
deriving DecidableEq, Repr

structure EncodedRegion where
  region : DamageRegion
  offset : Nat
  size : Nat

structure Renderer where
  options : RendererOptions
  terminal : TerminalRenderer
  backend : VideoSixelEncoder
  damage : DamageTracker
  usingSuppliedDamage : Bool := false
  previousWidth : Int := 0
  previousHeight : Int := 0
  previousFormatTag : Int := -1
  previousPalette : List RgbColor := []

namespace Renderer

/-! ### Construction and resets -/

/-- Tiles are rounded down to whole cells, at least one. -/
def trackerOptions (damage : DamageOptions) (cells : TerminalCellPixels) : DamageOptions :=
  let tileWidth := max damage.tileWidth cells.cellWidth
  let tileHeight := max damage.tileHeight cells.cellHeight
  { damage with
    tileWidth := tileWidth / cells.cellWidth * cells.cellWidth
    tileHeight := tileHeight / cells.cellHeight * cells.cellHeight }

/-- The constructor. -/
def create (host : Host) (options : RendererOptions) (scratch : Scratch) (sink : OutputSink) :
    Renderer where
  options := options
  terminal := TerminalRenderer.create sink options.useAlternateScreen
  backend := VideoSixelEncoder.create host options.sixel scratch
  damage := DamageTracker.create (trackerOptions options.damage options.cellPixels)

/-- Nothing is known about what was presented last. -/
def forget (renderer : Renderer) : Renderer :=
  { renderer with
    usingSuppliedDamage := false
    previousWidth := 0
    previousHeight := 0
    previousFormatTag := -1
    previousPalette := [] }

def reset (renderer : Renderer) : Renderer :=
  { renderer with backend := renderer.backend.reset, damage := renderer.damage.reset }.forget

def clear (renderer : Renderer) : Renderer × ErrorCode :=
  let cleared := renderer.terminal.clearAndHome
  ({ renderer with terminal := cleared.1 }.reset,
    if cleared.2 then .none else cleared.1.lastError)

def updateCellPixels (renderer : Renderer) (cellPixels : TerminalCellPixels) : Renderer :=
  if cellPixels.cellWidth ≤ 0 ∨ cellPixels.cellHeight ≤ 0 ∨
      cellPixels = renderer.options.cellPixels then renderer
  else
    { renderer with
      options := { renderer.options with cellPixels := cellPixels }
      terminal := renderer.terminal.resize cellPixels
      damage := DamageTracker.create (trackerOptions renderer.options.damage cellPixels) }.forget

/-- The destructor. -/
def destroy (renderer : Renderer) : TerminalRenderer := renderer.terminal.destroy

/-! ### Presenting -/

/-- One update: an `UpdateScope` around an optional clear and the draws. -/
def present (options : RendererOptions) (terminal : TerminalRenderer) (dimensionsChanged : Bool)
    (draw : TerminalRenderer → TerminalRenderer × Bool) : TerminalRenderer × Bool :=
  let begun := terminal.beginSynchronizedUpdate options.preserveCursor options.useSynchronizedOutput
  let cleared := if dimensionsChanged then begun.1.clearAndHome else (begun.1, true)
  let drawn := draw cleared.1
  let ended := drawn.1.endSynchronizedUpdate
  (ended.1, (ended.2 && begun.2) && (drawn.2 && cleared.2))

def remember (renderer : Renderer) (frame : Frame) : Renderer :=
  { renderer with
    previousWidth := frame.width
    previousHeight := frame.height
    previousFormatTag := frame.formatTag
    previousPalette := frame.paletteEntries }

/-- After an update: remember the frame, or start over if anything was refused. -/
def settle (renderer : Renderer) (frame : Frame) (succeeded : Bool) : Renderer :=
  if succeeded then renderer.remember frame else renderer.reset

/-- The result of a request that hit the output limit. -/
def limitResult : RenderResult := { error := .outputBufferLimitExceeded }

def renderFull (host : Host) (renderer : Renderer) (frame : Frame) (dimensionsChanged : Bool) :
    Renderer × RenderResult :=
  let prepared := renderer.backend.prepare host frame
  let encoded := (prepared.setOutputLimit renderer.options.maximumOutputBytes).encode host frame
  let current := { renderer with backend := encoded.1 }
  if encoded.1.limitExceeded then (current.reset, limitResult)
  else
    let presented := present renderer.options renderer.terminal dimensionsChanged
      fun terminal => terminal.drawAtHome encoded.2 false renderer.options.outputChunkBytes
    ({ current with terminal := presented.1 }.settle frame presented.2,
      { error := if presented.2 then .none else presented.1.lastError
        rendered := presented.2
        usedFullFrame := true
        outputBytes := if presented.2 then encoded.2.length else 0
        wireBytes := presented.1.totalAcceptedBytes - renderer.terminal.totalAcceptedBytes
        colorsUsed := encoded.1.lastColorCountValue })

/-- The patches encoded so far. -/
structure Transaction where
  backend : VideoSixelEncoder
  bytes : List UInt8 := []
  regions : List EncodedRegion := []
  colors : Nat := 0

/-- The encoding loop; it stops when the output limit is reached. -/
def encodeRegions (host : Host) (frame : Frame) (maximumOutputBytes : Nat) :
    Transaction → List DamageRegion → Transaction × Bool
  | transaction, [] => (transaction, true)
  | transaction, region :: regions =>
      if maximumOutputBytes > 0 ∧ transaction.bytes.length ≥ maximumOutputBytes then
        (transaction, false)
      else
        let remaining :=
          if maximumOutputBytes = 0 then 0 else maximumOutputBytes - transaction.bytes.length
        let prepared := transaction.backend.prepareArea host region frame
        let encoded := (prepared.setOutputLimit remaining).encodeArea host region frame
        if encoded.1.limitExceeded then ({ transaction with backend := encoded.1 }, false)
        else
          encodeRegions host frame maximumOutputBytes
            { backend := encoded.1
              bytes := transaction.bytes ++ encoded.2
              regions := transaction.regions ++
                [⟨region, transaction.bytes.length, encoded.2.length⟩]
              colors := max transaction.colors encoded.1.lastColorCountValue } regions

/-- The bytes of one patch. -/
def Transaction.payload (transaction : Transaction) (encoded : EncodedRegion) : List UInt8 :=
  (transaction.bytes.drop encoded.offset).take encoded.size

/-- The drawing loop; a refused draw does not end it. -/
def drawRegions (options : RendererOptions) (transaction : Transaction)
    (terminal : TerminalRenderer) : TerminalRenderer × Bool :=
  transaction.regions.foldl
    (fun drawn encoded =>
      let next := drawn.1.drawAtCell (encoded.region.y / options.cellPixels.cellHeight).toNat
        (encoded.region.x / options.cellPixels.cellWidth).toNat (transaction.payload encoded) false
        options.outputChunkBytes
      (next.1, next.2 && drawn.2))
    (terminal, true)

def renderRegions (host : Host) (renderer : Renderer) (frame : Frame) (dimensionsChanged : Bool)
    (regions : List DamageRegion) : Renderer × RenderResult :=
  let encoded := encodeRegions host frame renderer.options.maximumOutputBytes
    { backend := renderer.backend.prepareRegional host frame } regions
  let current := { renderer with backend := encoded.1.backend }
  if !encoded.2 then (current.reset, limitResult)
  else
    let presented := present renderer.options renderer.terminal dimensionsChanged
      (drawRegions renderer.options encoded.1)
    ({ current with terminal := presented.1 }.settle frame presented.2,
      { error := if presented.2 then .none else presented.1.lastError
        rendered := presented.2
        outputBytes := if presented.2 then encoded.1.bytes.length else 0
        wireBytes := presented.1.totalAcceptedBytes - renderer.terminal.totalAcceptedBytes
        dirtyRegionCount := encoded.1.regions.length % 2 ^ 32
        colorsUsed := encoded.1.colors })

/-! ### One frame, encoded and presented -/

/-- The encoder a full frame is encoded with. -/
def fullEncoder (host : Host) (renderer : Renderer) (frame : Frame) : VideoSixelEncoder :=
  (renderer.backend.prepare host frame).setOutputLimit renderer.options.maximumOutputBytes

/-- The encoder after a full frame, and the frame encoded. -/
def encodedFull (host : Host) (renderer : Renderer) (frame : Frame) :
    VideoSixelEncoder × List UInt8 :=
  (renderer.fullEncoder host frame).encode host frame

/-- The patches a frame is encoded to. -/
def encodedPatches (host : Host) (renderer : Renderer) (frame : Frame)
    (regions : List DamageRegion) : Transaction × Bool :=
  encodeRegions host frame renderer.options.maximumOutputBytes
    { backend := renderer.backend.prepareRegional host frame } regions

section Presenting

variable {host : Host} {renderer : Renderer} {frame : Frame} {regions : List DamageRegion}

theorem renderFull_of_exceeded
    (exceeded : (renderer.encodedFull host frame).1.limitExceeded = true) (changed : Bool) :
    renderer.renderFull host frame changed =
      ({ renderer with backend := (renderer.encodedFull host frame).1 }.reset, limitResult) :=
  if_pos exceeded

theorem renderFull_of_fits
    (fits : (renderer.encodedFull host frame).1.limitExceeded = false) (changed : Bool) :
    let encoded := renderer.encodedFull host frame
    let presented := present renderer.options renderer.terminal changed
      fun terminal => terminal.drawAtHome encoded.2 false renderer.options.outputChunkBytes
    renderer.renderFull host frame changed =
      ({ renderer with backend := encoded.1, terminal := presented.1 }.settle frame presented.2,
        { error := if presented.2 then .none else presented.1.lastError
          rendered := presented.2
          usedFullFrame := true
          outputBytes := if presented.2 then encoded.2.length else 0
          wireBytes := presented.1.totalAcceptedBytes - renderer.terminal.totalAcceptedBytes
          colorsUsed := encoded.1.lastColorCountValue }) :=
  if_neg (Bool.eq_false_iff.mp fits)

theorem renderRegions_of_exceeded
    (exceeded : (renderer.encodedPatches host frame regions).2 = false) (changed : Bool) :
    renderer.renderRegions host frame changed regions =
      ({ renderer with backend := (renderer.encodedPatches host frame regions).1.backend }.reset,
        limitResult) :=
  if_pos (by rw [Bool.not_eq_true']; exact exceeded)

theorem renderRegions_of_fits
    (fits : (renderer.encodedPatches host frame regions).2 = true) (changed : Bool) :
    let encoded := (renderer.encodedPatches host frame regions).1
    let presented := present renderer.options renderer.terminal changed
      (drawRegions renderer.options encoded)
    renderer.renderRegions host frame changed regions =
      ({ renderer with backend := encoded.backend, terminal := presented.1 }.settle frame
          presented.2,
        { error := if presented.2 then .none else presented.1.lastError
          rendered := presented.2
          outputBytes := if presented.2 then encoded.bytes.length else 0
          wireBytes := presented.1.totalAcceptedBytes - renderer.terminal.totalAcceptedBytes
          dirtyRegionCount := encoded.regions.length % 2 ^ 32
          colorsUsed := encoded.colors }) :=
  if_neg (by rw [Bool.not_eq_true', Bool.not_eq_false]; exact fits)

end Presenting

/-! ### Deciding what to present -/

def dimensionsChanged (renderer : Renderer) (frame : Frame) : Bool :=
  0 < renderer.previousWidth &&
    (frame.width ≠ renderer.previousWidth || frame.height ≠ renderer.previousHeight)

def paletteChanged (renderer : Renderer) (frame : Frame) : Bool :=
  frame.isIndexed && renderer.previousPalette ≠ frame.paletteEntries

def frameIdentityChanged (renderer : Renderer) (frame : Frame) : Bool :=
  0 ≤ renderer.previousFormatTag &&
    (frame.formatTag ≠ renderer.previousFormatTag || renderer.paletteChanged frame)

/-- Another size or representation makes the tracker start over. -/
def adapt (renderer : Renderer) (frame : Frame) : Renderer :=
  if renderer.dimensionsChanged frame || renderer.frameIdentityChanged frame then
    { renderer with damage := renderer.damage.reset, usingSuppliedDamage := false }
  else renderer

/-- The supplied damage covers everything, or has to be taken to. -/
def coversFrame (renderer : Renderer) (frame : Frame) (regions : List DamageRegion)
    (identityOrSizeChanged : Bool) : Bool :=
  renderer.previousWidth = 0 || identityOrSizeChanged ||
    regions = [⟨0, 0, frame.width, frame.height⟩]

/-- Damage from the caller's list or from the tracker. -/
def findDamage (host : Host) (renderer : Renderer) (frame : Frame)
    (identityOrSizeChanged : Bool) : Renderer × DamageResult :=
  if frame.metadata.damage.supplied then
    let current :=
      if renderer.usingSuppliedDamage then renderer
      else { renderer with damage := renderer.damage.reset, usingSuppliedDamage := true }
    let regions := normalizeDamage host (frame.metadata.damage.rects.map fun rectangle =>
      alignToTerminalCells rectangle frame.width frame.height renderer.options.cellPixels)
    let covers := renderer.coversFrame frame regions identityOrSizeChanged
    (current, { isFullFrame := covers, hasChanges := covers || !regions.isEmpty, regions := regions })
  else
    let current :=
      if renderer.usingSuppliedDamage then
        { renderer with damage := renderer.damage.reset, usingSuppliedDamage := false }
      else renderer
    let compared := current.damage.compareAndUpdate host frame
    ({ current with damage := compared.1 }, compared.2)

/-- The patches to present, and whether to present the full frame instead. -/
def planPresentation (host : Host) (renderer : Renderer) (frame : Frame)
    (difference : DamageResult) : List DamageRegion × Bool :=
  if difference.isFullFrame then (difference.regions, true)
  else
    let planned := planDamagePresentation host difference.regions frame.width frame.height
      renderer.options.cellPixels renderer.options.damage.fullFrameThreshold
    (planned.1, planned.2 || !canPresentWithoutBottomScroll planned.1 frame.height)

def renderFrame (host : Host) (renderer : Renderer) (frame : Frame) : Renderer × RenderResult :=
  if !frame.isValid then (renderer, {})
  else
    let dimensionsChanged := renderer.dimensionsChanged frame
    let identityChanged := renderer.frameIdentityChanged frame
    let current := renderer.adapt frame
    if !renderer.options.enableDirtyRegions then current.renderFull host frame dimensionsChanged
    else
      let found := current.findDamage host frame (dimensionsChanged || identityChanged)
      if !found.2.hasChanges then (found.1, {})
      else
        let planned := found.1.planPresentation host frame found.2
        if planned.2 then found.1.renderFull host frame dimensionsChanged
        else found.1.renderRegions host frame dimensionsChanged planned.1

def renderValidated (host : Host) (renderer : Renderer) (frame : IndexedFrameView) :
    Renderer × RenderResult :=
  renderer.renderFrame host (.indexed frame)

/-- The overloads of `render`: the indices of an indexed frame are checked first. -/
def render (host : Host) (renderer : Renderer) : Frame → Renderer × RenderResult
  | .packed frame => renderer.renderFrame host (.packed frame)
  | .indexed frame =>
      if frame.hasValidIndices then renderer.renderValidated host frame else (renderer, {})

@[simp] theorem terminal_settle (renderer : Renderer) (frame : Frame) (succeeded : Bool) :
    (renderer.settle frame succeeded).terminal = renderer.terminal := by
  cases succeeded <;> rfl

@[simp] theorem options_adapt (renderer : Renderer) (frame : Frame) :
    (renderer.adapt frame).options = renderer.options := by
  unfold adapt
  split_ifs <;> rfl

/-- The same renderer but for the tracker and the damage source. -/
structure OtherDamage (before after : Renderer) : Prop where
  same : ∃ damage supplied, after =
    { before with damage := damage, usingSuppliedDamage := supplied }
  options : after.damage.options = before.damage.options

theorem OtherDamage.trans {first second third : Renderer} (head : first.OtherDamage second)
    (tail : second.OtherDamage third) : first.OtherDamage third := by
  obtain ⟨⟨_, _, second⟩, options⟩ := head
  obtain ⟨⟨damage, supplied, third⟩, later⟩ := tail
  refine ⟨⟨damage, supplied, ?_⟩, later.trans options⟩
  rw [third, second]

theorem otherDamage_adapt (renderer : Renderer) (frame : Frame) :
    renderer.OtherDamage (renderer.adapt frame) := by
  unfold adapt
  split_ifs
  · exact ⟨⟨_, _, rfl⟩, rfl⟩
  · exact ⟨⟨renderer.damage, renderer.usingSuppliedDamage, rfl⟩, rfl⟩

theorem otherDamage_findDamage (host : Host) (renderer : Renderer) (frame : Frame)
    (changed : Bool) : renderer.OtherDamage (renderer.findDamage host frame changed).1 := by
  simp only [findDamage]
  cases renderer.usingSuppliedDamage <;> split_ifs <;>
    exact ⟨⟨_, _, rfl⟩, by simp [DamageTracker.reset]⟩

/-- The three ways a frame can be answered. -/
inductive Answered (host : Host) (renderer : Renderer) (frame : Frame) (changed : Bool) :
    Renderer × RenderResult → Prop where
  | unchanged : Answered host renderer frame changed (renderer, {})
  | full : Answered host renderer frame changed (renderer.renderFull host frame changed)
  | patches (regions : List DamageRegion) :
      Answered host renderer frame changed (renderer.renderRegions host frame changed regions)

/-- A frame is answered after the damage has been looked at, and nothing else. -/
theorem answered_renderFrame (host : Host) (renderer : Renderer) (frame : Frame) :
    ∃ current : Renderer, renderer.OtherDamage current ∧
      current.Answered host frame (renderer.dimensionsChanged frame)
        (renderer.renderFrame host frame) := by
  have adapted := renderer.otherDamage_adapt frame
  have found := adapted.trans ((renderer.adapt frame).otherDamage_findDamage host frame
    (renderer.dimensionsChanged frame || renderer.frameIdentityChanged frame))
  simp only [renderFrame]
  split_ifs
  · exact ⟨renderer, ⟨⟨renderer.damage, renderer.usingSuppliedDamage, rfl⟩, rfl⟩, .unchanged⟩
  · exact ⟨_, adapted, .full⟩
  · exact ⟨_, found, .unchanged⟩
  · exact ⟨_, found, .full⟩
  · exact ⟨_, found, .patches _⟩

/-- Only frames whose pixels can be read are looked at. -/
theorem render_eq (host : Host) (renderer : Renderer) (frame : Frame) :
    renderer.render host frame =
      if frame.isReadable then renderer.renderFrame host frame else (renderer, {}) := by
  cases frame with
  | packed view =>
      show renderer.renderFrame host (.packed view) =
        if view.isValid then renderer.renderFrame host (.packed view) else (renderer, {})
      by_cases valid : view.isValid
      · rw [if_pos valid]
      · rw [if_neg valid, renderFrame, if_pos]
        simpa [Frame.isValid] using valid
  | indexed view => rfl

/-! ### Calls -/

inductive Call where
  | render (frame : Frame)
  | clear
  | reset
  | updateCellPixels (cellPixels : TerminalCellPixels)

def perform (host : Host) (renderer : Renderer) : Call → Renderer
  | .render frame => (renderer.render host frame).1
  | .clear => renderer.clear.1
  | .reset => renderer.reset
  | .updateCellPixels cellPixels => renderer.updateCellPixels cellPixels

def performAll (host : Host) (renderer : Renderer) (calls : List Call) : Renderer :=
  calls.foldl (perform host) renderer

/-- Invariant rule for sequences of calls. -/
theorem performAll_invariant (host : Host) {Holds : Renderer → Prop}
    (preserved : ∀ renderer call, Holds renderer → Holds (renderer.perform host call))
    (calls : List Call) {renderer : Renderer} (initial : Holds renderer) :
    Holds (renderer.performAll host calls) := by
  induction calls generalizing renderer with
  | nil => exact initial
  | cons call calls inductionHypothesis =>
      exact inductionHypothesis (preserved renderer call initial)

/-! ### The encoding loop -/

/-- What one more patch adds to a transaction. -/
def Transaction.add (transaction : Transaction) (region : DamageRegion)
    (encoded : VideoSixelEncoder × List UInt8) : Transaction where
  backend := encoded.1
  bytes := transaction.bytes ++ encoded.2
  regions := transaction.regions ++ [⟨region, transaction.bytes.length, encoded.2.length⟩]
  colors := max transaction.colors encoded.1.lastColorCountValue

/-- The backend of a transaction meets what the operations preserve; after success
every patch is one the encoder made for its rectangle. -/
theorem encodeRegions_spec (host : Host) (frame : Frame) (maximumOutputBytes : Nat)
    {Holds : VideoSixelEncoder → Prop}
    (prepares : ∀ backend region limit, Holds backend →
      Holds ((backend.prepareArea host region frame).setOutputLimit limit))
    (encodes : ∀ backend region, Holds backend → Holds (backend.encodeArea host region frame).1)
    (regions : List DamageRegion) :
    ∀ transaction : Transaction, Holds transaction.backend →
      let result := encodeRegions host frame maximumOutputBytes transaction regions
      Holds result.1.backend ∧ transaction.bytes <+: result.1.bytes ∧
        (result.2 = true → ∃ added, result.1.regions = transaction.regions ++ added ∧
          added.map EncodedRegion.region = regions ∧
          ∀ encoded ∈ added, ∃ backend, Holds backend ∧
            (backend.encodeArea host encoded.region frame).1.limitExceeded = false ∧
            result.1.payload encoded = (backend.encodeArea host encoded.region frame).2) := by
  induction regions with
  | nil =>
      intro transaction holds
      refine ⟨holds, List.prefix_refl _,
        fun _ => ⟨[], ?_, rfl, fun _ member => absurd member List.not_mem_nil⟩⟩
      rw [List.append_nil]
      rfl
  | cons region regions inductionHypothesis =>
      intro transaction holds
      simp only [encodeRegions]
      by_cases full :
          maximumOutputBytes > 0 ∧ transaction.bytes.length ≥ maximumOutputBytes
      · rw [if_pos full]
        exact ⟨holds, List.prefix_refl _, fun failed => by cases failed⟩
      · rw [if_neg full]
        have limited := prepares transaction.backend region
          (if maximumOutputBytes = 0 then 0 else maximumOutputBytes - transaction.bytes.length)
          holds
        set backend := (transaction.backend.prepareArea host region frame).setOutputLimit
          (if maximumOutputBytes = 0 then 0 else maximumOutputBytes - transaction.bytes.length)
          with backendEq
        have after := encodes backend region limited
        by_cases exceeded : (backend.encodeArea host region frame).1.limitExceeded = true
        · rw [if_pos exceeded]
          exact ⟨after, List.prefix_refl _, fun failed => by cases failed⟩
        · rw [if_neg exceeded]
          obtain ⟨holdsAfter, grown, patches⟩ := inductionHypothesis
            { backend := (backend.encodeArea host region frame).1
              bytes := transaction.bytes ++ (backend.encodeArea host region frame).2
              regions := transaction.regions ++ [⟨region, transaction.bytes.length,
                (backend.encodeArea host region frame).2.length⟩]
              colors := max transaction.colors
                (backend.encodeArea host region frame).1.lastColorCountValue } after
          refine ⟨holdsAfter, (List.prefix_append _ _).trans grown, ?_⟩
          intro succeeded
          obtain ⟨added, found, inOrder, made⟩ := patches succeeded
          refine ⟨⟨region, transaction.bytes.length,
            (backend.encodeArea host region frame).2.length⟩ :: added, ?_, by simp [inOrder], ?_⟩
          · rw [found, List.append_assoc]
            rfl
          · intro encoded member
            rcases List.mem_cons.mp member with first | later
            · subst first
              refine ⟨backend, limited, by simpa using exceeded, ?_⟩
              obtain ⟨later, bytes⟩ := grown
              rw [Transaction.payload, ← bytes]
              simp
            · exact made encoded later

/-! ### What reaches the terminal -/

open TerminalRenderer

/-- Where a patch is drawn, once it is drawn in full. -/
def patchEvent (options : RendererOptions) (transaction : Transaction) (encoded : EncodedRegion) :
    ScreenEvent :=
  .drawn (encoded.region.y / options.cellPixels.cellHeight).toNat
    (encoded.region.x / options.cellPixels.cellWidth).toNat (transaction.payload encoded) true

/-- Induction rule for the drawing loop: what every patch keeps, whatever the patches
before it returned. -/
theorem drawRegions_induction {Holds : List EncodedRegion → TerminalRenderer → Bool → Prop}
    (options : RendererOptions) (transaction : Transaction) (terminal : TerminalRenderer)
    (start : Holds [] terminal true)
    (drawing : ∀ (done : List EncodedRegion) (encoded : EncodedRegion)
      (middle : TerminalRenderer) (succeeded : Bool), Holds done middle succeeded →
        let drawn := middle.drawAtCell (encoded.region.y / options.cellPixels.cellHeight).toNat
          (encoded.region.x / options.cellPixels.cellWidth).toNat (transaction.payload encoded)
          false options.outputChunkBytes
        Holds (done ++ [encoded]) drawn.1 (drawn.2 && succeeded)) :
    Holds transaction.regions (drawRegions options transaction terminal).1
      (drawRegions options transaction terminal).2 := by
  have all : ∀ (regions done : List EncodedRegion) (drawn : TerminalRenderer × Bool),
      Holds done drawn.1 drawn.2 →
      let finished := regions.foldl
        (fun drawn encoded =>
          let next := drawn.1.drawAtCell (encoded.region.y / options.cellPixels.cellHeight).toNat
            (encoded.region.x / options.cellPixels.cellWidth).toNat
            (transaction.payload encoded) false options.outputChunkBytes
          (next.1, next.2 && drawn.2)) drawn
      Holds (done ++ regions) finished.1 finished.2 := by
    intro regions
    induction regions with
    | nil =>
        intro done drawn holds
        rw [List.append_nil]
        exact holds
    | cons patch patches inductionHypothesis =>
        intro done drawn holds
        rw [List.append_cons]
        apply inductionHypothesis
        exact drawing done patch drawn.1 drawn.2 holds
  exact all transaction.regions [] (terminal, true) start

/-- A draw: whatever is refused, it only adds to the picture, and a draw of control strings
that reports success adds these events. -/
def Adds (framed : Prop) (draw : TerminalRenderer → TerminalRenderer × Bool)
    (drawn : List ScreenEvent) : Prop :=
  ∀ terminal : TerminalRenderer, ∃ events, terminal.Sends events (draw terminal).1 ∧
    Emulator.KeepCells events ∧ (framed → (draw terminal).2 = true → events = drawn)

theorem adds_drawAtHome (sixel : List UInt8) (chunkBytes : Nat) :
    Adds (IsControlString sixel) (fun terminal => terminal.drawAtHome sixel false chunkBytes)
      [.drawn 0 0 sixel true] :=
  fun terminal => terminal.sends_drawAtHome sixel false chunkBytes

theorem adds_drawRegions (options : RendererOptions) (transaction : Transaction) :
    Adds (∀ encoded ∈ transaction.regions, IsControlString (transaction.payload encoded))
      (drawRegions options transaction)
      (transaction.regions.map (patchEvent options transaction)) := by
  intro terminal
  apply @drawRegions_induction (fun done middle succeeded =>
    ∃ events, terminal.Sends events middle ∧ Emulator.KeepCells events ∧
      ((∀ encoded ∈ done, IsControlString (transaction.payload encoded)) → succeeded = true →
        events = done.map (patchEvent options transaction)))
  · exact ⟨[], Sends.refl terminal, Emulator.keepCells_nil, fun _ _ => rfl⟩
  · rintro done encoded middle succeeded ⟨events, sent, keep, same⟩
    obtain ⟨added, last, kept, accepted⟩ := middle.sends_drawAtCell
      (encoded.region.y / options.cellPixels.cellHeight).toNat
      (encoded.region.x / options.cellPixels.cellWidth).toNat (transaction.payload encoded)
      false options.outputChunkBytes
    refine ⟨_, sent.trans last, keep.append kept, ?_⟩
    intro framed taken
    rw [Bool.and_eq_true] at taken
    have here := framed encoded (List.mem_append_right _ List.mem_cons_self)
    rw [same (fun patch member => framed patch (List.mem_append_left _ member)) taken.2,
      accepted here taken.1, List.map_append]
    rfl

/-- The screen events of an update: the clear, if any, and the draws. -/
theorem extends_present (options : RendererOptions) (terminal : TerminalRenderer)
    (dimensionsChanged : Bool) {framed : Prop}
    {draw : TerminalRenderer → TerminalRenderer × Bool} {drawn : List ScreenEvent}
    (adds : Adds framed draw drawn) :
    ∃ events, terminal.Extends events (present options terminal dimensionsChanged draw).1 ∧
      Emulator.KeepCells events ∧
      (framed → (present options terminal dimensionsChanged draw).2 = true →
        events = (if dimensionsChanged then [.cleared] else []) ++ drawn) := by
  have opens := terminal.extends_beginSynchronizedUpdate options.preserveCursor
    options.useSynchronizedOutput
  simp only [present]
  set opened := (terminal.beginSynchronizedUpdate options.preserveCursor
    options.useSynchronizedOutput).1
  set cleared := if dimensionsChanged = true then opened.clearAndHome else (opened, true)
  have clears : ∃ events, opened.Extends events cleared.1 ∧ Emulator.KeepCells events ∧
      (cleared.2 = true → events = if dimensionsChanged then [.cleared] else []) := by
    cases dimensionsChanged with
    | true =>
        obtain ⟨events, sent, keep, same⟩ := opened.sends_clearAndHome
        exact ⟨events, sent.toExtends, keep, same⟩
    | false => exact ⟨[], Extends.refl opened, Emulator.keepCells_nil, fun _ => rfl⟩
  obtain ⟨first, clearing, clearKeep, clearSame⟩ := clears
  obtain ⟨events, drawing, keep, same⟩ := adds cleared.1
  have closes := (draw cleared.1).1.extends_endSynchronizedUpdate
  have whole := ((opens.trans clearing).trans drawing.toExtends).trans closes
  rw [List.nil_append, List.append_nil] at whole
  refine ⟨_, whole, clearKeep.append keep, ?_⟩
  intro framed succeeded
  simp only [Bool.and_eq_true] at succeeded
  rw [same framed succeeded.2.1, clearSame succeeded.2.2]

/-- The presentation of a full frame. -/
theorem extends_presentFull (options : RendererOptions) (terminal : TerminalRenderer)
    (dimensionsChanged : Bool) (sixel : List UInt8) :
    ∃ events, terminal.Extends events (present options terminal dimensionsChanged
        fun terminal => terminal.drawAtHome sixel false options.outputChunkBytes).1 ∧
      Emulator.KeepCells events ∧
      (IsControlString sixel → (present options terminal dimensionsChanged
          fun terminal => terminal.drawAtHome sixel false options.outputChunkBytes).2 = true →
        events = (if dimensionsChanged then [.cleared] else []) ++ [.drawn 0 0 sixel true]) :=
  extends_present options terminal dimensionsChanged
    (adds_drawAtHome sixel options.outputChunkBytes)

theorem extends_renderFull (host : Host) (renderer : Renderer) (frame : Frame)
    (dimensionsChanged : Bool) : ∃ events, renderer.terminal.Extends events
      (renderer.renderFull host frame dimensionsChanged).1.terminal := by
  simp only [renderFull]
  split
  · exact ⟨[], Extends.refl _⟩
  · obtain ⟨events, grows, -⟩ := extends_presentFull renderer.options renderer.terminal
      dimensionsChanged _
    exact ⟨events, by rw [terminal_settle]; exact grows⟩

theorem extends_renderRegions (host : Host) (renderer : Renderer) (frame : Frame)
    (dimensionsChanged : Bool) (regions : List DamageRegion) :
    ∃ events, renderer.terminal.Extends events
      (renderer.renderRegions host frame dimensionsChanged regions).1.terminal := by
  simp only [renderRegions]
  split
  · exact ⟨[], Extends.refl _⟩
  · obtain ⟨events, grows, -⟩ := extends_present renderer.options renderer.terminal
      dimensionsChanged (adds_drawRegions renderer.options _)
    exact ⟨events, by rw [terminal_settle]; exact grows⟩

theorem extends_renderFrame (host : Host) (renderer : Renderer) (frame : Frame) :
    ∃ events, renderer.terminal.Extends events (renderer.renderFrame host frame).1.terminal := by
  obtain ⟨current, ⟨⟨damage, supplied, same⟩, -⟩, answered⟩ :=
    renderer.answered_renderFrame host frame
  have kept : current.terminal = renderer.terminal := by rw [same]
  rw [← kept]
  generalize renderer.renderFrame host frame = answer at answered ⊢
  cases answered with
  | unchanged => exact ⟨[], Extends.refl _⟩
  | full => exact current.extends_renderFull host frame _
  | patches regions => exact current.extends_renderRegions host frame _ regions

theorem extends_perform (host : Host) (renderer : Renderer) (call : Call) :
    ∃ events, renderer.terminal.Extends events (renderer.perform host call).terminal := by
  cases call with
  | render frame =>
      simp only [perform, render_eq]
      split_ifs
      · exact renderer.extends_renderFrame host frame
      · exact ⟨[], Extends.refl _⟩
  | clear =>
      obtain ⟨events, sent, -⟩ := renderer.terminal.sends_clearAndHome
      exact ⟨events, sent.toExtends⟩
  | reset => exact ⟨[], Extends.refl _⟩
  | updateCellPixels cellPixels =>
      simp only [perform, updateCellPixels]
      split_ifs
      · exact ⟨[], Extends.refl _⟩
      · exact ⟨_, renderer.terminal.extends_resize cellPixels⟩

theorem extends_performAll (host : Host) (renderer : Renderer) (calls : List Call) :
    ∃ events, renderer.terminal.Extends events (renderer.performAll host calls).terminal := by
  refine @performAll_invariant host
    (fun current => ∃ events, renderer.terminal.Extends events current.terminal) ?_ calls renderer
    ⟨[], Extends.refl _⟩
  intro current call grown
  obtain ⟨_, before⟩ := grown
  obtain ⟨_, after⟩ := current.extends_perform host call
  exact ⟨_, before.trans after⟩

end Renderer

end Rasterm
