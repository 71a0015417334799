import Rasterm.Encoder.Registers
import Rasterm.Library.Transition
import Rasterm.Output.Accepting
import Rasterm.Render.Sound

/-!
Contract: a renderer that was reset answers like a new one.

Owns what a presentation sends to an accepting sink, the relation between two
renderers that every later frame preserves, and the fact that `reset`, `clear` and
every failed render lead to it.
-/

set_option autoImplicit false

namespace Rasterm

open TerminalRenderer

namespace Renderer

/-! ### Presenting to a sink that accepts everything -/

/-- A draw that sends the same bytes within every update. -/
structure Sending (draw : TerminalRenderer → TerminalRenderer × Bool) (bytes : List UInt8) :
    Prop where
  keeps : ∀ terminal : TerminalRenderer, terminal.Keeps (draw terminal).1
  emits : ∀ terminal : TerminalRenderer, terminal.sink.Accepting →
    (draw terminal).2 = true ∧ terminal.Emits bytes (draw terminal).1

theorem sending_drawAtHome (sixel : List UInt8) (chunkBytes : Nat) :
    Sending (fun terminal => terminal.drawAtHome sixel false chunkBytes) (homeBytes sixel) where
  keeps := fun terminal =>
    have ⟨_, sent, _⟩ := terminal.sends_drawAtHome sixel false chunkBytes
    sent.toKeeps
  emits := fun _ accepting => emits_drawAtHome accepting sixel chunkBytes

def patchBytes (options : RendererOptions) (transaction : Transaction) (encoded : EncodedRegion) :
    List UInt8 :=
  cursorBytes (encoded.region.y / options.cellPixels.cellHeight).toNat
    (encoded.region.x / options.cellPixels.cellWidth).toNat ++ transaction.payload encoded

theorem sending_drawRegions (options : RendererOptions) (transaction : Transaction) :
    Sending (drawRegions options transaction)
      (transaction.regions.flatMap (patchBytes options transaction)) := by
  refine ⟨?_, ?_⟩
  · intro terminal
    obtain ⟨_, sent, -⟩ := adds_drawRegions options transaction terminal
    exact sent.toKeeps
  · intro terminal accepting
    apply @drawRegions_induction (fun done middle succeeded => succeeded = true ∧
      terminal.Emits (done.flatMap (patchBytes options transaction)) middle) options transaction
      terminal ⟨rfl, emits_nil accepting⟩
    rintro done encoded middle succeeded ⟨taken, emitted⟩
    obtain ⟨drawn, last⟩ := emits_drawAtCell emitted.accepting
      (encoded.region.y / options.cellPixels.cellHeight).toNat
      (encoded.region.x / options.cellPixels.cellWidth).toNat (transaction.payload encoded)
      options.outputChunkBytes
    simp only [drawn, taken, Bool.and_self, List.flatMap_append, List.flatMap_singleton, true_and]
    exact emitted.trans last

/-- The bytes of a whole update. -/
def updateBytes (options : RendererOptions) (dimensionsChanged : Bool) (drawn : List UInt8) :
    List UInt8 :=
  openingBytes options.preserveCursor options.useSynchronizedOutput ++
    (if dimensionsChanged then ascii "\x1b[2J\x1b[H" else []) ++ drawn ++
    closingBytes options.preserveCursor options.useSynchronizedOutput

theorem emits_present (options : RendererOptions) {terminal : TerminalRenderer}
    (accepting : terminal.sink.Accepting) (inactive : terminal.updateActive = false)
    (dimensionsChanged : Bool) {draw : TerminalRenderer → TerminalRenderer × Bool}
    {bytes : List UInt8} (sending : Sending draw bytes) :
    (present options terminal dimensionsChanged draw).2 = true ∧
      terminal.Emits (updateBytes options dimensionsChanged bytes)
        (present options terminal dimensionsChanged draw).1 := by
  obtain ⟨begun, opening, active, restores, synchronized⟩ := emits_beginSynchronizedUpdate
    accepting inactive options.preserveCursor options.useSynchronizedOutput
  simp only [present, begun]
  set opened := (terminal.beginSynchronizedUpdate options.preserveCursor
    options.useSynchronizedOutput).1
  -- the clear, if any, leaves the update as it is
  have clears :
      opened.Keeps (if dimensionsChanged = true then opened.clearAndHome
        else (opened, true)).1 ∧
      (if dimensionsChanged = true then opened.clearAndHome else (opened, true)).2 = true ∧
      opened.Emits (if dimensionsChanged then ascii "\x1b[2J\x1b[H" else [])
        (if dimensionsChanged = true then opened.clearAndHome else (opened, true)).1 := by
    cases dimensionsChanged with
    | true =>
        obtain ⟨cleared, emitted⟩ := emits_clearAndHome opening.accepting
        exact ⟨opened.keeps_clearAndHome, cleared, emitted⟩
    | false => exact ⟨Keeps.refl opened, rfl, emits_nil opening.accepting⟩
  obtain ⟨clearing, taken, cleared⟩ := clears
  set ready := (if dimensionsChanged = true then opened.clearAndHome else (opened, true)).1
  have drawing := sending.keeps ready
  obtain ⟨succeeded, drawn⟩ := sending.emits ready cleared.accepting
  obtain ⟨ended, closing, -⟩ := emits_endSynchronizedUpdate drawn.accepting
    (drawing.updateActive.trans (clearing.updateActive.trans active))
  rw [drawing.restoreCursor, clearing.restoreCursor, restores, drawing.synchronized,
    clearing.synchronized, synchronized] at closing
  refine ⟨by rw [ended, succeeded, taken]; rfl, ?_⟩
  exact ((opening.trans cleared).trans drawn).trans closing

/-! ### Answers to a sink that accepts everything -/

variable {host : Host} {renderer : Renderer} {frame : Frame}

theorem renderFull_accepted (accepting : renderer.terminal.sink.Accepting)
    (inactive : renderer.terminal.updateActive = false)
    (fits : (renderer.encodedFull host frame).1.limitExceeded = false) (changed : Bool) :
    let encoded := renderer.encodedFull host frame
    let bytes := updateBytes renderer.options changed (homeBytes encoded.2)
    ∃ terminal, renderer.terminal.Emits bytes terminal ∧
      renderer.renderFull host frame changed =
        ({ renderer with backend := encoded.1, terminal := terminal }.remember frame,
          { rendered := true
            usedFullFrame := true
            outputBytes := encoded.2.length
            wireBytes := bytes.length
            colorsUsed := encoded.1.lastColorCountValue }) := by
  intro encoded bytes
  obtain ⟨presented, emitted⟩ := emits_present renderer.options accepting inactive changed
    (sending_drawAtHome encoded.2 renderer.options.outputChunkBytes)
  refine ⟨_, emitted, ?_⟩
  rw [renderFull_of_fits fits changed]
  rw [presented, emitted.total, Nat.add_sub_cancel_left]
  rfl

theorem renderRegions_accepted (accepting : renderer.terminal.sink.Accepting)
    (inactive : renderer.terminal.updateActive = false) {regions : List DamageRegion}
    (fits : (renderer.encodedPatches host frame regions).2 = true) (changed : Bool) :
    let encoded := (renderer.encodedPatches host frame regions).1
    let bytes := updateBytes renderer.options changed
      (encoded.regions.flatMap (patchBytes renderer.options encoded))
    ∃ terminal, renderer.terminal.Emits bytes terminal ∧
      renderer.renderRegions host frame changed regions =
        ({ renderer with backend := encoded.backend, terminal := terminal }.remember frame,
          { rendered := true
            outputBytes := encoded.bytes.length
            wireBytes := bytes.length
            dirtyRegionCount := encoded.regions.length % 2 ^ 32
            colorsUsed := encoded.colors }) := by
  intro encoded bytes
  obtain ⟨presented, emitted⟩ := emits_present renderer.options accepting inactive changed
    (sending_drawRegions renderer.options encoded)
  refine ⟨_, emitted, ?_⟩
  rw [renderRegions_of_fits fits changed]
  rw [presented, emitted.total, Nat.add_sub_cancel_left]
  rfl

/-! ### Two renderers that cannot be told apart -/

/-- The same transaction, but for the state of the encoder that no later call reads. -/
structure Transaction.Twin (left right : Transaction) : Prop where
  backend : left.backend.Twin right.backend
  leftAdapted : left.backend.Adapted
  rightAdapted : right.backend.Adapted
  bytes : left.bytes = right.bytes
  regions : left.regions = right.regions
  colors : left.colors = right.colors

theorem Transaction.Twin.patchBytes {left right : Transaction} (twin : left.Twin right)
    (options : RendererOptions) :
    left.regions.flatMap (Renderer.patchBytes options left) =
      right.regions.flatMap (Renderer.patchBytes options right) := by
  rw [twin.regions]
  congr 1
  funext encoded
  rw [Renderer.patchBytes, Renderer.patchBytes, Transaction.payload, Transaction.payload,
    twin.bytes]

/-- Regions inside the frame are encoded alike. -/
theorem Transaction.Twin.encodeRegions (readable : frame.Readable) (valid : frame.isValid = true)
    (maximumOutputBytes : Nat) {regions : List DamageRegion}
    (inside : ∀ region ∈ regions,
      VideoSixelEncoder.regionInside region frame.width frame.height = true) :
    ∀ {left right : Transaction}, left.Twin right →
      (Renderer.encodeRegions host frame maximumOutputBytes left regions).1.Twin
          (Renderer.encodeRegions host frame maximumOutputBytes right regions).1 ∧
        (Renderer.encodeRegions host frame maximumOutputBytes left regions).2 =
          (Renderer.encodeRegions host frame maximumOutputBytes right regions).2 := by
  induction regions with
  | nil => exact fun twin => ⟨twin, rfl⟩
  | cons region regions inductionHypothesis =>
      intro left right twin
      have bytes := twin.bytes
      simp only [Renderer.encodeRegions, ← bytes]
      by_cases full : maximumOutputBytes > 0 ∧ left.bytes.length ≥ maximumOutputBytes
      · rw [if_pos full, if_pos full]
        exact ⟨twin, rfl⟩
      · rw [if_neg full, if_neg full]
        generalize (if maximumOutputBytes = 0 then 0
          else maximumOutputBytes - left.bytes.length) = remaining
        have prepared := (twin.backend.prepareArea host region frame).setOutputLimit remaining
        have leftAdapted := (twin.leftAdapted.prepareArea host region frame).setOutputLimit
          remaining
        have rightAdapted := (twin.rightAdapted.prepareArea host region frame).setOutputLimit
          remaining
        have regionReadable := readable.region (inside region List.mem_cons_self)
        have leftAfter := leftAdapted.encodeArea host region frame
        have rightAfter := rightAdapted.encodeArea host region frame
        have encodes := fun encoder => VideoSixelEncoder.encodeArea_of_inside host encoder valid
          (inside region List.mem_cons_self)
        simp only [encodes] at leftAfter rightAfter ⊢
        obtain ⟨same, exceeded⟩ := prepared.bytes host leftAdapted rightAdapted rfl regionReadable
        obtain ⟨after, colors⟩ := prepared.encodeAny host leftAdapted rightAdapted regionReadable
        rw [← exceeded]
        split
        · exact ⟨⟨after, leftAfter, rightAfter, rfl, twin.regions, twin.colors⟩, rfl⟩
        · apply inductionHypothesis
            (fun other member => inside other (List.mem_cons_of_mem _ member))
          exact
            { backend := after
              leftAdapted := leftAfter
              rightAdapted := rightAfter
              bytes := by rw [← same]
              regions := by rw [← same, twin.regions]
              colors := by rw [← colors, twin.colors] }

/-- A sound renderer whose sink accepts everything. -/
structure Ready (host : Host) (renderer : Renderer) : Prop extends Sound host renderer where
  accepting : renderer.terminal.sink.Accepting

/-- No later frame tells the two apart. -/
structure Twin (left right : Renderer) : Prop where
  options : left.options = right.options
  backend : left.backend.Twin right.backend
  damage : left.damage = right.damage
  usingSuppliedDamage : left.usingSuppliedDamage = right.usingSuppliedDamage
  previousWidth : left.previousWidth = right.previousWidth
  previousHeight : left.previousHeight = right.previousHeight
  previousFormatTag : left.previousFormatTag = right.previousFormatTag
  previousPalette : left.previousPalette = right.previousPalette

/-- Two answers with one result and the same bytes. -/
structure Alike (left right : Renderer) (leftAnswer rightAnswer : Renderer × RenderResult) :
    Prop where
  twin : leftAnswer.1.Twin rightAnswer.1
  result : leftAnswer.2 = rightAnswer.2
  bytes : ∃ bytes, left.terminal.Emits bytes leftAnswer.1.terminal ∧
    right.terminal.Emits bytes rightAnswer.1.terminal

theorem Ready.otherDamage (ready : renderer.Ready host) {other : Renderer}
    (looked : renderer.OtherDamage other) : other.Ready host where
  toSound := ready.toSound.otherDamage looked
  accepting := by
    obtain ⟨⟨damage, supplied, same⟩, -⟩ := looked
    rw [same]
    exact ready.accepting

/-- Looking for damage sends nothing. -/
theorem Alike.otherDamage {left right leftCurrent rightCurrent : Renderer}
    {leftAnswer rightAnswer : Renderer × RenderResult}
    (alike : Alike leftCurrent rightCurrent leftAnswer rightAnswer)
    (leftLooked : left.OtherDamage leftCurrent) (rightLooked : right.OtherDamage rightCurrent) :
    Alike left right leftAnswer rightAnswer := by
  obtain ⟨⟨_, _, leftSame⟩, -⟩ := leftLooked
  obtain ⟨⟨_, _, rightSame⟩, -⟩ := rightLooked
  obtain ⟨twin, result, bytes⟩ := alike
  rw [leftSame, rightSame] at bytes
  exact ⟨twin, result, bytes⟩

namespace Twin

variable {left right : Renderer}

/-- Twins differ in the encoder and the terminal only. -/
theorem eq_right (twin : left.Twin right) :
    { left with backend := right.backend, terminal := right.terminal } = right := by
  obtain ⟨options, -, damage, supplied, width, height, formatTag, palette⟩ := twin
  cases right
  simp_all

theorem withBackend (twin : left.Twin right) {leftBackend rightBackend : VideoSixelEncoder}
    (backend : leftBackend.Twin rightBackend) (leftTerminal rightTerminal : TerminalRenderer) :
    Twin { left with backend := leftBackend, terminal := leftTerminal }
      { right with backend := rightBackend, terminal := rightTerminal } :=
  { twin with backend := backend }

theorem reset (twin : left.Twin right) : left.reset.Twin right.reset where
  options := twin.options
  backend := twin.backend.reset
  damage := congrArg DamageTracker.reset twin.damage
  usingSuppliedDamage := rfl
  previousWidth := rfl
  previousHeight := rfl
  previousFormatTag := rfl
  previousPalette := rfl

theorem remember (twin : left.Twin right) (frame : Frame) :
    (left.remember frame).Twin (right.remember frame) where
  options := twin.options
  backend := twin.backend
  damage := twin.damage
  usingSuppliedDamage := twin.usingSuppliedDamage
  previousWidth := rfl
  previousHeight := rfl
  previousFormatTag := rfl
  previousPalette := rfl

theorem unchanged (twin : left.Twin right) (leftReady : left.Ready host)
    (rightReady : right.Ready host) : Alike left right (left, {}) (right, {}) :=
  ⟨twin, rfl, [], emits_nil leftReady.accepting, emits_nil rightReady.accepting⟩

theorem fullEncoder (twin : left.Twin right) (host : Host) (frame : Frame) :
    (left.fullEncoder host frame).Twin (right.fullEncoder host frame) := by
  unfold Renderer.fullEncoder
  rw [twin.options]
  exact (twin.backend.prepare host frame).setOutputLimit _

theorem renderFull (twin : left.Twin right) (leftReady : left.Ready host)
    (rightReady : right.Ready host) (readable : frame.isReadable = true) (changed : Bool) :
    Alike left right (left.renderFull host frame changed)
      (right.renderFull host frame changed) := by
  have view := Frame.readable_of_isReadable readable
  have encoders := twin.fullEncoder host frame
  have limits : (left.fullEncoder host frame).outputLimit =
      (right.fullEncoder host frame).outputLimit := by
    show left.options.maximumOutputBytes = right.options.maximumOutputBytes
    rw [twin.options]
  have leftAdapted := leftReady.toSound.fullEncoder frame
  have rightAdapted := rightReady.toSound.fullEncoder frame
  obtain ⟨same, exceeded⟩ := encoders.bytes host leftAdapted rightAdapted limits view
  obtain ⟨after, colors⟩ := encoders.encodeAny host leftAdapted rightAdapted view
  have encodes : ∀ renderer : Renderer, renderer.encodedFull host frame =
      (renderer.fullEncoder host frame).encodeAny host frame := by
    intro renderer
    rw [encodedFull, VideoSixelEncoder.encode_eq, if_pos (Frame.isValid_of_isReadable readable)]
  simp only [← encodes] at same exceeded after colors
  cases outcome : (left.encodedFull host frame).1.limitExceeded with
  | true =>
      rw [renderFull_of_exceeded outcome, renderFull_of_exceeded (exceeded ▸ outcome)]
      exact ⟨(twin.withBackend after left.terminal right.terminal).reset, rfl, [],
        emits_nil leftReady.accepting, emits_nil rightReady.accepting⟩
  | false =>
      obtain ⟨leftTerminal, leftEmits, leftAnswer⟩ := renderFull_accepted leftReady.accepting
        leftReady.inactive outcome changed
      obtain ⟨rightTerminal, rightEmits, rightAnswer⟩ := renderFull_accepted rightReady.accepting
        rightReady.inactive (exceeded ▸ outcome) changed
      rw [← same, ← twin.options] at rightEmits
      rw [leftAnswer, rightAnswer]
      refine ⟨(twin.withBackend after leftTerminal rightTerminal).remember frame, ?_, _,
        leftEmits, rightEmits⟩
      simp only [same, colors, twin.options]

theorem renderRegions (twin : left.Twin right) (leftReady : left.Ready host)
    (rightReady : right.Ready host) (readable : frame.isReadable = true) (changed : Bool)
    {regions : List DamageRegion}
    (inside : ∀ region ∈ regions,
      VideoSixelEncoder.regionInside region frame.width frame.height = true) :
    Alike left right (left.renderRegions host frame changed regions)
      (right.renderRegions host frame changed regions) := by
  have prepared : Transaction.Twin
      { backend := left.backend.prepareRegional host frame }
      { backend := right.backend.prepareRegional host frame } :=
    ⟨twin.backend.prepareRegional host frame, leftReady.adapted.prepareRegional host frame,
      rightReady.adapted.prepareRegional host frame, rfl, rfl, rfl⟩
  obtain ⟨encoded, completed⟩ := prepared.encodeRegions (Frame.readable_of_isReadable readable)
    (Frame.isValid_of_isReadable readable) left.options.maximumOutputBytes inside
  have rightEncoded : right.encodedPatches host frame regions =
      encodeRegions host frame left.options.maximumOutputBytes
        { backend := right.backend.prepareRegional host frame } regions := by
    rw [twin.options]
    rfl
  rw [← rightEncoded] at encoded completed
  change (left.encodedPatches host frame regions).1.Twin _ at encoded
  change (left.encodedPatches host frame regions).2 = _ at completed
  cases outcome : (left.encodedPatches host frame regions).2 with
  | false =>
      rw [renderRegions_of_exceeded outcome, renderRegions_of_exceeded (completed ▸ outcome)]
      exact ⟨(twin.withBackend encoded.backend left.terminal right.terminal).reset, rfl, [],
        emits_nil leftReady.accepting, emits_nil rightReady.accepting⟩
  | true =>
      obtain ⟨leftTerminal, leftEmits, leftAnswer⟩ := renderRegions_accepted
        leftReady.accepting leftReady.inactive outcome changed
      obtain ⟨rightTerminal, rightEmits, rightAnswer⟩ := renderRegions_accepted
        rightReady.accepting rightReady.inactive (completed ▸ outcome) changed
      rw [← twin.options, ← encoded.patchBytes] at rightEmits
      rw [leftAnswer, rightAnswer]
      refine ⟨(twin.withBackend encoded.backend leftTerminal rightTerminal).remember frame, ?_, _,
        leftEmits, rightEmits⟩
      rw [← twin.options, ← encoded.patchBytes, encoded.bytes, encoded.colors, encoded.regions]

/-- Both find the same damage and plan the same patches. -/
theorem decisions (twin : left.Twin right) (host : Host) (frame : Frame) :
    left.dimensionsChanged frame = right.dimensionsChanged frame ∧
      left.frameIdentityChanged frame = right.frameIdentityChanged frame ∧
      (left.adapt frame).Twin (right.adapt frame) ∧
      (∀ changed, (left.findDamage host frame changed).2 =
          (right.findDamage host frame changed).2 ∧
        (left.findDamage host frame changed).1.Twin (right.findDamage host frame changed).1) ∧
      ∀ difference, left.planPresentation host frame difference =
        right.planPresentation host frame difference := by
  have same := twin.eq_right
  have backend := twin.backend
  rw [← same]
  generalize right.backend = rightBackend at backend
  generalize right.terminal = rightTerminal
  -- the decisions read neither the encoder nor the terminal
  have other : ∀ damage supplied,
      Twin { left with damage := damage, usingSuppliedDamage := supplied }
        { left with
          backend := rightBackend
          terminal := rightTerminal
          damage := damage
          usingSuppliedDamage := supplied } :=
    fun _ _ => ⟨rfl, backend, rfl, rfl, rfl, rfl, rfl, rfl⟩
  refine ⟨rfl, rfl, ?_, ?_, fun _ => rfl⟩
  · show Twin
      (if left.dimensionsChanged frame || left.frameIdentityChanged frame then _ else _)
      (if left.dimensionsChanged frame || left.frameIdentityChanged frame then _ else _)
    split_ifs
    · exact other left.damage.reset false
    · exact other left.damage left.usingSuppliedDamage
  · intro changed
    simp only [Renderer.findDamage]
    split_ifs
    · exact ⟨rfl, other left.damage left.usingSuppliedDamage⟩
    · exact ⟨rfl, other left.damage.reset true⟩
    · exact ⟨rfl, other _ false⟩
    · exact ⟨rfl, other _ left.usingSuppliedDamage⟩

theorem renderFrame (twin : left.Twin right) (leftReady : left.Ready host)
    (rightReady : right.Ready host) (readable : frame.isReadable = true) :
    Alike left right (left.renderFrame host frame) (right.renderFrame host frame) := by
  have valid := Frame.isValid_of_isReadable readable
  obtain ⟨dimensions, identity, adapted, -, -⟩ := twin.decisions host frame
  have leftAdapted := left.otherDamage_adapt frame
  have rightAdapted := right.otherDamage_adapt frame
  simp only [Renderer.renderFrame, valid, Bool.not_true, Bool.false_eq_true, if_false,
    ← dimensions, ← identity, ← twin.options]
  set changed := left.dimensionsChanged frame || left.frameIdentityChanged frame
  obtain ⟨-, -, -, finds, -⟩ := adapted.decisions host frame
  obtain ⟨difference, found⟩ := finds changed
  have leftFound := leftAdapted.trans ((left.adapt frame).otherDamage_findDamage host frame changed)
  have rightFound := rightAdapted.trans
    ((right.adapt frame).otherDamage_findDamage host frame changed)
  obtain ⟨-, -, -, -, plans⟩ := found.decisions host frame
  have leftCurrent := leftReady.otherDamage leftFound
  have rightCurrent := rightReady.otherDamage rightFound
  rw [← difference, ← plans]
  by_cases tracks : (!left.options.enableDirtyRegions) = true
  · rw [if_pos tracks, if_pos tracks]
    exact (adapted.renderFull (leftReady.otherDamage leftAdapted)
      (rightReady.otherDamage rightAdapted) readable _).otherDamage leftAdapted rightAdapted
  · rw [if_neg tracks, if_neg tracks]
    split_ifs with nothing full
    · exact (found.unchanged leftCurrent rightCurrent).otherDamage leftFound rightFound
    · exact (found.renderFull leftCurrent rightCurrent readable _).otherDamage leftFound
        rightFound
    · apply (found.renderRegions leftCurrent rightCurrent readable _ ?_).otherDamage leftFound
        rightFound
      have start := (leftReady.otherDamage leftAdapted).toSound
      have notFull := planPresentation_full (Bool.eq_false_iff.mpr full)
      have placed := (partial_findDamage host valid start.positive start.tiling notFull).placed
      have cells : ((left.adapt frame).findDamage host frame changed).1.options =
          (left.adapt frame).options := by
        obtain ⟨⟨_, _, same⟩, -⟩ := (left.adapt frame).otherDamage_findDamage host frame changed
        rw [same]
      rw [← cells] at placed
      intro region member
      exact regionInside_of_placed ((coarsens_planPresentation host _ frame _).placed placed region
        member)

end Twin

/-! ### Answering frames -/

/-- The answer to a frame: the result, and the bytes accepted meanwhile. -/
def respond (host : Host) (frame : Frame) (renderer : Renderer) :
    (RenderResult × List UInt8) × Renderer :=
  let answer := renderer.render host frame
  ((answer.2, answer.1.terminal.sink.accepted.drop renderer.terminal.sink.accepted.length),
    answer.1)

theorem Twin.respond {left right : Renderer} (twin : left.Twin right)
    (leftReady : left.Ready host) (rightReady : right.Ready host) (frame : Frame) :
    (left.respond host frame).1 = (right.respond host frame).1 ∧
      (left.respond host frame).2.Twin (right.respond host frame).2 ∧
      (left.respond host frame).2.Ready host ∧ (right.respond host frame).2.Ready host := by
  have alike : Alike left right (left.render host frame) (right.render host frame) := by
    rw [render_eq, render_eq]
    split_ifs with readable
    · exact twin.renderFrame leftReady rightReady readable
    · exact twin.unchanged leftReady rightReady
  obtain ⟨after, result, bytes, leftEmits, rightEmits⟩ := alike
  refine ⟨?_, after, ⟨leftReady.toSound.perform (.render frame), leftEmits.accepting⟩,
    ⟨rightReady.toSound.perform (.render frame), rightEmits.accepting⟩⟩
  simp only [Renderer.respond]
  rw [leftEmits.accepted, rightEmits.accepted, List.drop_left, List.drop_left, result]

/-! ### Starting over -/

/-- The ways to start over: a reset, a clear, or a frame that failed. -/
inductive Restart (host : Host) (renderer : Renderer) : Renderer → Prop where
  | reset : Restart host renderer renderer.reset
  | clear : Restart host renderer renderer.clear.1
  | failed (frame : Frame) (failed : (renderer.render host frame).2.error ≠ .none) :
      Restart host renderer (renderer.render host frame).1

/-- The exits of a failed frame all reset. -/
theorem reset_of_failed (sound : renderer.Sound host)
    (failed : (renderer.renderFrame host frame).2.error ≠ .none) :
    ∃ before : Renderer, before.Sound host ∧ before.options = renderer.options ∧
      (renderer.renderFrame host frame).1 = before.reset := by
  obtain ⟨current, looked, answered⟩ := renderer.answered_renderFrame host frame
  have found := sound.otherDamage looked
  have options : current.options = renderer.options := by
    obtain ⟨⟨_, _, same⟩, -⟩ := looked
    rw [same]
  generalize renderer.renderFrame host frame = answer at answered failed ⊢
  cases answered with
  | unchanged => exact absurd rfl failed
  | full =>
      have encoded := found.encodedFull_backend frame
      cases outcome : (current.encodedFull host frame).1.limitExceeded with
      | true =>
          rw [renderFull_of_exceeded outcome]
          exact ⟨_, encoded, options, rfl⟩
      | false =>
          rw [renderFull_of_fits outcome] at failed ⊢
          simp only at failed ⊢
          split_ifs at failed with presented
          · exact absurd rfl failed
          · rw [Bool.eq_false_iff.mpr presented]
            exact ⟨_, encoded.withTerminal (updateActive_endSynchronizedUpdate _), options, rfl⟩
  | patches regions =>
      have encoded := found.encodedPatches_backend frame regions
      cases outcome : (current.encodedPatches host frame regions).2 with
      | false =>
          rw [renderRegions_of_exceeded outcome]
          exact ⟨_, encoded, options, rfl⟩
      | true =>
          rw [renderRegions_of_fits outcome] at failed ⊢
          simp only at failed ⊢
          split_ifs at failed with presented
          · exact absurd rfl failed
          · rw [Bool.eq_false_iff.mpr presented]
            exact ⟨_, encoded.withTerminal (updateActive_endSynchronizedUpdate _), options, rfl⟩

theorem Restart.reset_eq {restarted : Renderer} (restart : Restart host renderer restarted)
    (sound : renderer.Sound host) :
    ∃ before : Renderer, before.Sound host ∧ restarted = before.reset := by
  cases restart with
  | reset => exact ⟨renderer, sound, rfl⟩
  | clear =>
      have sent := renderer.terminal.keeps_clearAndHome
      exact ⟨_, sound.withTerminal (sent.updateActive.trans sound.inactive), rfl⟩
  | failed frame failed =>
      rw [render_eq] at failed ⊢
      split_ifs at failed ⊢
      · obtain ⟨before, kept, -, same⟩ := reset_of_failed sound failed
        exact ⟨before, kept, same⟩
      · exact absurd rfl failed

theorem ready_create {options : RendererOptions} (positive : options.cellPixels.Positive)
    (scratch : Scratch) {sink : OutputSink} (accepting : sink.Accepting) :
    (create host options scratch sink).Ready host where
  toSound := Sound.create host positive scratch sink
  accepting := (keeps_create sink options.useAlternateScreen).accepting accepting

/-- A renderer that started over cannot be told from a new one. -/
theorem twin_reset_create (sound : renderer.Sound host) (scratch : Scratch) (sink : OutputSink) :
    renderer.reset.Twin (create host renderer.options scratch sink) := by
  obtain ⟨damage, backend⟩ := sound.reset_eq_create scratch sink
  exact ⟨rfl, backend, damage, rfl, rfl, rfl, rfl, rfl⟩

/-- A full frame with all its definitions, or nothing because of the output limit. -/
def FullWithDefinitions (host : Host) (renderer : Renderer) (frame : Frame)
    (answer : RenderResult × List UInt8) : Prop :=
  let encoder := renderer.fullEncoder host frame
  let table := encoder.table host frame
  answer = (limitResult, []) ∨
    answer.1.rendered = true ∧ answer.1.usedFullFrame = true ∧
      answer.2 = updateBytes renderer.options false (homeBytes
        (streamBytes encoder.options (registerPieces table.registers table.colors) table.image
          frame.width.toNat frame.height.toNat))

/-- The first frame of a new renderer. -/
theorem respond_create {options : RendererOptions} (positive : options.cellPixels.Positive)
    (scratch : Scratch) {sink : OutputSink} (accepting : sink.Accepting)
    (readable : frame.isReadable = true) :
    FullWithDefinitions host (create host options scratch sink) frame
      ((create host options scratch sink).respond host frame).1 := by
  have ready := @ready_create host options positive scratch sink accepting
  have valid := Frame.isValid_of_isReadable readable
  have shape : (create host options scratch sink).damage.hasSameShape frame = false :=
    hasSameShape_reset (create host options scratch sink).damage valid
  obtain ⟨current, looked, answer⟩ := renderFrame_of_forgotten host valid ready.positive
    ready.toSound.tiling rfl rfl shape
  have found := ready.otherDamage looked
  obtain ⟨⟨damage, supplied, same⟩, -⟩ := looked
  -- the encoder of the full frame has no registers to rely on
  set renderer := create host options scratch sink with created
  have encoder : current.fullEncoder host frame = renderer.fullEncoder host frame := by
    rw [same]
    rfl
  have adapted := ready.toSound.fullEncoder frame
  have unset : (renderer.fullEncoder host frame).paletteRegistersValid = false :=
    (VideoSixelEncoder.sameRegisters_prepare host renderer.backend frame).valid
  have defines : ∀ signature,
      ((renderer.fullEncoder host frame).shouldEmitPalette signature).2 = true := by
    intro signature
    rw [VideoSixelEncoder.shouldEmitPalette, unset]
    simp only [Bool.not_false, true_or, if_true]
    split_ifs <;> rfl
  obtain ⟨bytes, exceeded⟩ := VideoSixelEncoder.encodeAny_bytes host (adapted.mayEncode frame)
    (Frame.readable_of_isReadable readable)
  rw [if_pos (defines _)] at bytes exceeded
  rw [← exceeded] at bytes
  have encoded : current.encodedFull host frame =
      (renderer.fullEncoder host frame).encodeAny host frame := by
    rw [encodedFull, encoder, VideoSixelEncoder.encode_eq, if_pos valid]
  have terminal : current.terminal = renderer.terminal := by rw [same]
  have option : current.options = renderer.options := by rw [same]
  simp only [FullWithDefinitions, respond, render_eq, readable, if_true, answer]
  cases outcome : (current.encodedFull host frame).1.limitExceeded with
  | true =>
      left
      rw [renderFull_of_exceeded outcome]
      show (limitResult, current.terminal.sink.accepted.drop _) = _
      rw [terminal, List.drop_length]
  | false =>
      right
      obtain ⟨after, emitted, presented⟩ := renderFull_accepted found.accepting found.inactive
        outcome false
      rw [presented]
      refine ⟨rfl, rfl, ?_⟩
      show after.sink.accepted.drop _ = _
      rw [emitted.accepted, terminal, List.drop_left, option, encoded]
      rw [encoded] at outcome
      have whole := bytes.trans (if_neg (Bool.eq_false_iff.mp outcome))
      exact congrArg (fun sixel => updateBytes renderer.options false (homeBytes sixel)) whole

/-- After any history, a renderer that started over answers every continuation like
a new one with the same options; its first frame is full and carries its
definitions. -/
theorem restarted_like_new (host : Host) (options : RendererOptions)
    (positive : options.cellPixels.Positive) (scratch : Scratch) (sink : OutputSink)
    (history : List Call) {restarted : Renderer}
    (restart : Restart host ((create host options scratch sink).performAll host history) restarted)
    (accepting : restarted.terminal.sink.Accepting)
    (newScratch : Scratch) {newSink : OutputSink} (newAccepting : newSink.Accepting)
    (frames : List Frame) :
    let new := create host restarted.options newScratch newSink
    (Machine.feed (respond host) frames restarted).1 = (Machine.feed (respond host) frames new).1 ∧
      ∀ first ∈ frames.head?, first.isReadable = true →
        FullWithDefinitions host new first (restarted.respond host first).1 := by
  have sound : ((create host options scratch sink).performAll host history).Sound host :=
    @performAll_invariant host (Sound host) (fun _ call held => held.perform call) history _
      (Sound.create host positive scratch sink)
  obtain ⟨before, kept, same⟩ := restart.reset_eq sound
  subst same
  intro new
  have twin : before.reset.Twin new := twin_reset_create kept newScratch newSink
  have ready : before.reset.Ready host := ⟨kept.reset, accepting⟩
  have newReady : new.Ready host := ready_create ready.positive newScratch newAccepting
  constructor
  · exact (@Machine.feed_related Renderer Frame _ (respond host)
      (fun left right => left.Twin right ∧ left.Ready host ∧ right.Ready host) (fun _ => True)
      (fun frame _ _ _ related => related.1.respond related.2.1 related.2.2 frame) frames
      (fun _ _ => trivial) before.reset new ⟨twin, ready, newReady⟩).1
  · intro first _ readable
    rw [(twin.respond ready newReady first).1]
    exact respond_create ready.positive newScratch newAccepting readable

/-- A sink goes on answering as it was built to. -/
theorem accepting_render (host : Host) (options : RendererOptions) (scratch : Scratch)
    (sink : OutputSink) (calls : List Call) (frame : Frame)
    (later : ∀ call ≥ (((create host options scratch sink).performAll host calls).render host
      frame).1.terminal.sink.calls.length, sink.responses call = true) :
    (((create host options scratch sink).performAll host calls).render host
      frame).1.terminal.sink.Accepting := by
  obtain ⟨_, first⟩ := (create host options scratch sink).extends_performAll host calls
  obtain ⟨_, second⟩ :=
    ((create host options scratch sink).performAll host calls).extends_perform host (.render frame)
  have responses := (second.responses.trans first.responses).trans
    (keeps_create sink options.useAlternateScreen).responses
  intro call after
  exact (congrFun responses call).trans (later call after)

/-- A frame and a clear, then a frame of which one write is refused. -/
theorem stripes_like_new :
    let options : RendererOptions := { maximumOutputBytes := 4096 }
    let sink : OutputSink := { responses := fun call => call ≠ 20 }
    let used := (create Host.plain options {} sink).performAll Host.plain
      [.render (.indexed .stripes), .clear]
    let restarted := (used.render Host.plain (.indexed .stripes)).1
    let new := create Host.plain restarted.options {} { responses := fun _ => true }
    (Machine.feed (respond Host.plain) [.indexed .stripes] restarted).1 =
        (Machine.feed (respond Host.plain) [.indexed .stripes] new).1 ∧
      ∀ first ∈ [Frame.indexed .stripes].head?, first.isReadable = true →
        FullWithDefinitions Host.plain new first (restarted.respond Host.plain first).1 := by
  have failed : (((create Host.plain { maximumOutputBytes := 4096 } {}
      { responses := fun call => call ≠ 20 }).performAll Host.plain
      [.render (.indexed .stripes), .clear]).render Host.plain (.indexed .stripes)).2.error ≠
        .none := by decide +kernel
  have accepting := accepting_render Host.plain { maximumOutputBytes := 4096 } {}
    { responses := fun call => call ≠ 20 } [.render (.indexed .stripes), .clear]
    (.indexed .stripes) (fun call later =>
      decide_eq_true (Nat.ne_of_gt (Nat.lt_of_lt_of_le (by decide +kernel) later)))
  exact restarted_like_new Host.plain { maximumOutputBytes := 4096 } ⟨by decide, by decide⟩ {}
    { responses := fun call => call ≠ 20 } [.render (.indexed .stripes), .clear]
    (.failed (.indexed .stripes) failed) accepting {} (fun _ _ => rfl) [.indexed .stripes]

end Renderer

end Rasterm
