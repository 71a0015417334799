import Rasterm.Encoder.Regional
import Rasterm.Encoder.Twin

/-!
Contract: the adaptive palette changes at most once for each logical frame.

Owns logical frames begun by either preparation and encoded by any sequence of calls,
the decision that is left when everything but the frames is forgotten, and that the
encoder follows it: whatever the calls, and whatever came before the last reset.

Does not own palettes of single regions; independent quantization has its own module.
-/

set_option autoImplicit false

namespace Rasterm

/-! ### Frames and their calls -/

/-- A call for the frame that was prepared. -/
inductive EncodeCall where
  | encodeFrame
  | prepareRegion (region : DamageRegion)
  | encodeRegion (region : DamageRegion)
deriving DecidableEq, Repr

namespace EncodeCall

def apply (host : Host) (frame : Frame) (encoder : VideoSixelEncoder) :
    EncodeCall → VideoSixelEncoder
  | encodeFrame => (encoder.encode host frame).1
  | prepareRegion region => encoder.prepareArea host region frame
  | encodeRegion region => (encoder.encodeArea host region frame).1

/-- The mapper through which the call maps pixels. -/
def mapper (host : Host) (frame : Frame) (encoder : VideoSixelEncoder) (call : EncodeCall) :
    Option FastAdaptiveColorMapper :=
  match call, frame with
  | encodeFrame, .packed view =>
      if view.isValid then some (encoder.mapped host view).colorMapper else none
  | encodeRegion region, .packed view =>
      if view.isValid && VideoSixelEncoder.regionInside region view.width view.height then
        some (encoder.mapped host (view.region region)).colorMapper
      else none
  | _, _ => none

end EncodeCall

/-- A logical frame, how it is prepared, and the calls that encode it. -/
structure SplitFrame where
  frame : Frame
  /-- By `prepareRegionalFrame`. -/
  regional : Bool
  calls : List EncodeCall

namespace SplitFrame

def begin (host : Host) (encoder : VideoSixelEncoder) (split : SplitFrame) : VideoSixelEncoder :=
  if split.regional then encoder.prepareRegional host split.frame
  else encoder.prepare host split.frame

def present (host : Host) (encoder : VideoSixelEncoder) (split : SplitFrame) : VideoSixelEncoder :=
  split.calls.foldl (EncodeCall.apply host split.frame) (split.begin host encoder)

/-- A packed frame that is not turned away. -/
def packed? (split : SplitFrame) : Option FrameView :=
  match split.frame with
  | .packed view => if view.isValid then some view else none
  | .indexed _ => none

end SplitFrame

inductive EncoderEvent where
  | frame (split : SplitFrame)
  | reset

def EncoderEvent.apply (host : Host) (encoder : VideoSixelEncoder) :
    EncoderEvent → VideoSixelEncoder
  | frame split => split.present host encoder
  | reset => encoder.reset

/-- The frames since the last reset. -/
def framesSinceReset (events : List EncoderEvent) : List Frame :=
  events.foldl
    (fun frames event =>
      match event with
      | .frame split => frames ++ [split.frame]
      | .reset => [])
    []

/-! ### Decisions -/

/-- The analysis of a frame on its own. -/
def analysisOf (view : FrameView) : FastColorAnalyzer :=
  ({} : FastColorAnalyzer).analyzeFrameFast view

/-- What is left of an encoder when everything but its palette decisions is forgotten. -/
structure Decision where
  /-- The frame that the palette was built from. -/
  source : Option FrameView := none
  age : Int := 0

namespace Decision

/-- No palette yet, the lock has run out, or the scene has changed. -/
def rebuilds (host : Host) (options : SixelOptions) (decision : Decision) (view : FrameView) :
    Bool :=
  match decision.source with
  | none => true
  | some source =>
      decision.age ≥ options.adaptivePaletteLockFrames ||
        host.histogramDistance (analysisOf view).luminanceHistogram
          (analysisOf source).luminanceHistogram ≥ options.sceneCutThreshold

def next (host : Host) (options : SixelOptions) (decision : Decision) : Frame → Decision
  | .packed view =>
      if view.isValid then
        if decision.rebuilds host options view then { source := some view }
        else { decision with age := decision.age + 1 }
      else decision
  | .indexed _ => decision

def after (host : Host) (options : SixelOptions) (frames : List Frame) : Decision :=
  frames.foldl (next host options) {}

end Decision

/-- The encoder has taken this decision. -/
structure Follows (host : Host) (options : SixelOptions) (slots : Nat) (decision : Decision)
    (encoder : VideoSixelEncoder) : Prop where
  options : encoder.options = options
  maxColors : encoder.colorMapper.maxColors = slots
  has : encoder.hasAdaptivePalette = decision.source.isSome
  histogram : encoder.colorMapper.hasHistogram = decision.source.isSome
  age : encoder.paletteAge = decision.age
  palette : ∀ source, decision.source = some source →
    encoder.colorMapper.SamePalette (LogicalFrame.paletteOf host slots source) ∧
      encoder.colorMapper.previousHistogram = (analysisOf source).luminanceHistogram

/-- The call changes nothing that the decision is about. -/
structure Untouched (before after : VideoSixelEncoder) : Prop where
  options : after.options = before.options
  colorMapper : after.colorMapper = before.colorMapper
  has : after.hasAdaptivePalette = before.hasAdaptivePalette
  age : after.paletteAge = before.paletteAge
  prepared : after.adaptiveFramePrepared = before.adaptiveFramePrepared

namespace Untouched

theorem refl (encoder : VideoSixelEncoder) : Untouched encoder encoder := ⟨rfl, rfl, rfl, rfl, rfl⟩

theorem trans {first second third : VideoSixelEncoder} (head : Untouched first second)
    (tail : Untouched second third) : Untouched first third :=
  ⟨tail.options.trans head.options, tail.colorMapper.trans head.colorMapper,
    tail.has.trans head.has, tail.age.trans head.age, tail.prepared.trans head.prepared⟩

variable {host : Host} {encoder : VideoSixelEncoder}

theorem mapped (adaptive : encoder.options.useAdaptivePalette = true)
    (prepared : encoder.adaptiveFramePrepared = true) (view : FrameView) :
    Untouched encoder (encoder.mapped host view) := by
  unfold VideoSixelEncoder.mapped VideoSixelEncoder.mapPixels
  rw [if_pos adaptive, if_pos prepared]
  exact ⟨rfl, rfl, rfl, rfl, rfl⟩

theorem encodeView (adaptive : encoder.options.useAdaptivePalette = true)
    (prepared : encoder.adaptiveFramePrepared = true) (view : FrameView) :
    Untouched encoder (encoder.encodeView host view).1 := by
  obtain ⟨options, colorMapper, has, age, kept⟩ :=
    VideoSixelEncoder.encodeView_frame host encoder view
  exact (mapped adaptive prepared view).trans ⟨options, colorMapper, has, age, kept⟩

theorem encodeIndexedView (encoder : VideoSixelEncoder) (view : IndexedFrameView) :
    Untouched encoder (encoder.encodeIndexedView view).1 := by
  obtain ⟨scratch, indices, state⟩ := VideoSixelEncoder.encodeIndexedView_state encoder view
  rw [state, VideoSixelEncoder.shouldEmitPalette_frame]
  exact ⟨rfl, rfl, rfl, rfl, rfl⟩

end Untouched

/-- A valid packed frame has been prepared. -/
def Prepares (encoder : VideoSixelEncoder) (frame : Frame) : Prop :=
  ∀ view, frame = .packed view → view.isValid = true → encoder.adaptiveFramePrepared = true

/-- Encoding a prepared frame, as a whole or in part, keeps the palette. -/
theorem EncodeCall.untouched {host : Host} {encoder : VideoSixelEncoder} {frame : Frame}
    (adaptive : encoder.options.useAdaptivePalette = true)
    (shared : encoder.options.independentRegionQuantization = false)
    (prepared : Prepares encoder frame) (call : EncodeCall) :
    Untouched encoder (call.apply host frame encoder) := by
  cases call with
  | encodeFrame =>
      rw [apply, VideoSixelEncoder.encode_eq]
      split_ifs with valid
      · cases frame with
        | packed view => exact Untouched.encodeView adaptive (prepared view rfl valid) view
        | indexed view => exact Untouched.encodeIndexedView encoder view
      · exact Untouched.refl encoder
  | prepareRegion region =>
      cases frame with
      | packed view =>
          have skipped : encoder.prepareRegion host view region = encoder := by
            unfold VideoSixelEncoder.prepareRegion
            rw [shared]
            simp
          rw [apply, VideoSixelEncoder.prepareArea, skipped]
          exact Untouched.refl encoder
      | indexed view => exact Untouched.refl encoder
  | encodeRegion region =>
      rw [apply, VideoSixelEncoder.encodeArea_eq]
      split_ifs with accepted
      · rw [Bool.and_eq_true] at accepted
        cases frame with
        | packed view =>
            exact Untouched.encodeView adaptive (prepared view rfl accepted.1) (view.region region)
        | indexed view => exact Untouched.encodeIndexedView encoder (view.region region)
      · exact Untouched.refl encoder

theorem EncodeCall.untouched_foldl {host : Host} {frame : Frame} (calls : List EncodeCall)
    {encoder : VideoSixelEncoder} (adaptive : encoder.options.useAdaptivePalette = true)
    (shared : encoder.options.independentRegionQuantization = false)
    (prepared : Prepares encoder frame) :
    Untouched encoder (calls.foldl (EncodeCall.apply host frame) encoder) := by
  induction calls generalizing encoder with
  | nil => exact Untouched.refl encoder
  | cons call calls inductionHypothesis =>
      have once : Untouched encoder (EncodeCall.apply host frame encoder call) :=
        untouched adaptive shared prepared call
      rw [List.foldl_cons]
      apply once.trans
      apply inductionHypothesis
      · rw [once.options, adaptive]
      · rw [once.options, shared]
      · intro view packed valid
        rw [once.prepared]
        exact prepared view packed valid

/-- A prepared frame is mapped through the palette that is held. -/
theorem EncodeCall.mapper_eq {host : Host} {encoder : VideoSixelEncoder} {frame : Frame}
    (adaptive : encoder.options.useAdaptivePalette = true) (prepared : Prepares encoder frame)
    {call : EncodeCall} {mapped : FastAdaptiveColorMapper}
    (maps : call.mapper host frame encoder = some mapped) : mapped = encoder.colorMapper := by
  cases frame with
  | indexed view => cases call <;> cases maps
  | packed view =>
      cases call with
      | prepareRegion region => cases maps
      | encodeFrame =>
          dsimp only [mapper] at maps
          split_ifs at maps with valid
          cases maps
          exact (Untouched.mapped adaptive (prepared view rfl valid) view).colorMapper
      | encodeRegion region =>
          dsimp only [mapper] at maps
          split_ifs at maps with accepted
          cases maps
          rw [Bool.and_eq_true] at accepted
          exact (Untouched.mapped adaptive (prepared view rfl accepted.1) _).colorMapper

namespace Follows

variable {host : Host} {options : SixelOptions} {slots : Nat} {decision : Decision}
  {encoder next : VideoSixelEncoder}

theorem untouched (follows : Follows host options slots decision encoder)
    (kept : Untouched encoder next) : Follows host options slots decision next where
  options := kept.options.trans follows.options
  maxColors := kept.colorMapper ▸ follows.maxColors
  has := kept.has.trans follows.has
  histogram := kept.colorMapper ▸ follows.histogram
  age := kept.age.trans follows.age
  palette := kept.colorMapper ▸ follows.palette

theorem reset (follows : Follows host options slots decision encoder) :
    Follows host options slots {} encoder.reset where
  options := follows.options
  maxColors := follows.maxColors
  has := rfl
  histogram := rfl
  age := rfl
  palette := fun _ impossible => by cases impossible

theorem begun (follows : Follows host options slots decision encoder) :
    Follows host options slots decision
      { encoder.beginLogicalFrame with adaptiveFramePrepared := false } := by
  rw [VideoSixelEncoder.beginLogicalFrame_frame]
  exact ⟨follows.options, follows.maxColors, follows.has, follows.histogram, follows.age,
    follows.palette⟩

/-- The decision to rebuild needs the frames alone. -/
theorem mustRebuild (follows : Follows host options slots decision encoder)
    (analyzer : FastColorAnalyzer) (view : FrameView) :
    encoder.mustRebuild host (analyzer.analyzeFrameFast view) =
      decision.rebuilds host options view := by
  have analysis := (FastColorAnalyzer.analyzeFrameFast_congr analyzer {} view).2
  have has := follows.has
  have histogram := follows.histogram
  unfold VideoSixelEncoder.mustRebuild Decision.rebuilds
  cases built : decision.source with
  | none =>
      rw [built, Option.isSome_none] at has
      rw [has]
      rfl
  | some source =>
      rw [built, Option.isSome_some] at has histogram
      have difference : encoder.sceneDifference host (analyzer.analyzeFrameFast view) =
          host.histogramDistance (analysisOf view).luminanceHistogram
            (analysisOf source).luminanceHistogram := by
        unfold VideoSixelEncoder.sceneDifference
        rw [if_pos histogram, analysis, (follows.palette source built).2]
        rfl
      rw [has, follows.age, follows.options, difference]
      rfl

/-- A valid packed frame rebuilds the palette, or keeps it for one frame more. -/
theorem adaptPalette (follows : Follows host options slots decision encoder) {view : FrameView}
    (valid : view.isValid = true) :
    Follows host options slots (decision.next host options (.packed view))
      (encoder.adaptPalette host view) := by
  unfold VideoSixelEncoder.adaptPalette Decision.next
  dsimp only
  rw [follows.mustRebuild, if_pos valid]
  split_ifs with rebuilds
  · have analysis := FastColorAnalyzer.analyzeFrameFast_congr encoder.analyzer {} view
    refine ⟨follows.options, ?_, rfl, rfl, rfl, ?_⟩
    · exact (FastAdaptiveColorMapper.maxColors_buildOptimalPalette host _ _).trans follows.maxColors
    · intro source built
      cases built
      exact ⟨FastAdaptiveColorMapper.buildOptimalPalette_congr host follows.maxColors analysis.1,
        analysis.2⟩
  · exact ⟨follows.options, follows.maxColors, follows.has, follows.histogram,
      congrArg (· + 1) follows.age, follows.palette⟩

theorem prepare (follows : Follows host options slots decision encoder)
    (adaptive : options.useAdaptivePalette = true) (frame : Frame) :
    Follows host options slots (decision.next host options frame) (encoder.prepare host frame) ∧
      Prepares (encoder.prepare host frame) frame := by
  cases frame with
  | indexed view =>
      refine ⟨follows.begun, ?_⟩
      intro other impossible
      cases impossible
  | packed view =>
      have enabled : encoder.options.useAdaptivePalette = true := by
        rw [follows.options, adaptive]
      change Follows host options slots _ (encoder.prepareFrame host view) ∧
        Prepares (encoder.prepareFrame host view) (.packed view)
      unfold VideoSixelEncoder.prepareFrame
      cases valid : view.isValid with
      | false =>
          rw [Bool.not_false, Bool.or_true, if_pos rfl]
          refine ⟨?_, ?_⟩
          · unfold Decision.next
            dsimp only
            rw [if_neg (by rw [valid]; exact Bool.false_ne_true)]
            exact follows.begun
          · intro other same otherValid
            cases same
            rw [valid] at otherValid
            cases otherValid
      | true =>
          rw [enabled, if_neg (by decide)]
          have adapted := follows.begun.adaptPalette valid
          refine ⟨⟨adapted.options, adapted.maxColors, adapted.has, adapted.histogram, adapted.age,
            adapted.palette⟩, ?_⟩
          intro _ _ _
          rfl

/-- The two preparations agree when regions share the palette. -/
theorem begin_eq (shared : encoder.options.independentRegionQuantization = false)
    (split : SplitFrame) : split.begin host encoder = encoder.prepare host split.frame := by
  unfold SplitFrame.begin
  split_ifs
  · cases split.frame with
    | packed view =>
        change encoder.prepareRegionalFrame host view = encoder.prepareFrame host view
        unfold VideoSixelEncoder.prepareRegionalFrame
        rw [shared, Bool.and_false, if_neg Bool.false_ne_true]
    | indexed view => rfl
  · rfl

/-- Calls for a prepared frame leave what the preparation decided. -/
theorem calls_untouched (follows : Follows host options slots decision encoder)
    (adaptive : options.useAdaptivePalette = true)
    (shared : options.independentRegionQuantization = false) (frame : Frame)
    (calls : List EncodeCall) :
    Untouched (encoder.prepare host frame)
      (calls.foldl (EncodeCall.apply host frame) (encoder.prepare host frame)) := by
  have prepared := follows.prepare adaptive frame
  apply EncodeCall.untouched_foldl
  · rw [prepared.1.options, adaptive]
  · rw [prepared.1.options, shared]
  · exact prepared.2

/-- Presenting is preparing and then calls. -/
theorem present_eq (follows : Follows host options slots decision encoder)
    (shared : options.independentRegionQuantization = false) (split : SplitFrame) :
    split.present host encoder =
      split.calls.foldl (EncodeCall.apply host split.frame) (encoder.prepare host split.frame) := by
  unfold SplitFrame.present
  rw [begin_eq (by rw [follows.options, shared]) split]

theorem present (follows : Follows host options slots decision encoder)
    (adaptive : options.useAdaptivePalette = true)
    (shared : options.independentRegionQuantization = false) (split : SplitFrame) :
    Follows host options slots (decision.next host options split.frame)
      (split.present host encoder) := by
  have prepared := (follows.prepare adaptive split.frame).1
  rw [follows.present_eq shared]
  exact prepared.untouched (follows.calls_untouched adaptive shared split.frame split.calls)

end Follows

/-! ### Runs -/

namespace Decision

variable {host : Host} {options : SixelOptions} {decision : Decision}

theorem after_snoc (frames : List Frame) (frame : Frame) :
    after host options (frames ++ [frame]) = (after host options frames).next host options frame :=
  List.foldl_append

/-- The age stays within the lock. -/
structure Locked (options : SixelOptions) (decision : Decision) : Prop where
  nonneg : 0 ≤ decision.age
  le : decision.age ≤ max 0 options.adaptivePaletteLockFrames

theorem lt_of_keeps {view : FrameView} (keeps : decision.rebuilds host options view = false) :
    decision.age < options.adaptivePaletteLockFrames := by
  unfold rebuilds at keeps
  cases built : decision.source with
  | none =>
      rw [built] at keeps
      cases keeps
  | some source =>
      rw [built, Bool.or_eq_false_iff, decide_eq_false_iff_not] at keeps
      exact lt_of_not_ge keeps.1

theorem Locked.next (locked : decision.Locked options) (frame : Frame) :
    (decision.next host options frame).Locked options := by
  unfold Decision.next
  cases frame with
  | indexed view => exact locked
  | packed view =>
      dsimp only
      split_ifs with valid rebuilt
      · exact ⟨le_refl 0, le_max_left 0 _⟩
      · have keeps := lt_of_keeps (Bool.eq_false_iff.mpr rebuilt)
        have nonneg := locked.nonneg
        refine ⟨?_, ?_⟩
        · dsimp only
          omega
        · dsimp only
          omega
      · exact locked

theorem locked_after (frames : List Frame) : (after host options frames).Locked options := by
  induction frames using List.reverseRecOn with
  | nil => exact ⟨le_refl 0, le_max_left 0 _⟩
  | append_singleton frames frame inductionHypothesis =>
      rw [after_snoc]
      exact inductionHypothesis.next frame

theorem next_source (frame : Frame) :
    (decision.next host options frame).source = none ↔
      decision.source = none ∧ ∀ view, frame = .packed view → view.isValid = false := by
  unfold Decision.next
  cases frame with
  | indexed view => simp
  | packed view =>
      dsimp only
      split_ifs with valid rebuilt
      · simp [valid]
      · constructor
        · intro none
          have rebuilds : decision.rebuilds host options view = true := by
            rw [rebuilds, none]
          exact absurd rebuilds rebuilt
        · exact fun holds => holds.1
      · simp [valid]

/-- A palette is held once a valid packed frame has come. -/
theorem source_after (frames : List Frame) :
    (after host options frames).source = none ↔
      ∀ view, Frame.packed view ∈ frames → view.isValid = false := by
  induction frames using List.reverseRecOn with
  | nil =>
      constructor
      · intro _ view member
        exact absurd member List.not_mem_nil
      · intro _
        rfl
  | append_singleton frames frame inductionHypothesis =>
      rw [after_snoc, next_source, inductionHypothesis]
      constructor
      · rintro ⟨earlier, last⟩ view member
        rcases List.mem_append.mp member with member | member
        · exact earlier view member
        · exact last view (List.mem_singleton.mp member).symm
      · intro every
        refine ⟨fun view member => every view (List.mem_append_left _ member), ?_⟩
        rintro view rfl
        exact every view (List.mem_append_right _ (List.mem_singleton.mpr rfl))

end Decision

theorem framesSinceReset_snoc (events : List EncoderEvent) (event : EncoderEvent) :
    framesSinceReset (events ++ [event]) =
      match event with
      | .frame split => framesSinceReset events ++ [split.frame]
      | .reset => [] :=
  List.foldl_append

/-- After every run the encoder holds the decision of the frames since the last reset. -/
theorem follows_run (host : Host) {options : SixelOptions} (scratch : Scratch)
    (adaptive : options.useAdaptivePalette = true)
    (shared : options.independentRegionQuantization = false) (events : List EncoderEvent) :
    Follows host options.clamped options.activeColorSlots
      (Decision.after host options.clamped (framesSinceReset events))
      (events.foldl (EncoderEvent.apply host) (VideoSixelEncoder.create host options scratch)) := by
  induction events using List.reverseRecOn with
  | nil => exact ⟨rfl, rfl, rfl, rfl, rfl, fun _ impossible => by cases impossible⟩
  | append_singleton events event inductionHypothesis =>
      rw [List.foldl_append, framesSinceReset_snoc]
      cases event with
      | frame split =>
          dsimp only
          rw [Decision.after_snoc]
          exact inductionHypothesis.present adaptive shared split
      | reset => exact inductionHypothesis.reset

/-! ### Results -/

/-- Equal decisions, and equal palettes where a palette is held. -/
structure SameDecision (left right : VideoSixelEncoder) : Prop where
  has : left.hasAdaptivePalette = right.hasAdaptivePalette
  age : left.paletteAge = right.paletteAge
  hasHistogram : left.colorMapper.hasHistogram = right.colorMapper.hasHistogram
  palette : left.hasAdaptivePalette = true →
    left.colorMapper.SamePalette right.colorMapper ∧
      left.colorMapper.previousHistogram = right.colorMapper.previousHistogram

/-- The palette of the frame, as the adaptive palette from now on. -/
structure Rebuilt (host : Host) (view : FrameView) (after : VideoSixelEncoder) : Prop where
  has : after.hasAdaptivePalette = true
  age : after.paletteAge = 0
  palette : after.colorMapper.SamePalette
    (LogicalFrame.paletteOf host after.colorMapper.maxColors view)
  histogram : after.colorMapper.previousHistogram = (analysisOf view).luminanceHistogram

/-- The mapper is as it was, palette and histogram included. -/
structure Kept (passed : Int) (before after : VideoSixelEncoder) : Prop where
  has : after.hasAdaptivePalette = before.hasAdaptivePalette
  age : after.paletteAge = before.paletteAge + passed
  colorMapper : after.colorMapper = before.colorMapper

/-- The first packed frame since the reset, an age that has reached the lock interval, or a
scene cut. -/
def RebuildDue (host : Host) (options : SixelOptions) (earlier : List Frame)
    (encoder : VideoSixelEncoder) (view : FrameView) : Prop :=
  (∀ other, .packed other ∈ earlier → other.isValid = false) ∨
    encoder.paletteAge ≥ options.adaptivePaletteLockFrames ∨
    host.histogramDistance (analysisOf view).luminanceHistogram
      encoder.colorMapper.previousHistogram ≥ options.sceneCutThreshold

/-- Each call of the frame maps through the palette that is left after the frame. -/
def OnePalette (host : Host) (encoder : VideoSixelEncoder) (split : SplitFrame) : Prop :=
  ∀ before call after, split.calls = before ++ call :: after → ∀ mapper,
    call.mapper host split.frame
        (before.foldl (EncodeCall.apply host split.frame) (split.begin host encoder)) =
      some mapper →
    mapper = (split.present host encoder).colorMapper

/-- None of the frames rebuilds the palette. -/
def KeepsPalette (host : Host) (encoder : VideoSixelEncoder) : List SplitFrame → Prop
  | [] => True
  | split :: rest =>
      (∀ view, split.packed? = some view →
        encoder.mustRebuild host (encoder.analyzer.analyzeFrameFast view) = false) ∧
      KeepsPalette host (split.present host encoder) rest

theorem SplitFrame.packed?_eq_some {split : SplitFrame} {view : FrameView} :
    split.packed? = some view ↔ split.frame = .packed view ∧ view.isValid = true := by
  unfold SplitFrame.packed?
  cases split.frame with
  | indexed other => simp
  | packed other =>
      dsimp only
      split_ifs with valid
      · constructor
        · intro same
          cases same
          exact ⟨rfl, valid⟩
        · rintro ⟨same, -⟩
          cases same
          rfl
      · constructor
        · intro impossible
          cases impossible
        · rintro ⟨same, otherValid⟩
          cases same
          exact absurd otherValid valid

namespace Follows

variable {host : Host} {options : SixelOptions} {slots : Nat} {decision : Decision}
  {encoder other : VideoSixelEncoder}

/-- Encoders with one decision agree, whatever else they hold. -/
theorem sameDecision (follows : Follows host options slots decision encoder)
    (followsOther : Follows host options slots decision other) : SameDecision encoder other where
  has := follows.has.trans followsOther.has.symm
  age := follows.age.trans followsOther.age.symm
  hasHistogram := follows.histogram.trans followsOther.histogram.symm
  palette := by
    intro held
    rw [follows.has, Option.isSome_iff_exists] at held
    obtain ⟨source, built⟩ := held
    obtain ⟨palette, histogram⟩ := follows.palette source built
    obtain ⟨paletteOther, histogramOther⟩ := followsOther.palette source built
    exact ⟨⟨palette.palette.trans paletteOther.palette.symm,
      palette.cached.trans paletteOther.cached.symm, palette.lookup.trans paletteOther.lookup.symm,
      palette.maxColors.trans paletteOther.maxColors.symm⟩, histogram.trans histogramOther.symm⟩

theorem onePalette (follows : Follows host options slots decision encoder)
    (adaptive : options.useAdaptivePalette = true)
    (shared : options.independentRegionQuantization = false) (split : SplitFrame) :
    OnePalette host encoder split := by
  intro before call after calls mapper mapped
  have begun : split.begin host encoder = encoder.prepare host split.frame :=
    begin_eq (by rw [follows.options, shared]) split
  obtain ⟨prepared, ready⟩ := follows.prepare adaptive split.frame
  have kept := follows.calls_untouched adaptive shared split.frame
  rw [begun] at mapped
  have through := EncodeCall.mapper_eq
    (by rw [(kept before).options, prepared.options, adaptive])
    (fun view packed valid => (kept before).prepared.trans (ready view packed valid)) mapped
  rw [through, follows.present_eq shared, (kept before).colorMapper,
    (kept split.calls).colorMapper]

/-- The decision with the next frame, at the encoder. -/
theorem mustRebuild_iff (follows : Follows host options slots decision encoder)
    {earlier : List Frame} (decided : decision = Decision.after host options earlier)
    (analyzer : FastColorAnalyzer) (view : FrameView) :
    encoder.mustRebuild host (analyzer.analyzeFrameFast view) = true ↔
      RebuildDue host options earlier encoder view := by
  have source : decision.source = none ↔
      ∀ view, Frame.packed view ∈ earlier → view.isValid = false := by
    rw [decided]
    exact Decision.source_after earlier
  rw [follows.mustRebuild]
  unfold Decision.rebuilds RebuildDue
  rw [← source, follows.age]
  cases built : decision.source with
  | none => simp
  | some frame =>
      rw [(follows.palette frame built).2]
      simp

/-- Encoding leaves the mapper as it was prepared. -/
theorem colorMapper_present (follows : Follows host options slots decision encoder)
    (adaptive : options.useAdaptivePalette = true)
    (shared : options.independentRegionQuantization = false) (split : SplitFrame) :
    (split.present host encoder).colorMapper = (encoder.prepare host split.frame).colorMapper := by
  rw [follows.present_eq shared]
  exact (follows.calls_untouched adaptive shared split.frame split.calls).colorMapper

theorem rebuilt (follows : Follows host options slots decision encoder)
    (adaptive : options.useAdaptivePalette = true)
    (shared : options.independentRegionQuantization = false) {split : SplitFrame} {view : FrameView}
    (packed : split.packed? = some view) (rebuilds : decision.rebuilds host options view = true) :
    Rebuilt host view (split.present host encoder) := by
  obtain ⟨same, valid⟩ := SplitFrame.packed?_eq_some.mp packed
  have presented := follows.present adaptive shared split
  have decided : decision.next host options split.frame = { source := some view } := by
    rw [same, Decision.next, if_pos valid, if_pos rebuilds]
  rw [decided] at presented
  obtain ⟨palette, histogram⟩ := presented.palette view rfl
  refine ⟨presented.has, presented.age, ?_, histogram⟩
  rw [presented.maxColors]
  exact palette

theorem kept (follows : Follows host options slots decision encoder)
    (adaptive : options.useAdaptivePalette = true)
    (shared : options.independentRegionQuantization = false) {split : SplitFrame} {view : FrameView}
    (packed : split.packed? = some view) (keeps : decision.rebuilds host options view = false) :
    Kept 1 encoder (split.present host encoder) := by
  obtain ⟨same, valid⟩ := SplitFrame.packed?_eq_some.mp packed
  have presented := follows.present adaptive shared split
  have decided : decision.next host options split.frame =
      { decision with age := decision.age + 1 } := by
    rw [same, Decision.next, if_pos valid, if_neg (Bool.eq_false_iff.mp keeps)]
  rw [decided] at presented
  refine ⟨presented.has.trans follows.has.symm, ?_, ?_⟩
  · rw [presented.age, follows.age]
  · have enabled : encoder.options.useAdaptivePalette = true := by rw [follows.options, adaptive]
    obtain ⟨-, -, -, mapper⟩ := VideoSixelEncoder.prepareFrame_spec host enabled valid
    rw [follows.mustRebuild, keeps, if_neg Bool.false_ne_true] at mapper
    rw [follows.colorMapper_present adaptive shared, same]
    exact mapper

/-- An indexed frame, and one that is turned away, changes nothing. -/
theorem kept_of_none (follows : Follows host options slots decision encoder)
    (adaptive : options.useAdaptivePalette = true)
    (shared : options.independentRegionQuantization = false) {split : SplitFrame}
    (packed : split.packed? = none) : Kept 0 encoder (split.present host encoder) := by
  have presented := follows.present adaptive shared split
  have decided : decision.next host options split.frame = decision := by
    unfold SplitFrame.packed? at packed
    cases frame : split.frame with
    | indexed view => rfl
    | packed view =>
        rw [frame] at packed
        dsimp only at packed
        split_ifs at packed with valid
        rw [Decision.next, if_neg valid]
  rw [decided] at presented
  refine ⟨presented.has.trans follows.has.symm, ?_, ?_⟩
  · rw [presented.age, follows.age, Int.add_zero]
  · rw [follows.colorMapper_present adaptive shared]
    have begun : encoder.beginLogicalFrame.colorMapper = encoder.colorMapper := by
      rw [VideoSixelEncoder.beginLogicalFrame_frame]
    unfold SplitFrame.packed? at packed
    cases frame : split.frame with
    | indexed view => exact begun
    | packed view =>
        rw [frame] at packed
        dsimp only at packed
        split_ifs at packed with valid
        have skipped : (!encoder.options.useAdaptivePalette || !view.isValid) = true := by
          rw [Bool.eq_false_iff.mpr valid, Bool.not_false, Bool.or_true]
        change (encoder.prepareFrame host view).colorMapper = _
        unfold VideoSixelEncoder.prepareFrame
        rw [if_pos skipped]
        exact begun

/-- A palette that is kept ages with every packed frame. -/
theorem count_le (follows : Follows host options slots decision encoder)
    (adaptive : options.useAdaptivePalette = true)
    (shared : options.independentRegionQuantization = false) (locked : decision.Locked options)
    {stretch : List SplitFrame} (keeps : KeepsPalette host encoder stretch) :
    ((stretch.filterMap SplitFrame.packed?).length : Int) + decision.age ≤
      max 0 options.adaptivePaletteLockFrames := by
  induction stretch generalizing encoder decision with
  | nil =>
      have bound := locked.le
      simpa using bound
  | cons split rest inductionHypothesis =>
      have presented := follows.present adaptive shared split
      have bound := inductionHypothesis presented (locked.next split.frame) keeps.2
      cases packed : split.packed? with
      | none =>
          have decided := (follows.kept_of_none adaptive shared packed).age
          rw [presented.age, follows.age] at decided
          rw [List.filterMap_cons_none packed]
          omega
      | some view =>
          have keep := keeps.1 view packed
          rw [follows.mustRebuild] at keep
          have decided := (follows.kept adaptive shared packed keep).age
          rw [presented.age, follows.age] at decided
          rw [List.filterMap_cons_some packed, List.length_cons]
          push_cast
          omega

end Follows

/-- What the next frames do to the palette of an encoder that has seen some frames. -/
structure DecidesPerFrame (host : Host) (options : SixelOptions) (earlier : List Frame)
    (encoder : VideoSixelEncoder) : Prop where
  held : encoder.hasAdaptivePalette = true ↔
    ∃ view, .packed view ∈ earlier ∧ view.isValid = true
  onePalette : ∀ split, OnePalette host encoder split
  rebuilt : ∀ (split : SplitFrame) view, split.packed? = some view →
    RebuildDue host options earlier encoder view → Rebuilt host view (split.present host encoder)
  kept : ∀ (split : SplitFrame) view, split.packed? = some view →
    ¬ RebuildDue host options earlier encoder view → Kept 1 encoder (split.present host encoder)
  untouched : ∀ split : SplitFrame, split.packed? = none →
    Kept 0 encoder (split.present host encoder)
  served : ∀ (split : SplitFrame) view stretch, split.packed? = some view →
    KeepsPalette host (split.present host encoder) stretch →
      (((split :: stretch).filterMap SplitFrame.packed?).length : Int) ≤
        max 0 options.adaptivePaletteLockFrames + 1

theorem Follows.decidesPerFrame {host : Host} {options : SixelOptions} {slots : Nat}
    {earlier : List Frame} {encoder : VideoSixelEncoder}
    (follows : Follows host options slots (Decision.after host options earlier) encoder)
    (adaptive : options.useAdaptivePalette = true)
    (shared : options.independentRegionQuantization = false) :
    DecidesPerFrame host options earlier encoder where
  held := by
    rw [follows.has, Option.isSome_iff_ne_none, Ne, Decision.source_after]
    simp
  onePalette := fun split => follows.onePalette adaptive shared split
  rebuilt := by
    intro split view packed due
    apply follows.rebuilt adaptive shared packed
    rw [← follows.mustRebuild {} view]
    exact (follows.mustRebuild_iff rfl {} view).mpr due
  kept := by
    intro split view packed notDue
    apply follows.kept adaptive shared packed
    rw [← follows.mustRebuild {} view, Bool.eq_false_iff]
    exact fun rebuilds => notDue ((follows.mustRebuild_iff rfl {} view).mp rebuilds)
  untouched := fun split packed => follows.kept_of_none adaptive shared packed
  served := by
    intro split view stretch packed keeps
    have presented := follows.present adaptive shared split
    have locked : ((Decision.after host options earlier).next host options split.frame).Locked
        options :=
      (Decision.locked_after earlier).next split.frame
    have bound := presented.count_le adaptive shared locked keeps
    have nonneg := locked.nonneg
    rw [List.filterMap_cons_some packed, List.length_cons]
    push_cast
    omega

/-- The palette decisions after each frame depend on the frames since the last reset, not on
how they were split or on what came before; a frame has one palette; a packed frame rebuilds
it exactly when it is due, no other frame does; and a palette serves at most one packed frame
more than the lock interval. -/
theorem decisions_per_frame (host : Host) (options : SixelOptions)
    (adaptive : options.useAdaptivePalette = true)
    (shared : options.independentRegionQuantization = false) :
    (∀ scratch otherScratch events others, framesSinceReset events = framesSinceReset others →
      SameDecision
        (events.foldl (EncoderEvent.apply host) (VideoSixelEncoder.create host options scratch))
        (others.foldl (EncoderEvent.apply host)
          (VideoSixelEncoder.create host options otherScratch))) ∧
    ∀ scratch events, DecidesPerFrame host options (framesSinceReset events)
      (events.foldl (EncoderEvent.apply host)
        (VideoSixelEncoder.create host options scratch)) := by
  constructor
  · intro scratch otherScratch events others same
    have follows := follows_run host scratch adaptive shared events
    rw [same] at follows
    exact follows.sameDecision (follows_run host otherScratch adaptive shared others)
  · intro scratch events
    have decides := (follows_run host scratch adaptive shared events).decidesPerFrame adaptive shared
    exact ⟨decides.held, decides.onePalette, decides.rebuilt, decides.kept, decides.untouched,
      decides.served⟩

/-- The row in full, and a pixel at a time. -/
theorem decisions_per_frame_pixels :
    SameDecision
      ([EncoderEvent.frame ⟨.packed (LogicalFrame.darkRow true), false, [.encodeFrame]⟩].foldl
        (EncoderEvent.apply Host.plain) (.create Host.plain { useAdaptivePalette := true } {}))
      ([EncoderEvent.reset, .frame ⟨.packed (LogicalFrame.darkRow true), true,
          [.prepareRegion ⟨0, 0, 1, 1⟩, .encodeRegion ⟨0, 0, 1, 1⟩, .encodeRegion ⟨12, 0, 1, 1⟩]⟩].foldl
        (EncoderEvent.apply Host.plain) (.create Host.plain { useAdaptivePalette := true } {})) :=
  (decisions_per_frame Host.plain { useAdaptivePalette := true } rfl rfl).1 {} {} _ _ rfl

/-- The row in full, then a reset and an indexed frame. -/
def rowThenReset (lastIsGreen : Bool) : List EncoderEvent :=
  [.frame ⟨.packed (LogicalFrame.darkRow lastIsGreen), false, [.encodeFrame]⟩, .reset,
    .frame ⟨.indexed .stripes, false, [.encodeFrame]⟩]

/-- A palette out of use stays where it was: until a packed frame comes, it tells what came
before the reset. -/
theorem stale_after_reset :
    ¬ ∀ (host : Host) (options : SixelOptions) (scratch : Scratch),
      options.useAdaptivePalette = true → options.independentRegionQuantization = false →
        ∀ events others, framesSinceReset events = framesSinceReset others →
          (events.foldl (EncoderEvent.apply host)
              (VideoSixelEncoder.create host options scratch)).colorMapper.palette =
            (others.foldl (EncoderEvent.apply host)
              (VideoSixelEncoder.create host options scratch)).colorMapper.palette := by
  intro depends
  have same := depends Host.plain { useAdaptivePalette := true } {} rfl rfl (rowThenReset false)
    (rowThenReset true) rfl
  have differs :
      ((rowThenReset false).foldl (EncoderEvent.apply Host.plain)
          (.create Host.plain { useAdaptivePalette := true } {})).colorMapper.palette ≠
        ((rowThenReset true).foldl (EncoderEvent.apply Host.plain)
          (.create Host.plain { useAdaptivePalette := true } {})).colorMapper.palette := by
    decide +kernel
  exact differs same

end Rasterm
