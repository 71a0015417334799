import Rasterm.Engine.Display
import Rasterm.Presenter.Delivery
import Rasterm.Presenter.Invalidation

/-!
Contract: from a submission to the screen. A running Presenter over its engine, the engine over
its renderer: after every render without an error, and whenever the Presenter is idle, the
screen shows the submission it should.

Owns the colour a pixel of a submission is displayed with, the engine's part (a frame that needs
no conversion reaches the renderer as it is, also when the terminal has been resized), and the
invariant that ties the mailbox, the frames handed over and the screen together.

Does not own colour conversion and persistent registers.
-/

set_option autoImplicit false

namespace Rasterm

open ColorConverter History ScreenEvent Sixel

/-! ### Colours of submissions -/

/-- The colour of what a frame holds at one pixel. -/
def texelColor (host : Host) (options : SixelOptions) : Texel → Percent
  | .packed format bytes =>
      let encoder := VideoSixelEncoder.create host options {}
      encoder.fixedColors (encoder.fastColorMapper.register
        (readPixel (fun index => bytes.getD index 0) (pixelLayout format)))
  | .indexed index palette => colorPercent (palette.getD index.toNat {})

theorem texelColor_texel (host : Host) {options : SixelOptions} {frame : Frame}
    (plain : Plain options frame) (valid : frame.isValid = true) (x y : Nat) :
    texelColor host options (frame.texel x y) = shownColor host options frame x y := by
  have listed := (Frame.geometry_of_isValid valid).bytesPerPixel_pos
  cases frame with
  | packed view =>
      have undithered : (VideoSixelEncoder.create host options {}).options.dither = .none :=
        (plain rfl).2
      rw [shownColor, VideoSixelEncoder.pixelColor_packed host undithered]
      have same : readPixel (fun index =>
          ((List.range (bytesPerPixel view.format)).map (view.pixel x y)).getD index 0)
          (pixelLayout view.format) = view.channels x y := by
        apply readPixel_congr
        intro index inside
        rw [pixelStride_pixelLayout (Nat.pos_iff_ne_zero.mp listed)] at inside
        simp [inside]
      simp only [Frame.texel, texelColor, same]
  | indexed view => rfl

/-- Copies have the same colours. -/
theorem shownColor_of_copies (host : Host) {options : SixelOptions} {frame original : Frame}
    (copies : frame.Copies original) (plain : Plain options original)
    (valid : frame.isValid = true) (originalValid : original.isValid = true) {x y : Nat}
    (xInside : x < original.width.toNat) (yInside : y < original.height.toNat) :
    shownColor host options frame x y =
      shownColor host options original x y := by
  have framePlain : Plain options frame := fun packed =>
    plain (copies.kind.symm.trans packed)
  rw [← texelColor_texel host framePlain valid, ← texelColor_texel host plain originalValid,
    copies.texel x xInside y yInside]

theorem Screen.Shows.of_copies {host : Host} {options : SixelOptions} {frame original : Frame}
    {screen : Screen} (shows : screen.Shows host options frame)
    (copies : frame.Copies original) (plain : Plain options original)
    (valid : frame.isValid = true) (originalValid : original.isValid = true) :
    screen.Shows host options original := by
  intro x xInside y yInside
  rw [← shownColor_of_copies host copies plain valid originalValid xInside yInside]
  exact shows x (copies.width ▸ xInside) y (copies.height ▸ yInside)

/-! ### The engine -/

namespace Engine

variable {host : Host} {options : RendererOptions} {start : Screen} {engine : Engine}
  {last : Option Frame} {observed : TerminalGeometry}

/-- A frame that was handed over and passes validation is presented. -/
theorem presents_present {handed : Handed}
    (displayed : engine.renderer.Displayed host options start last)
    (persists : options.sixel.persistPaletteRegisters = false)
    (readable : handed.frame.isReadable = true)
    (metadata : validMetadata handed.frame.metadata = true)
    (plain : Plain options.sixel handed.frame)
    (kept : handed.frame.isIndexed = false →
      bypasses engine.options.color handed.frame.metadata.color = true)
    (covers : Renderer.CoversChanges host options.sixel last handed.frame) :
    engine.Presents host options start handed.frame
      ((Engine.calls host).present observed handed engine) := by
  have refreshed := @displayed_refreshTerminalGeometry host options start engine last observed
    displayed persists
  have answers := refreshed.renderFrame persists readable plain covers
  have valid := Frame.isValid_of_isReadable readable
  unfold EngineCalls.present
  cases place : handed.frame with
  | packed view =>
      rw [place] at valid metadata kept answers
      change view.isValid = true at valid
      change validMetadata view.metadata = true at metadata
      have unchanged : ((engine.refreshTerminalGeometry observed).colorManaged host view).2 = view := by
        apply colorManaged_of_kept
        rw [options_refreshTerminalGeometry]
        exact kept rfl
      have same : ((engine.refreshTerminalGeometry observed).colorManaged host view).1.options =
          engine.options := by simp [colorManaged]
      change engine.Presents host options start (.packed view)
        (engine.renderPackedFrame host observed view)
      rw [renderPackedFrame, if_neg (by simp [valid, metadata])]
      simp only [unchanged, renderer_colorManaged]
      exact presents_record same answers _ _ _
  | indexed view =>
      rw [place] at readable valid metadata answers
      change view.hasValidIndices = true at readable
      change view.isValid = true at valid
      change validMetadata view.metadata = true at metadata
      have validated : engine.Presents host options start (.indexed view)
          (engine.renderValidatedIndexedFrame host observed view) := by
        rw [renderValidatedIndexedFrame, if_neg (by simp [valid, metadata])]
        exact presents_record options_refreshTerminalGeometry answers _ _ _
      have checked : engine.Presents host options start (.indexed view)
          (engine.renderFrame host observed (.indexed view)) := by
        change engine.Presents host options start (.indexed view)
          (engine.renderIndexedFrame host observed view)
        rw [renderIndexedFrame, if_neg (by simp [readable, metadata])]
        exact validated
      split_ifs
      · exact validated
      · exact checked

end Engine

/-! ### Submissions on their way -/

/-- The engine presents the frame without converting its colours. -/
structure Presentable (settings : ColorOptions) (options : SixelOptions) (frame : Frame) :
    Prop where
  plain : Plain options frame
  color : validColorMetadata frame.metadata.color = true
  sourceColor : validColorMetadata frame.metadata.sourceColor = true
  kept : frame.isIndexed = false → bypasses settings frame.metadata.color = true

section Presentable

variable {settings : ColorOptions} {options : SixelOptions} {frame original : Frame}

theorem Presentable.copies (presentable : Presentable settings options original)
    (copies : frame.Copies original) : Presentable settings options frame := by
  have sameColor := congrArg FrameMetadata.color copies.metadata
  have sameSource := congrArg FrameMetadata.sourceColor copies.metadata
  simp only at sameColor sameSource
  constructor
  · exact fun packed => presentable.plain (copies.kind.symm.trans packed)
  · rw [sameColor]
    exact presentable.color
  · rw [sameSource]
    exact presentable.sourceColor
  · intro packed
    rw [sameColor]
    exact presentable.kept (copies.kind.symm.trans packed)

theorem Presentable.validMetadata (presentable : Presentable settings options frame)
    (valid : frame.isValid = true) : Rasterm.validMetadata frame.metadata = true := by
  rw [validMetadata_of_isValid valid, presentable.color, presentable.sourceColor, Bool.and_self]

/-- Accepted submissions are presentable. -/
def SubmittedPresentable (settings : ColorOptions) (options : SixelOptions) (entry : Entry)
    (_ : List Entry) : Prop :=
  match entry with
  | .accepted submission => Presentable settings options submission.frame
  | _ => True

theorem presentable_of_puts {log : List Entry}
    (presentable : Everywhere (SubmittedPresentable settings options) log) :
    ∀ submission ∈ Mailbox.puts (mailboxHistory log),
      Presentable settings options submission.frame := by
  induction log with
  | nil => exact fun _ member => absurd member List.not_mem_nil
  | cons entry older inductionHypothesis =>
      obtain ⟨here, earlier⟩ := everywhere_cons.mp presentable
      have rest := inductionHypothesis earlier
      intro submission member
      cases entry with
      | accepted first =>
          rcases List.mem_cons.mp member with rfl | later
          · exact here
          · exact rest submission later
      | handed handed => exact rest submission member
      | finished stats => exact rest submission member
      | cancelled => exact rest submission member
      | invalidated => exact rest submission member
      | resetStarted => exact rest submission member
      | resetExecuted => exact rest submission member
      | drained completed => exact rest submission member

/-- True damage between frames is what the renderer asks for. -/
theorem coversChanges_of_look {host : Host} {previous : Frame}
    (covers : frame.metadata.damage.supplied = true →
      CoversChanges (texelColor host options) frame.metadata.damage.rects previous frame)
    (plain : Plain options frame) (previousPlain : Plain options previous)
    (valid : frame.isValid = true) (previousValid : previous.isValid = true) :
    Renderer.CoversChanges host options (some previous) frame := by
  intro supplied other same representation x xInside y yInside differs
  cases same
  apply covers supplied representation.width.symm representation.height.symm x xInside y yInside
  rw [texelColor_texel host previousPlain previousValid, texelColor_texel host plain valid]
  exact differs

end Presentable

theorem lastHanded_eq (log : List Entry) :
    lastHanded log = (System.handedFrames log).head? := by
  induction log with
  | nil => rfl
  | cons entry older inductionHypothesis =>
      cases entry with
      | handed handed => rfl
      | accepted submission => exact inductionHypothesis
      | finished stats => exact inductionHypothesis
      | cancelled => exact inductionHypothesis
      | invalidated => exact inductionHypothesis
      | resetStarted => exact inductionHypothesis
      | resetExecuted => exact inductionHypothesis
      | drained completed => exact inductionHypothesis

/-- The damage of the frame handed over last, against the frame handed over before it. -/
theorem covers_of_handedFrames {look : Texel → Percent} {log : List Entry} {handed : Handed}
    {older : List Handed} (everywhere : Everywhere (HandedWithChanges look) log)
    (split : System.handedFrames log = handed :: older)
    (supplied : handed.frame.metadata.damage.supplied = true) :
    ∀ previous ∈ older.head?,
      CoversChanges look handed.frame.metadata.damage.rects previous.frame handed.frame := by
  induction log with
  | nil => cases split
  | cons entry earlier inductionHypothesis =>
      obtain ⟨here, rest⟩ := everywhere_cons.mp everywhere
      cases entry with
      | handed first =>
          change first :: System.handedFrames earlier = handed :: older at split
          obtain ⟨rfl, rfl⟩ := List.cons.inj split
          intro previous before
          apply here supplied previous
          rw [lastHanded_eq]
          exact before
      | accepted submission => exact inductionHypothesis rest split
      | finished stats => exact inductionHypothesis rest split
      | cancelled => exact inductionHypothesis rest split
      | invalidated => exact inductionHypothesis rest split
      | resetStarted => exact inductionHypothesis rest split
      | resetExecuted => exact inductionHypothesis rest split
      | drained completed => exact inductionHypothesis rest split

/-! ### The system -/

theorem Presenter.Accepted.latestRender {before after : Presenter} {submission : Submission}
    (accepted : before.Accepted submission after) :
    after.statistics.latestRender = before.statistics.latestRender := by
  rw [accepted.rest]
  change before.countReplaced.statistics.latestRender = _
  unfold Presenter.countReplaced
  split_ifs <;> rfl

theorem Presenter.latestRender_finish (presenter : Presenter) (rendered : RenderStats)
    (engineStatus : Status) :
    (presenter.finish rendered engineStatus).statistics.latestRender = rendered := by
  unfold finish
  simp only
  split_ifs <;> rfl

namespace System

variable {host : Host} {options : RendererOptions} {begun : Screen} {settings : EngineOptions}
  {system next start final : System Engine} {label : Label TerminalGeometry}
  {labels : List (Label TerminalGeometry)}

/-- The frames the engine has been called with, newest first. -/
def presentedFrames (system : System Engine) : List Handed :=
  match system.phase with
  | .rendering _ => (handedFrames system.log).tail
  | _ => handedFrames system.log

/-- The error of the last render. -/
def lastError (system : System Engine) : ErrorCode :=
  match system.phase with
  | .rendered stats => stats.error
  | _ => system.presenter.statistics.latestRender.error

/-- The screen keeps up with the frames the engine has been called with. -/
structure Follows (host : Host) (options : RendererOptions) (begun : Screen)
    (settings : EngineOptions) (system : System Engine) : Prop where
  engineOptions : system.device.options = settings
  inHand : ∀ handed, system.phase = .rendering handed →
    (handedFrames system.log).head? = some handed
  displayed : system.device.renderer.Displayed host options begun
    (system.presentedFrames.head?.map Handed.frame)
  shows : system.lastError = .none → ∀ handed ∈ system.presentedFrames.head?, ∀ screen,
    Reaches system.device.renderer.terminal.screen begun screen →
      screen.Shows host options.sixel handed.frame

/-- A step that neither calls the engine nor takes a frame from it. -/
theorem Follows.unrendered (follows : system.Follows host options begun settings)
    (device : next.device = system.device)
    (frames : next.presentedFrames = system.presentedFrames)
    (error : next.lastError = system.lastError)
    (inHand : ∀ handed, next.phase = .rendering handed →
      (handedFrames next.log).head? = some handed) :
    next.Follows host options begun settings where
  engineOptions := by
    rw [device]
    exact follows.engineOptions
  inHand := inHand
  displayed := by
    rw [device, frames]
    exact follows.displayed
  shows := by
    rw [device, frames, error]
    exact follows.shows

theorem Follows.handOver (follows : system.Follows host options begun settings)
    (sleeping : system.phase = .waiting ∨ system.phase = .rateLimited) :
    system.handOver.Follows host options begun settings := by
  apply follows.unrendered
  · rfl
  · rcases sleeping with sleeping | sleeping <;>
      simp only [presentedFrames, sleeping] <;> rfl
  · rcases sleeping with sleeping | sleeping <;>
      simp only [lastError, sleeping] <;> rfl
  · intro handed rendering
    obtain rfl : system.presenter.consume.2 = handed := Phase.rendering.inj rendering
    rfl

/-- What is promised of the submissions accepted so far. -/
structure Promised (host : Host) (options : SixelOptions) (settings : ColorOptions)
    (log : List Entry) : Prop where
  truly : Everywhere (SuppliedTruly (texelColor host options)) log
  presentable : Everywhere (SubmittedPresentable settings options) log

theorem Promised.of_append {sixel : SixelOptions} {color : ColorOptions}
    {newer older : List Entry} (promised : Promised host sixel color (newer ++ older)) :
    Promised host sixel color older :=
  ⟨promised.truly.of_append, promised.presentable.of_append⟩

/-- Every frame handed over can be presented as it is. -/
theorem presentable_of_handed {sixel : SixelOptions} {color : ColorOptions}
    (handedAs : Everywhere HandedAsSubmitted system.log)
    (promised : Promised host sixel color system.log) :
    ∀ handed ∈ handedFrames system.log, Presentable color sixel handed.frame := by
  intro handed member
  obtain ⟨submission, accepted, carried⟩ := submitted_of_handed handedAs handed member
  exact (presentable_of_puts promised.presentable submission accepted).copies carried.copies

/-- The call of the engine. -/
theorem Follows.rendered {handed : Handed} (follows : system.Follows host options begun settings)
    (persists : options.sixel.persistPaletteRegisters = false)
    (handedAs : Everywhere HandedAsSubmitted system.log) (delivers : system.Delivers)
    (changes : Everywhere (HandedWithChanges (texelColor host options.sixel)) system.log)
    (promised : Promised host options.sixel settings.color system.log)
    (rendering : system.phase = .rendering handed) (observed : TerminalGeometry) :
    ({ system with
        device := ((Engine.calls host).present observed handed system.device).1
        phase := .rendered ((Engine.calls host).present observed handed system.device).2 } :
      System Engine).Follows host options begun settings := by
  obtain ⟨older, split⟩ : ∃ older, handedFrames system.log = handed :: older :=
    List.head?_eq_some_iff.mp (follows.inHand handed rendering)
  have member : handed ∈ handedFrames system.log := split ▸ List.mem_cons_self
  have presentable := presentable_of_handed handedAs promised
  have readable := delivers.handed handed member
  have valid := Frame.isValid_of_isReadable readable
  have before : system.presentedFrames = older := by
    simp only [presentedFrames, rendering, split, List.tail_cons]
  have displayed := follows.displayed
  rw [before] at displayed
  have covers : Renderer.CoversChanges host options.sixel (older.head?.map Handed.frame)
      handed.frame := by
    cases first : older.head? with
    | none => exact fun _ _ none => by cases none
    | some previous =>
        have earlier : previous ∈ handedFrames system.log := by
          rw [split]
          exact List.mem_cons_of_mem _ (List.mem_of_mem_head? first)
        refine coversChanges_of_look
          (fun supplied => covers_of_handedFrames changes split supplied previous first)
          (presentable handed member).plain (presentable previous earlier).plain valid
          (Frame.isValid_of_isReadable (delivers.handed previous earlier))
  have presents := @Engine.presents_present host options begun system.device _ observed handed
    displayed persists readable ((presentable handed member).validMetadata valid)
    (presentable handed member).plain
    (by
      rw [follows.engineOptions]
      exact (presentable handed member).kept) covers
  have now : (handedFrames system.log).head? = some handed := follows.inHand handed rendering
  constructor
  · exact presents.engineOptions.trans follows.engineOptions
  · exact fun other same => by cases same
  · change Renderer.Displayed host options begun _ ((handedFrames system.log).head?.map Handed.frame)
    rw [now]
    exact presents.displayed
  · intro succeeded other newest screen reaches
    change (handedFrames system.log).head? = some other at newest
    obtain rfl : handed = other := Option.some.inj (now.symm.trans newest)
    exact presents.shows succeeded screen reaches

/-- A reset leaves the screen as it is. -/
theorem Follows.reset (follows : system.Follows host options begun settings)
    (persists : options.sixel.persistPaletteRegisters = false)
    (resetting : system.phase = .resetting) :
    ({ system with
        device := (Engine.calls host).reset system.device
        phase := .waiting
        log := .resetExecuted :: system.log } :
      System Engine).Follows host options begun settings := by
  have frames : system.presentedFrames = handedFrames system.log := by
    simp only [presentedFrames, resetting]
  have error : system.lastError = system.presenter.statistics.latestRender.error := by
    simp only [lastError, resetting]
  have displayed := follows.displayed
  have shows := follows.shows
  rw [frames] at displayed shows
  rw [error] at shows
  constructor
  · exact follows.engineOptions
  · exact fun handed rendering => by cases rendering
  · exact @Renderer.Displayed.perform host options begun _ _ displayed persists .reset trivial
  · exact shows

theorem follows_move (persists : options.sixel.persistPaletteRegisters = false)
    (served : label.Serves) (mailboxed : system.Mailboxed) (delivers : system.Delivers)
    (changes : Everywhere (HandedWithChanges (texelColor host options.sixel)) system.log)
    (promised : Promised host options.sixel settings.color system.log)
    (move : Move (Engine.calls host) system label next)
    (follows : system.Follows host options begun settings) :
    next.Follows host options begun settings := by
  have inHand := follows.inHand
  cases move with
  | @accepted heap submission after entered accepted =>
      refine follows.unrendered rfl rfl ?_ inHand
      simp only [lastError]
      rw [accepted.latestRender]
  | interrupted failed interrupted => exact absurd failed served.not_fails
  | noted noted =>
      obtain ⟨rejected, status, rfl⟩ := noted
      exact follows.unrendered rfl rfl rfl inHand
  | emitted found => exact follows.unrendered rfl rfl rfl inHand
  | invalidated running going => exact follows.unrendered rfl rfl rfl inHand
  | waits running going => exact follows.unrendered rfl rfl rfl inHand
  | drained => exact follows.unrendered rfl rfl rfl inHand
  | refusedShutdown inside => exact follows.unrendered rfl rfl rfl inHand
  | cancelled outside running occupied => exact follows.unrendered rfl rfl rfl inHand
  | stopped outside running empty => exact follows.unrendered rfl rfl rfl inHand
  | stoppedAgain outside gone => exact follows.unrendered rfl rfl rfl inHand
  | joined exited asked => exact follows.unrendered rfl rfl rfl inHand
  | exited sleeping stopping =>
      refine follows.unrendered rfl ?_ ?_ fun _ rendering => by cases rendering
      · rcases sleeping with sleeping | sleeping <;> simp only [presentedFrames, sleeping]
      · rcases sleeping with sleeping | sleeping <;> simp only [lastError, sleeping]
  | resetStarted sleeping going requested =>
      refine follows.unrendered rfl ?_ ?_ fun _ rendering => by cases rendering
      · simp only [presentedFrames, sleeping]
        rfl
      · simp only [lastError, sleeping]
  | limited sleeping going fresh occupied =>
      refine follows.unrendered rfl ?_ ?_ fun _ rendering => by cases rendering
      · simp only [presentedFrames, sleeping]
      · simp only [lastError, sleeping]
  | handed sleeping going fresh occupied => exact follows.handOver (Or.inl sleeping)
  | handedLate sleeping going => exact follows.handOver (Or.inr sleeping)
  | reset resetting => exact follows.reset persists resetting
  | rendered rendering =>
      exact follows.rendered persists mailboxed.handed delivers changes promised rendering _
  | finished rendered =>
      refine follows.unrendered rfl ?_ ?_ fun _ rendering => by cases rendering
      · simp only [presentedFrames, rendered]
        rfl
      · simp only [lastError, rendered]
        exact congrArg RenderStats.error (Presenter.latestRender_finish _ _ _)

/-- What waits or has been handed over last is what was accepted last. -/
def Current (system : System Engine) : Prop :=
  system.presenter.running = true → system.presenter.stopping = false →
    Mailbox.slot (mailboxHistory system.log) = none →
      ∀ newest, (Mailbox.puts (mailboxHistory system.log)).head? = some newest →
        ∃ handed, (handedFrames system.log).head? = some handed ∧ newest.Carried handed

theorem current_handOver (holds : system.Holds) (occupied : system.presenter.waiting = true) :
    system.handOver.Current := by
  intro _ _ _ newest latest
  obtain ⟨submission, slot, carried⟩ := holds.slot occupied
  have first := Mailbox.head_puts slot
  change (Mailbox.puts (mailboxHistory system.log)).head? = some newest at latest
  obtain rfl : submission = newest := Option.some.inj (first.symm.trans latest)
  exact ⟨_, rfl, carried⟩

theorem current_move (served : label.Serves) (consistent : system.Consistent)
    (holds : system.Holds) (move : Move (Engine.calls host) system label next)
    (current : system.Current) : next.Current := by
  cases move with
  | accepted entered accepted => exact fun _ _ empty => by cases empty
  | interrupted failed interrupted => exact absurd failed served.not_fails
  | noted noted =>
      obtain ⟨rejected, status, rfl⟩ := noted
      exact current
  | emitted found => exact current
  | invalidated running going => exact current
  | waits running going => exact current
  | drained => exact current
  | refusedShutdown inside => exact fun _ going => by cases going
  | cancelled outside running occupied => exact fun _ going => by cases going
  | stopped outside running empty => exact fun _ going => by cases going
  | stoppedAgain outside gone => exact current
  | joined exited asked => exact fun running => by cases running
  | exited sleeping stopping => exact current
  | resetStarted sleeping going requested => exact current
  | limited sleeping going fresh occupied => exact current
  | handed sleeping going fresh occupied => exact current_handOver holds occupied
  | handedLate sleeping going =>
      exact current_handOver holds (consistent.occupied (by rw [sleeping]; rfl) going)
  | reset resetting => exact current
  | rendered rendering => exact current
  | finished rendered =>
      unfold Current
      simp only
      rw [Presenter.finish_eq]
      exact current

/-- Accepted submissions have passed validation. -/
def AcceptsValid (system : System Engine) : Prop :=
  ∀ submission ∈ Mailbox.puts (mailboxHistory system.log), submission.frame.isValid = true

theorem acceptsValid_move (move : Move (Engine.calls host) system label next)
    (valid : system.AcceptsValid) : next.AcceptsValid := by
  cases move with
  | @accepted heap submission after entered accepted =>
      intro other member
      rcases List.mem_cons.mp member with rfl | earlier
      · simp only [Presenter.enters, Bool.and_eq_true] at entered
        exact Submission.isValid_frame entered.1.1.1
      · exact valid other earlier
  | interrupted failed interrupted => exact valid
  | noted noted => exact valid
  | emitted found => exact valid
  | invalidated running going => exact valid
  | waits running going => exact valid
  | drained => exact valid
  | refusedShutdown inside => exact valid
  | cancelled outside running occupied => exact valid
  | stopped outside running empty => exact valid
  | stoppedAgain outside gone => exact valid
  | joined exited asked => exact valid
  | exited sleeping stopping => exact valid
  | resetStarted sleeping going requested => exact valid
  | limited sleeping going fresh occupied => exact valid
  | handed sleeping going fresh occupied => exact valid
  | handedLate sleeping going => exact valid
  | reset resetting => exact valid
  | rendered rendering => exact valid
  | finished rendered => exact valid

/-! ### Runs -/

/-- The invariant of every run without failing allocations. -/
structure Keeps (host : Host) (options : RendererOptions) (begun : Screen)
    (settings : EngineOptions) (system : System Engine) : Prop where
  mailboxed : system.Mailboxed
  delivers : system.Delivers
  current : system.Current
  valid : system.AcceptsValid
  follows : Promised host options.sixel settings.color system.log →
    Everywhere (HandedWithChanges (texelColor host options.sixel)) system.log ∧
      Accumulates (texelColor host options.sixel) system ∧
        system.Follows host options begun settings

theorem keeps_start {sink : OutputSink} {scratch : Scratch} {engine : Engine}
    (started : Started start) (positive : options.cellPixels.Positive)
    (tracks : options.enableDirtyRegions = true) (sameCells : begun.cells = options.cellPixels)
    (device : start.device =
      { engine with renderer := Renderer.create host options scratch sink }) :
    start.Keeps host options begun engine.options where
  mailboxed := mailboxed_start started
  delivers := delivers_start started
  current := by
    cases started with
    | intro before options device succeeded => exact fun _ _ _ _ none => by cases none
  valid := by
    intro submission member
    rw [log_start started] at member
    cases member
  follows := by
    intro _
    have empty := log_start started
    have accumulates := @accumulates_start _ _ (texelColor host options.sixel) _ started
    have phase : start.phase = .waiting := by
      cases started with
      | intro before options device succeeded => rfl
    have none : start.presentedFrames = [] := by
      simp only [presentedFrames, phase, empty]
      rfl
    refine ⟨empty ▸ everywhere_nil, accumulates, ?_⟩
    constructor
    · rw [device]
    · intro handed rendering
      rw [phase] at rendering
      cases rendering
    · rw [device, none]
      exact Renderer.displayed_create positive tracks scratch sink sameCells
    · rw [none]
      exact fun _ _ member => by cases member

theorem keeps_step (persists : options.sixel.persistPaletteRegisters = false)
    (served : label.Serves) (taken : step (Engine.calls host) label system = some next)
    (keeps : system.Keeps host options begun settings) :
    next.Keeps host options begun settings := by
  have move := move_of_step label taken
  have mailboxed := keeps.mailboxed
  constructor
  · exact mailboxed_move served move mailboxed
  · exact delivers_step served mailboxed.consistent taken keeps.delivers
  · exact current_move served mailboxed.consistent mailboxed.holds move keeps.current
  · exact acceptsValid_move move keeps.valid
  · intro promised
    obtain ⟨newer, extended⟩ := log_move move
    have earlier : Promised host options.sixel settings.color system.log :=
      Promised.of_append (extended ▸ promised)
    obtain ⟨changes, accumulates, follows⟩ := keeps.follows earlier
    obtain ⟨laterChanges, laterAccumulates⟩ := changes_move served mailboxed.consistent
      mailboxed.holds move promised.truly changes accumulates
    exact ⟨laterChanges, laterAccumulates,
      follows_move persists served mailboxed keeps.delivers changes earlier move follows⟩

/-- A frame the screen shows stands for the submission it came from. -/
theorem Keeps.shows (keeps : system.Keeps host options begun settings)
    (promised : Promised host options.sixel settings.color system.log)
    (succeeded : system.lastError = .none) {handed : Handed}
    (last : system.presentedFrames.head? = some handed) {submission : Submission}
    (accepted : submission ∈ Mailbox.puts (mailboxHistory system.log))
    (carried : submission.Carried handed) {screen : Screen}
    (reaches : Reaches system.device.renderer.terminal.screen begun screen) :
    screen.Shows host options.sixel submission.frame := by
  obtain ⟨-, -, follows⟩ := keeps.follows promised
  have member : handed ∈ handedFrames system.log := by
    have first := List.mem_of_mem_head? last
    simp only [presentedFrames] at first
    split at first
    · exact List.mem_of_mem_tail first
    · exact first
  have readable := keeps.delivers.handed handed member
  have presentable := presentable_of_puts promised.presentable submission accepted
  exact (follows.shows succeeded handed last screen reaches).of_copies carried.copies
    presentable.plain (Frame.isValid_of_isReadable readable) (keeps.valid submission accepted)

end System

end Rasterm
