import Rasterm.Engine.Engine

/-!
Contract: the converted pixels an engine hands to its renderer, compared with the
full conversion of every packed frame, over whole runs of calls.

Owns the displayed colour of a frame, the promise a caller makes with supplied
damage, the meaning of the cache, and the exact runs in which the cache is right:
the cache is keyed on the last converted frame, supplied damage on the last
rendered one, and the two part company at indexed frames.
-/

set_option autoImplicit false

namespace Rasterm

open ColorConverter

/-- The full conversion of one pixel of a packed frame. -/
def FrameView.srgbColor (host : Host) (options : ColorOptions) (frame : FrameView) (x y : Nat) :
    PixelChannels :=
  if bypasses options frame.metadata.color then frame.channels x y
  else convertedColor host frame options x y

/-- The colour a pixel is displayed in. -/
def Frame.displayedColor (host : Host) (options : ColorOptions) : Frame → Nat → Nat → PixelChannels
  | .packed view => view.srgbColor host options
  | .indexed view => fun x y =>
      let color := view.color x y
      ⟨color.red, color.green, color.blue⟩

namespace Engine

section Unpacking

variable {host : Host} {engine : Engine} {frame : FrameView} {x y : Nat}

theorem unpackedPixel_eq (two : bytesPerPixel frame.format = 2) (x y : Nat) :
    unpackedPixel frame x y =
      [(frame.channels x y).red, (frame.channels x y).green, (frame.channels x y).blue] := by
  unfold bytesPerPixel at two
  cases format : frame.format <;>
    simp_all [unpackedPixel, FrameView.channels, readPixel, pixelLayout]

theorem unpack_of_kept (kept : ¬ (bytesPerPixel frame.format = 2 ∧
    bypasses engine.options.color frame.metadata.color = false)) :
    engine.unpack frame = (engine, frame) := by
  apply if_neg
  simp only [bypasses, Bool.or_eq_false_iff, Bool.not_eq_false'] at kept
  simpa only [Bool.and_eq_true, beq_iff_eq, Bool.not_eq_true'] using kept

/-- The bytes of an unpacked pixel. -/
theorem pixel_unpacked (two : bytesPerPixel frame.format = 2)
    (xInside : x < frame.width.toNat) (yInside : y < frame.height.toNat) (buffer : Memory)
    {index : Nat} (indexInside : index < 3) :
    Memory.advance (Canvas.fill (unpackedPixel frame) (frame.width.toNat * 3) 3 0 0
        frame.width.toNat frame.height.toNat buffer) (y * (frame.width.toNat * 3) + x * 3) index =
      (unpackedPixel frame x y).getD index 0 := by
  have full : ∀ column row, (unpackedPixel frame column row).length = 3 := by
    intro column row
    rw [unpackedPixel_eq two]
    rfl
  have found : (unpackedPixel frame x y)[index]? =
      some ((unpackedPixel frame x y).getD index 0) := by
    rw [List.getD_eq_getElem?_getD, List.getElem?_eq_getElem (by rw [full]; exact indexInside)]
    rfl
  have fits : Canvas.Fits (frame.width.toNat * 3) 3 frame.width.toNat :=
    ⟨by decide, Nat.le_refl _⟩
  have written := @Canvas.fill_apply _ _ _ _ _ fits full 0 0 frame.width.toNat
    frame.height.toNat x y index (by omega) xInside indexInside _ found buffer
  rw [if_pos (by omega)] at written
  exact written

theorem unpack_of_taken (two : bytesPerPixel frame.format = 2)
    (converts : bypasses engine.options.color frame.metadata.color = false) :
    (engine.unpack frame).2 =
      { data := some (Canvas.fill (unpackedPixel frame) (frame.width.toNat * 3) 3 0 0
          frame.width.toNat frame.height.toNat engine.convertedFrame)
        width := frame.width
        height := frame.height
        stride := (frame.width.toNat * 3 : Nat)
        format := .rgb24
        metadata := frame.metadata } := by
  have taken : (bytesPerPixel frame.format == 2 && (engine.options.color.convertToSrgb &&
      !alreadySrgb frame.metadata.color)) = true := by
    simp only [bypasses, Bool.or_eq_false_iff, Bool.not_eq_false'] at converts
    simp [two, converts]
  simp only [unpack, taken, if_true]

@[simp] theorem metadata_unpack : (engine.unpack frame).2.metadata = frame.metadata := by
  simp only [unpack]
  split_ifs <;> rfl

@[simp] theorem width_unpack : (engine.unpack frame).2.width = frame.width := by
  simp only [unpack]
  split_ifs <;> rfl

@[simp] theorem height_unpack : (engine.unpack frame).2.height = frame.height := by
  simp only [unpack]
  split_ifs <;> rfl

/-- Unpacking keeps the colours. -/
theorem channels_unpack (xInside : x < frame.width.toNat) (yInside : y < frame.height.toNat) :
    (engine.unpack frame).2.channels x y = frame.channels x y := by
  by_cases unpacked : bytesPerPixel frame.format = 2 ∧
      bypasses engine.options.color frame.metadata.color = false
  · have bytes : ∀ {index : Nat}, index < 3 → _ := fun {index} inside =>
      @pixel_unpacked frame x y unpacked.1 xInside yInside engine.convertedFrame index inside
    rw [unpack_of_taken unpacked.1 unpacked.2]
    simp only [FrameView.channels, readPixel, pixelLayout, FrameView.pixel, FrameView.bytes,
      Option.getD_some, bytesPerPixel, Int.toNat_natCast]
    rw [bytes (by decide), bytes (by decide), bytes (by decide), unpackedPixel_eq unpacked.1]
    rfl
  · rw [unpack_of_kept unpacked]

/-- What is left to convert has a byte for every channel. -/
theorem geometry_unpack (geometry : frame.Geometry)
    (converts : bypasses engine.options.color frame.metadata.color = false) :
    (engine.unpack frame).2.Geometry ∧ ByteChannels (engine.unpack frame).2.format := by
  by_cases two : bytesPerPixel frame.format = 2
  · rw [unpack_of_taken two converts]
    have widthPos := geometry.width_pos
    refine ⟨⟨rfl, widthPos, geometry.height_pos, Nat.succ_ne_zero 2, geometry.area_le, ?_,
      geometry.damage_valid⟩, Or.inl rfl⟩
    show frame.width * ((3 : Nat) : Int) ≤ ((frame.width.toNat * 3 : Nat) : Int)
    omega
  · rw [unpack_of_kept fun unpacked => two unpacked.1]
    refine ⟨geometry, ?_⟩
    have listed := geometry.format_listed
    unfold ByteChannels
    cases format : frame.format <;> simp_all [bytesPerPixel]

end Unpacking

/-! ### Histories -/

/-- A pixel of a frame. -/
def InFrame (frame : Frame) (x y : Nat) : Prop := x < frame.width.toNat ∧ y < frame.height.toNat

/-- An engine with the accepted frame rendered last and the packed frame converted
last, both forgotten by a reset. -/
structure History where
  engine : Engine
  rendered : Option Frame := none
  converted : Option FrameView := none

/-- The packed frame the cache stands for after a frame. -/
def convertedAfter (options : ColorOptions) (converted : Option FrameView) : Frame →
    Option FrameView
  | .packed view => if bypasses options view.metadata.color then none else some view
  | .indexed _ => converted

def History.perform (host : Host) (history : History) (call : Call) : History where
  engine := history.engine.perform host call
  rendered :=
    match call with
    | .render _ frame => if accepts frame then some frame else history.rendered
    | .clear => history.rendered
    | .reset => none
  converted :=
    match call with
    | .render _ frame =>
        if accepts frame then
          convertedAfter history.engine.options.color history.converted frame
        else history.converted
    | .clear => history.converted
    | .reset => none

/-- `Holds` for every call of a run, in the history it is made in. -/
def Throughout (host : Host) (Holds : History → Call → Prop) : History → List Call → Prop
  | _, [] => True
  | history, call :: calls =>
      Holds history call ∧ Throughout host Holds (history.perform host call) calls

/-- The caller's promise: supplied damage covers every pixel displayed in another
colour than in the frame rendered just before, if that had the same size. -/
def Promised (host : Host) (history : History) : Call → Prop
  | .render _ frame =>
      accepts frame = true → frame.metadata.damage.supplied = true →
        ∀ previous, history.rendered = some previous →
          previous.width = frame.width → previous.height = frame.height →
            ∀ x y, InFrame frame x y →
              previous.displayedColor host history.engine.options.color x y ≠
                frame.displayedColor host history.engine.options.color x y →
              Covers frame.metadata.damage.rects x y
  | _ => True

/-- A packed frame is handed to the renderer in its own converted colours. -/
def HandedInFull (host : Host) (history : History) : Call → Prop
  | .render _ (.packed view) =>
      accepts (.packed view) = true → ∀ x y, InFrame (.packed view) x y →
        (history.engine.colorManaged host view).2.channels x y =
          view.srgbColor host history.engine.options.color x y
  | _ => True

/-- The cached pixels are kept outside the damage of this frame. -/
def reusesCache (engine : Engine) (view : FrameView) : Bool :=
  !bypasses engine.options.color view.metadata.color &&
    engine.colorConverter.reuses (engine.unpack view).2 engine.options.color

/-- A packed frame that reuses the cache right after an indexed frame: its damage also
covers every pixel whose colour differs from that of the frame converted last. -/
def CoversSinceConverted (host : Host) (history : History) : Call → Prop
  | .render _ (.packed view) =>
      accepts (.packed view) = true → history.engine.reusesCache view = true →
        ∀ previous, history.rendered = some (.indexed previous) →
          ∀ source, history.converted = some source →
            ∀ x y, InFrame (.packed view) x y →
              source.srgbColor host history.engine.options.color x y ≠
                view.srgbColor host history.engine.options.color x y →
              Covers view.metadata.damage.rects x y
  | _ => True

/-! ### The cache holds the frame converted last -/

section Cache

variable {host : Host} {history : History} {view : FrameView}

/-- What the cache stands for. -/
structure Cached (host : Host) (history : History) : Prop where
  source : history.engine.colorConverter.hasConvertedFrame = true →
    ∃ source, history.converted = some source ∧
      history.engine.colorConverter.previousWidth = source.width ∧
      history.engine.colorConverter.previousHeight = source.height ∧
      ∀ x y, InFrame (.packed source) x y →
        history.engine.colorConverter.cachedColor x y =
          source.srgbColor host history.engine.options.color x y
  /-- Only indexed frames come between the cache and the frame rendered last. -/
  rendered : history.engine.colorConverter.hasConvertedFrame = true →
    ∃ previous, history.rendered = some previous ∧
      ∀ packed, previous = .packed packed → history.converted = some packed

/-- The colours handed on, pixel by pixel. -/
theorem channels_colorManaged (accepted : accepts (.packed view) = true) {engine : Engine}
    {x y : Nat} (inside : InFrame (.packed view) x y) :
    (engine.colorManaged host view).2.channels x y =
      if engine.reusesCache view = true ∧ ¬ Covers view.metadata.damage.rects x y then
        engine.colorConverter.cachedColor x y
      else view.srgbColor host engine.options.color x y := by
  have geometry : view.Geometry := by
    apply FrameView.geometry_of_isValid
    exact (Bool.and_eq_true_iff.mp accepted).1
  simp only [colorManaged, colorConverter_unpack]
  by_cases bypassed : bypasses engine.options.color view.metadata.color = true
  · rw [unpack_of_kept fun converts => Bool.eq_false_iff.mp converts.2 bypassed,
      toSrgb_of_bypasses bypassed, if_neg, FrameView.srgbColor, if_pos bypassed]
    rintro ⟨reused, -⟩
    simp [reusesCache, bypassed] at reused
  · rw [Bool.not_eq_true] at bypassed
    rcases geometry_unpack geometry bypassed with ⟨unpacked, stored⟩
    have converts : bypasses engine.options.color (engine.unpack view).2.metadata.color =
        false := by
      rw [metadata_unpack]
      exact bypassed
    rw [channels_toSrgb converts, cachedColor_toSrgb unpacked stored converts
      (by rw [width_unpack]; exact inside.1) (by rw [height_unpack]; exact inside.2),
      metadata_unpack, convertedColor, metadata_unpack, channels_unpack inside.1 inside.2,
      FrameView.srgbColor, bypassed]
    simp only [reusesCache, bypassed, Bool.not_false, Bool.true_and, Bool.false_eq_true, if_false]
    rfl

/-- Which frame a reused cache stands for. -/
theorem Cached.of_reusesCache (cached : Cached host history)
    (reused : history.engine.reusesCache view = true) :
    ∃ source previous, history.converted = some source ∧ history.rendered = some previous ∧
      (∀ packed, previous = .packed packed → packed = source) ∧
      source.width = view.width ∧ source.height = view.height ∧
      ∀ x y, InFrame (.packed view) x y →
        history.engine.colorConverter.cachedColor x y =
          source.srgbColor host history.engine.options.color x y := by
  simp only [reusesCache, Bool.and_eq_true] at reused
  rcases eq_of_reuses reused.2 with ⟨present, width, height, -, -⟩
  rw [width_unpack] at width
  rw [height_unpack] at height
  rcases cached.source present with ⟨source, converted, sourceWidth, sourceHeight, colors⟩
  rcases cached.rendered present with ⟨previous, rendered, packed⟩
  have sameWidth : source.width = view.width := by rw [← sourceWidth, width]
  have sameHeight : source.height = view.height := by rw [← sourceHeight, height]
  refine ⟨source, previous, converted, rendered, ?_, sameWidth, sameHeight, ?_⟩
  · intro other same
    have found := packed other same
    rw [converted] at found
    exact (Option.some.inj found).symm
  · intro x y inside
    apply colors
    show x < source.width.toNat ∧ y < source.height.toNat
    rw [sameWidth, sameHeight]
    exact inside

/-- One call: the frame is handed on in full exactly when the damage covers what
changed since the frame converted last. -/
theorem Cached.handedInFull_iff (cached : Cached host history) (call : Call)
    (promised : Promised host history call) :
    HandedInFull host history call ↔ CoversSinceConverted host history call := by
  rcases call with ⟨observed, frame⟩ | _ | _
  · cases frame with
    | indexed _ => exact Iff.rfl
    | packed view =>
        constructor
        · intro handed accepted reused _ _ source converted x y inside differs
          rcases cached.of_reusesCache reused with ⟨other, -, found, -, -, -, -, colors⟩
          rw [found] at converted
          rcases Option.some.inj converted
          by_contra uncovered
          apply differs
          have same := handed accepted x y inside
          rw [channels_colorManaged accepted inside, if_pos ⟨reused, uncovered⟩,
            colors x y inside] at same
          exact same
        · intro covers accepted x y inside
          rw [channels_colorManaged accepted inside]
          by_cases kept : history.engine.reusesCache view = true ∧
              ¬ Covers view.metadata.damage.rects x y
          · rw [if_pos kept]
            rcases cached.of_reusesCache kept.1 with
              ⟨source, previous, converted, rendered, packed, width, height, colors⟩
            rw [colors x y inside]
            by_contra differs
            apply kept.2
            cases previous with
            | indexed other =>
                exact covers accepted kept.1 other rendered source converted x y inside differs
            | packed other =>
                have supplied : view.metadata.damage.supplied = true := by
                  have reused := kept.1
                  simp only [reusesCache, reuses, Bool.and_eq_true, metadata_unpack] at reused
                  exact reused.2.2
                rcases packed other rfl
                exact promised accepted supplied _ rendered width height x y inside differs
          · rw [if_neg kept]
  · exact Iff.rfl
  · exact Iff.rfl

/-- What a converted frame leaves in the cache. -/
theorem colorManaged_of_converts {engine : Engine}
    (converts : bypasses engine.options.color view.metadata.color = false) :
    (engine.colorManaged host view).1.colorConverter.previousWidth = view.width ∧
      (engine.colorManaged host view).1.colorConverter.previousHeight = view.height ∧
      ∀ x y, (engine.colorManaged host view).1.colorConverter.cachedColor x y =
        (engine.colorManaged host view).2.channels x y := by
  have unpacked : bypasses engine.options.color (engine.unpack view).2.metadata.color =
      false := by
    rw [metadata_unpack]
    exact converts
  simp only [colorManaged, colorConverter_unpack]
  refine ⟨?_, ?_, ?_⟩
  · rw [toSrgb_of_converts unpacked]
    exact width_unpack
  · rw [toSrgb_of_converts unpacked]
    exact height_unpack
  · intro x y
    exact (channels_toSrgb unpacked x y).symm

theorem colorManaged_of_bypasses {engine : Engine}
    (bypassed : bypasses engine.options.color view.metadata.color = true) :
    (engine.colorManaged host view).1.colorConverter.hasConvertedFrame = false := by
  have unpacked : bypasses engine.options.color (engine.unpack view).2.metadata.color = true := by
    rw [metadata_unpack]
    exact bypassed
  simp only [colorManaged, colorConverter_unpack]
  rw [toSrgb_of_bypasses unpacked]
  rfl

/-- A call whose frame is handed on in full keeps the meaning of the cache. -/
theorem Cached.perform (cached : Cached host history) (call : Call)
    (handed : HandedInFull host history call) : Cached host (history.perform host call) := by
  rcases call with ⟨observed, frame⟩ | _ | _
  · by_cases accepted : accepts frame = true
    · cases frame with
      | packed view =>
          have converter :
              (history.engine.perform host (.render observed (.packed view))).colorConverter =
                (history.engine.colorManaged host view).1.colorConverter :=
            colorConverter_renderPackedFrame accepted
          by_cases bypassed : bypasses history.engine.options.color view.metadata.color = true
          · have absent := @colorManaged_of_bypasses host view history.engine bypassed
            constructor
            · intro present
              simp [History.perform, converter, absent] at present
            · intro present
              simp [History.perform, converter, absent] at present
          · rw [Bool.not_eq_true] at bypassed
            rcases @colorManaged_of_converts host view history.engine bypassed with
              ⟨width, height, colors⟩
            constructor
            · intro _
              refine ⟨view, ?_, ?_, ?_, ?_⟩
              · simp [History.perform, accepted, convertedAfter, bypassed]
              · simpa [History.perform, converter] using width
              · simpa [History.perform, converter] using height
              · intro x y inside
                simp only [History.perform, converter, options_perform]
                rw [colors x y]
                exact handed accepted x y inside
            · intro _
              refine ⟨.packed view, ?_, ?_⟩
              · simp [History.perform, accepted]
              · intro packed same
                cases same
                simp [History.perform, accepted, convertedAfter, bypassed]
      | indexed view =>
          have converter :
              (history.engine.perform host (.render observed (.indexed view))).colorConverter =
                history.engine.colorConverter :=
            colorConverter_renderIndexedFrame view
          constructor
          · intro present
            simp only [History.perform, converter] at present
            simpa [History.perform, accepted, convertedAfter, converter] using
              cached.source present
          · intro _
            refine ⟨.indexed view, ?_, ?_⟩
            · simp [History.perform, accepted]
            · intro packed same
              cases same
    · have converter : (history.engine.perform host (.render observed frame)).colorConverter =
          history.engine.colorConverter :=
        (renderFrame_of_refused (Bool.eq_false_iff.mpr accepted)).1
      constructor
      · intro present
        simp only [History.perform, converter] at present
        simpa [History.perform, accepted, converter] using cached.source present
      · intro present
        simp only [History.perform, converter] at present
        simpa [History.perform, accepted, converter] using cached.rendered present
  · exact ⟨cached.source, cached.rendered⟩
  · constructor
    · intro present
      cases present
    · intro present
      cases present

end Cache

/-! ### Runs -/

/-- A new engine that has rendered nothing. -/
def History.start (options : EngineOptions) (renderer : Renderer) (geometry : TerminalGeometry) :
    History where
  engine := { options := options, renderer := renderer, geometry := geometry }

theorem cached_start (host : Host) (options : EngineOptions) (renderer : Renderer)
    (geometry : TerminalGeometry) : Cached host (History.start options renderer geometry) where
  source := fun present => by cases present
  rendered := fun present => by cases present

theorem Cached.throughout_iff {host : Host} (calls : List Call) :
    ∀ {history : History}, Cached host history →
      Throughout host (Promised host) history calls →
      (Throughout host (HandedInFull host) history calls ↔
        Throughout host (CoversSinceConverted host) history calls) := by
  induction calls with
  | nil => exact fun _ _ => Iff.rfl
  | cons call calls inductionHypothesis =>
      intro history cached promised
      have first := cached.handedInFull_iff call promised.1
      constructor
      · intro handed
        refine ⟨first.mp handed.1, ?_⟩
        exact (inductionHypothesis (cached.perform call handed.1) promised.2).mp handed.2
      · intro covers
        have handed := first.mpr covers.1
        refine ⟨handed, ?_⟩
        exact (inductionHypothesis (cached.perform call handed) promised.2).mpr covers.2

/-- In a run that keeps the promise, all packed frames reach the renderer converted in
full exactly when every reuse of the cache after an indexed frame covers what changed
since the packed frame converted last. -/
theorem handedInFull_iff_coversSinceConverted (host : Host) (options : EngineOptions)
    (renderer : Renderer) (geometry : TerminalGeometry) (calls : List Call)
    (promised : Throughout host (Promised host) (History.start options renderer geometry) calls) :
    Throughout host (HandedInFull host) (History.start options renderer geometry) calls ↔
      Throughout host (CoversSinceConverted host) (History.start options renderer geometry)
        calls :=
  (cached_start host options renderer geometry).throughout_iff calls promised

/-- One grey pixel in linear light, with supplied damage. -/
def linearPixel (grey : UInt8) (damage : List DamageRect) : FrameView where
  data := some fun _ => grey
  width := 1
  height := 1
  stride := 3
  metadata := { color := { transfer := .linear }, damage := DamageView.ofList damage true }

/-- One white pixel by palette. -/
def whitePixel : IndexedFrameView where
  indices := some fun _ => 0
  width := 1
  height := 1
  stride := 1
  palette := PaletteView.ofList [⟨255, 255, 255⟩]

/-- Black, white by palette, then white again, with the given damage of the last frame. -/
def blackWhiteWhite (damage : List DamageRect) : List Call :=
  [.render {} (.packed (linearPixel 0 [⟨0, 0, 1, 1⟩])), .render {} (.indexed whitePixel),
    .render {} (.packed (linearPixel 255 damage))]

/-- An engine on a sink that takes everything. -/
def plainStart : History :=
  History.start { customOutput := true }
    (Renderer.create Host.plain {} {} { responses := fun _ => true }) {}

theorem eq_zero_of_inFrame {frame : Frame} {x y : Nat} (width : frame.width = 1)
    (height : frame.height = 1) (inside : InFrame frame x y) : x = 0 ∧ y = 0 := by
  unfold InFrame at inside
  omega

theorem displayedColor_linearPixel (options : ColorOptions) (grey : UInt8)
    (damage : List DamageRect) :
    (Frame.packed (linearPixel grey damage)).displayedColor Host.plain options 0 0 =
      ⟨grey, grey, grey⟩ := by
  simp only [Frame.displayedColor, FrameView.srgbColor]
  split_ifs <;> rfl

theorem promised_blackWhiteWhite (damage : List DamageRect) :
    Throughout Host.plain (Promised Host.plain) plainStart (blackWhiteWhite damage) := by
  refine ⟨?_, ?_, ?_, trivial⟩
  · intro _ _ previous none
    cases none
  · intro _ supplied
    cases supplied
  · intro _ _ previous rendered _ _ x y inside differs
    rcases eq_zero_of_inFrame rfl rfl inside with ⟨rfl, rfl⟩
    cases rendered
    rw [displayedColor_linearPixel] at differs
    exact absurd rfl differs

/-- With the whole pixel as damage the white frame is converted. -/
theorem handedInFull_blackWhiteWhite :
    Throughout Host.plain (HandedInFull Host.plain) plainStart
      (blackWhiteWhite [⟨0, 0, 1, 1⟩]) := by
  refine (handedInFull_iff_coversSinceConverted Host.plain { customOutput := true }
    (Renderer.create Host.plain {} {} { responses := fun _ => true }) {}
    (blackWhiteWhite [⟨0, 0, 1, 1⟩]) (promised_blackWhiteWhite _)).mpr ⟨?_, trivial, ?_, trivial⟩
  · intro _ _ previous rendered
    cases rendered
  · intro _ _ previous _ source _ x y inside _
    rcases eq_zero_of_inFrame rfl rfl inside with ⟨rfl, rfl⟩
    decide

/-- Nothing changed since the indexed frame, so the promise allows no damage at all; the
renderer is handed the black pixel of the first frame. -/
theorem stale_after_indexed :
    Throughout Host.plain (Promised Host.plain) plainStart (blackWhiteWhite []) ∧
      ¬ Throughout Host.plain (HandedInFull Host.plain) plainStart (blackWhiteWhite []) := by
  refine ⟨promised_blackWhiteWhite [], ?_⟩
  rintro ⟨-, -, handed, -⟩
  have white := handed (by decide) 0 0 ⟨by decide, by decide⟩
  revert white
  decide +kernel

end Engine

end Rasterm
