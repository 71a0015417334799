import Rasterm.Encoder.Limit
import Rasterm.Render.Fresh
import Rasterm.Render.Patches

/-!
Contract: rendering under an output limit, compared with rendering without one.

Owns the payload of a render, that the limit decides by the payload alone, and that
neither the staged patches nor the encoder's buffer ever outgrow it.
-/

set_option autoImplicit false

namespace Rasterm

namespace Renderer

/-! ### The same renderer under another limit -/

def withLimit (renderer : Renderer) (maximumOutputBytes : Nat) : Renderer :=
  { renderer with
    options := { renderer.options with maximumOutputBytes := maximumOutputBytes } }

variable {host : Host} {renderer : Renderer} {frame : Frame} {regions : List DamageRegion}

theorem adapt_withLimit (renderer : Renderer) (frame : Frame) (maximumOutputBytes : Nat) :
    (renderer.withLimit maximumOutputBytes).adapt frame =
      (renderer.adapt frame).withLimit maximumOutputBytes := by
  show (if renderer.dimensionsChanged frame || renderer.frameIdentityChanged frame then _
    else _) = withLimit (if _ then _ else _) _
  split_ifs <;> rfl

theorem findDamage_withLimit (host : Host) (renderer : Renderer) (frame : Frame)
    (changed : Bool) (maximumOutputBytes : Nat) :
    ((renderer.withLimit maximumOutputBytes).findDamage host frame changed).1 =
        (renderer.findDamage host frame changed).1.withLimit maximumOutputBytes ∧
      ((renderer.withLimit maximumOutputBytes).findDamage host frame changed).2 =
        (renderer.findDamage host frame changed).2 := by
  unfold withLimit
  simp only [findDamage]
  split_ifs
  · exact ⟨rfl, rfl⟩
  · exact ⟨rfl, rfl⟩
  · exact ⟨rfl, rfl⟩
  · exact ⟨rfl, rfl⟩

/-- The limit plays no part in the decision. -/
theorem presentation_withLimit (host : Host) (renderer : Renderer) (frame : Frame)
    (maximumOutputBytes : Nat) :
    (renderer.withLimit maximumOutputBytes).presentation host frame =
      ((renderer.presentation host frame).1.withLimit maximumOutputBytes,
        (renderer.presentation host frame).2) := by
  have changed : ((renderer.withLimit maximumOutputBytes).dimensionsChanged frame ||
      (renderer.withLimit maximumOutputBytes).frameIdentityChanged frame) =
      (renderer.dimensionsChanged frame || renderer.frameIdentityChanged frame) := rfl
  have plans : ∀ (current : Renderer) (difference : DamageResult),
      (current.withLimit maximumOutputBytes).planPresentation host frame difference =
        current.planPresentation host frame difference := fun _ _ => rfl
  simp only [presentation, adapt_withLimit, findDamage_withLimit, changed, plans]
  show (if (!frame.isValid) = true then _
    else if (!renderer.options.enableDirtyRegions) = true then _ else _) = _
  split_ifs <;> rfl

/-! ### The payload -/

/-- The SIXEL bytes of a render: one full frame, or all patches together. -/
def payload (host : Host) (renderer : Renderer) (frame : Frame) : Nat :=
  if frame.isReadable then
    let decided := renderer.presentation host frame
    match decided.2 with
    | .nothing => 0
    | .full => (decided.1.encodedFull host frame).2.length
    | .patches regions => (decided.1.encodedPatches host frame regions).1.bytes.length
  else 0

/-! ### Full frames -/

/-- One full frame: presented alike when it fits, otherwise not at all. -/
theorem renderFull_withLimit (adapted : renderer.backend.Adapted)
    (readable : frame.isReadable = true) (changed : Bool) {maximum : Nat}
    (limited : 0 < maximum) :
    let whole := ((renderer.withLimit 0).encodedFull host frame).2
    let unlimited := (renderer.withLimit 0).renderFull host frame changed
    let bounded := (renderer.withLimit maximum).renderFull host frame changed
    (whole.length ≤ maximum →
        bounded.2 = unlimited.2 ∧ bounded.1.terminal = unlimited.1.terminal) ∧
      (maximum < whole.length →
        bounded.2 = limitResult ∧ bounded.1.terminal = renderer.terminal) := by
  have valid := Frame.isValid_of_isReadable readable
  have readableFrame := Frame.readable_of_isReadable readable
  have prepared := adapted.prepare host frame
  have encodes : ∀ limit, (renderer.withLimit limit).encodedFull host frame =
      ((renderer.backend.prepare host frame).setOutputLimit limit).encodeAny host frame := by
    intro limit
    rw [encodedFull, VideoSixelEncoder.encode_eq, if_pos valid]
    rfl
  have twin : VideoSixelEncoder.Twin
      ((renderer.backend.prepare host frame).setOutputLimit maximum)
      ((renderer.backend.prepare host frame).setOutputLimit 0) :=
    (VideoSixelEncoder.Twin.refl _).withLimits _ _
  have unlimitedEncode := @VideoSixelEncoder.encodeAny_unlimited host
    ((renderer.backend.prepare host frame).setOutputLimit 0) frame
    ((prepared.setOutputLimit 0).mayEncode frame) readableFrame rfl
  have limitedEncode := @VideoSixelEncoder.encodeAny_limited host
    ((renderer.backend.prepare host frame).setOutputLimit maximum) frame
    ((prepared.setOutputLimit maximum).mayEncode frame) readableFrame limited
  have colors := (twin.encodeAny host (prepared.setOutputLimit maximum)
    (prepared.setOutputLimit 0) readableFrame).2
  rw [twin.framedPieces (prepared.setOutputLimit maximum) (prepared.setOutputLimit 0)
    readableFrame, ← unlimitedEncode.2] at limitedEncode
  simp only [← encodes] at unlimitedEncode limitedEncode colors
  intro whole unlimited bounded
  constructor
  · intro fits
    have kept : ((renderer.withLimit maximum).encodedFull host frame).1.limitExceeded = false := by
      by_contra exceeded
      rw [Bool.not_eq_false] at exceeded
      exact absurd (limitedEncode.1.mp exceeded) (Nat.not_lt.mpr fits)
    have bytes := limitedEncode.2 kept
    simp only [bounded, unlimited, renderFull_of_fits kept, renderFull_of_fits unlimitedEncode.1,
      bytes, colors, terminal_settle]
    exact ⟨rfl, rfl⟩
  · intro exceeds
    simp only [bounded, renderFull_of_exceeded (limitedEncode.1.mpr exceeds)]
    exact ⟨trivial, rfl⟩

/-! ### Patches -/

/-- Staged bytes are never taken back. -/
theorem length_bytes_encodeRegions (transaction : Transaction) (maximum : Nat) :
    transaction.bytes.length ≤
      (encodeRegions host frame maximum transaction regions).1.bytes.length := by
  have spec := @encodeRegions_spec host frame maximum (fun _ => True)
    (fun _ _ _ _ => trivial) (fun _ _ _ => trivial) regions transaction trivial
  exact spec.2.1.length_le

section Staging

variable (readable : frame.Readable) (valid : frame.isValid = true)

include readable valid in
/-- Without a limit a patch inside the frame is always added. -/
theorem encodeRegions_cons_unlimited {whole : Transaction} (adapted : whole.backend.Adapted)
    {region : DamageRegion}
    (inside : VideoSixelEncoder.regionInside region frame.width frame.height = true) :
    ∃ encoder : VideoSixelEncoder,
      encoder = (whole.backend.prepareArea host region frame).setOutputLimit 0 ∧
      encoder.Adapted ∧ (encoder.encodeAny host (frame.region region)).1.Adapted ∧
      (encoder.encodeAny host (frame.region region)).2 =
        (encoder.framedPieces host (frame.region region)).flatten ∧
      encodeRegions host frame 0 whole (region :: regions) =
        encodeRegions host frame 0
          (whole.add region (encoder.encodeAny host (frame.region region))) regions := by
  have adaptedNow := (adapted.prepareArea host region frame).setOutputLimit 0
  have after := adaptedNow.encodeArea host region frame
  have encodes := fun encoder => VideoSixelEncoder.encodeArea_of_inside host encoder valid inside
  have whole := @VideoSixelEncoder.encodeAny_unlimited host
    ((whole.backend.prepareArea host region frame).setOutputLimit 0) (frame.region region)
    (adaptedNow.mayEncode _) (readable.region inside) rfl
  refine ⟨_, rfl, adaptedNow, ?_, whole.2, ?_⟩
  · rwa [encodes] at after
  · simp only [encodeRegions, gt_iff_lt, Nat.lt_irrefl, false_and, if_false, if_true, encodes,
      whole.1, Bool.false_eq_true]
    rfl

include readable valid in
theorem encodeRegions_unlimited
    (inside : ∀ region ∈ regions,
      VideoSixelEncoder.regionInside region frame.width frame.height = true) :
    ∀ {whole : Transaction}, whole.backend.Adapted →
      (encodeRegions host frame 0 whole regions).2 = true := by
  induction regions with
  | nil => exact fun _ => rfl
  | cons region regions inductionHypothesis =>
      intro whole adapted
      rcases @encodeRegions_cons_unlimited host frame regions readable valid whole adapted region
        (inside region List.mem_cons_self) with ⟨encoder, -, -, after, -, step⟩
      rw [step]
      exact inductionHypothesis (fun other member => inside other (List.mem_cons_of_mem _ member))
        after

include valid in
/-- With room left a patch inside the frame is added if it fits. -/
theorem encodeRegions_cons_of_room {maximum : Nat} {staged : Transaction}
    (room : staged.bytes.length < maximum) {region : DamageRegion}
    (inside : VideoSixelEncoder.regionInside region frame.width frame.height = true) :
    let patch := ((staged.backend.prepareArea host region frame).setOutputLimit
      (maximum - staged.bytes.length)).encodeAny host (frame.region region)
    encodeRegions host frame maximum staged (region :: regions) =
      if patch.1.limitExceeded = true then ({ staged with backend := patch.1 }, false)
      else encodeRegions host frame maximum (staged.add region patch) regions := by
  have encodes := fun encoder => VideoSixelEncoder.encodeArea_of_inside host encoder valid inside
  have unfilled : ¬ (0 < maximum ∧ staged.bytes.length ≥ maximum) :=
    fun full => Nat.not_le.mpr room full.2
  have limited : maximum ≠ 0 := Nat.ne_of_gt (Nat.lt_of_le_of_lt (Nat.zero_le _) room)
  simp only [encodeRegions, gt_iff_lt, if_neg unfilled, if_neg limited, encodes]
  rfl

include readable valid in
/-- Staging patches with a limit and without one: alike while everything fits, and a transaction
that would outgrow the limit is refused before it does. -/
theorem encodeRegions_limited {maximum : Nat} (limited : 0 < maximum)
    (inside : ∀ region ∈ regions,
      VideoSixelEncoder.regionInside region frame.width frame.height = true) :
    ∀ {staged whole : Transaction}, staged.Twin whole → staged.bytes.length ≤ maximum →
      let bounded := encodeRegions host frame maximum staged regions
      let unlimited := encodeRegions host frame 0 whole regions
      bounded.1.bytes.length ≤ maximum ∧
        (unlimited.1.bytes.length ≤ maximum → bounded.2 = true ∧ bounded.1.Twin unlimited.1) ∧
        (maximum < unlimited.1.bytes.length → bounded.2 = false) := by
  induction regions with
  | nil =>
      intro staged whole twin within
      refine ⟨within, fun _ => ⟨rfl, twin⟩, ?_⟩
      intro exceeds
      rw [encodeRegions, ← twin.bytes] at exceeds
      exact absurd exceeds (Nat.not_lt.mpr within)
  | cons region regions inductionHypothesis =>
      intro staged whole twin within
      have insideRest := fun other member => inside other (List.mem_cons_of_mem _ member)
      have regionReadable := readable.region (inside region List.mem_cons_self)
      have encodes := fun encoder => VideoSixelEncoder.encodeArea_of_inside host encoder valid
        (inside region List.mem_cons_self)
      rcases @encodeRegions_cons_unlimited host frame regions readable valid whole
        twin.rightAdapted region (inside region List.mem_cons_self) with
        ⟨encoder, same, adapted, after, bytes, step⟩
      have patch := @VideoSixelEncoder.framedPieces_ne_nil host encoder (frame.region region)
      have grown := @length_bytes_encodeRegions host frame regions
        (whole.add region (encoder.encodeAny host (frame.region region))) 0
      have total : staged.bytes.length +
          (encoder.framedPieces host (frame.region region)).flatten.length ≤
            (encodeRegions host frame 0 whole (region :: regions)).1.bytes.length := by
        rw [step, twin.bytes, ← bytes, ← List.length_append]
        exact grown
      by_cases full : 0 < maximum ∧ staged.bytes.length ≥ maximum
      · -- nothing more fits, and every patch has bytes
        have refused : encodeRegions host frame maximum staged (region :: regions) =
            (staged, false) := if_pos full
        rw [refused]
        refine ⟨within, ?_, fun _ => rfl⟩
        intro fits
        omega
      · have room : staged.bytes.length < maximum := by omega
        set bounded := (staged.backend.prepareArea host region frame).setOutputLimit
          (maximum - staged.bytes.length) with boundedEq
        have stagedAdapted : bounded.Adapted :=
          (twin.leftAdapted.prepareArea host region frame).setOutputLimit _
        have stagedAfter := stagedAdapted.encodeArea host region frame
        rw [encodes] at stagedAfter
        have prepared : VideoSixelEncoder.Twin bounded encoder := by
          rw [same]
          exact (twin.backend.prepareArea host region frame).withLimits _ _
        have encode := @VideoSixelEncoder.encodeAny_limited host bounded (frame.region region)
          (stagedAdapted.mayEncode _) regionReadable (Nat.sub_pos_of_lt room)
        have limit : bounded.outputLimit = maximum - staged.bytes.length := rfl
        rw [prepared.framedPieces stagedAdapted adapted regionReadable, limit] at encode
        rcases prepared.encodeAny host stagedAdapted adapted regionReadable with
          ⟨afterTwin, colors⟩
        rw [@encodeRegions_cons_of_room host frame regions valid maximum staged room region
          (inside region List.mem_cons_self), ← boundedEq]
        split
        · rename_i exceeded
          have beyond := encode.1.mp exceeded
          refine ⟨within, ?_, fun _ => rfl⟩
          intro fits
          omega
        · rename_i kept
          rw [Bool.not_eq_true] at kept
          have sameBytes := encode.2 kept
          have fitsNow : ¬ maximum - staged.bytes.length <
              (encoder.framedPieces host (frame.region region)).flatten.length := by
            intro beyond
            rw [encode.1.mpr beyond] at kept
            cases kept
          rw [step]
          apply inductionHypothesis insideRest
          · exact
              { backend := afterTwin
                leftAdapted := stagedAfter
                rightAdapted := after
                bytes := by
                  rw [Transaction.add, Transaction.add, sameBytes, bytes, twin.bytes]
                regions := by
                  rw [Transaction.add, Transaction.add, sameBytes, bytes, twin.bytes, twin.regions]
                colors := by rw [Transaction.add, Transaction.add, colors, twin.colors] }
          · simp only [Transaction.add, List.length_append, sameBytes]
            omega

end Staging

/-- Two transactions with the same patches are drawn alike. -/
theorem drawRegions_twin {left right : Transaction} (twin : left.Twin right)
    (options : RendererOptions) : drawRegions options left = drawRegions options right := by
  funext terminal
  simp only [drawRegions, Transaction.payload, twin.regions, twin.bytes]

/-- Patches: presented alike when they fit together, otherwise none of them. -/
theorem renderRegions_withLimit (adapted : renderer.backend.Adapted)
    (readable : frame.isReadable = true) (changed : Bool) {maximum : Nat} (limited : 0 < maximum)
    (inside : ∀ region ∈ regions,
      VideoSixelEncoder.regionInside region frame.width frame.height = true) :
    let whole := ((renderer.withLimit 0).encodedPatches host frame regions).1.bytes
    let unlimited := (renderer.withLimit 0).renderRegions host frame changed regions
    let bounded := (renderer.withLimit maximum).renderRegions host frame changed regions
    (whole.length ≤ maximum →
        bounded.2 = unlimited.2 ∧ bounded.1.terminal = unlimited.1.terminal) ∧
      (maximum < whole.length →
        bounded.2 = limitResult ∧ bounded.1.terminal = renderer.terminal) := by
  have valid := Frame.isValid_of_isReadable readable
  have readableFrame := Frame.readable_of_isReadable readable
  have prepared := adapted.prepareRegional host frame
  have start : Transaction.Twin { backend := renderer.backend.prepareRegional host frame }
      { backend := renderer.backend.prepareRegional host frame } :=
    ⟨VideoSixelEncoder.Twin.refl _, prepared, prepared, rfl, rfl, rfl⟩
  have completed : ((renderer.withLimit 0).encodedPatches host frame regions).2 = true :=
    encodeRegions_unlimited readableFrame valid inside prepared
  have staged := @encodeRegions_limited host frame regions readableFrame valid maximum limited
    inside _ _ start (Nat.zero_le _)
  intro whole unlimited bounded
  constructor
  · intro fits
    rcases staged.2.1 fits with ⟨finished, twin⟩
    change ((renderer.withLimit maximum).encodedPatches host frame regions).2 = true at finished
    change Transaction.Twin ((renderer.withLimit maximum).encodedPatches host frame regions).1
      ((renderer.withLimit 0).encodedPatches host frame regions).1 at twin
    simp only [bounded, unlimited, renderRegions_of_fits finished,
      renderRegions_of_fits completed, terminal_settle, twin.bytes, twin.regions, twin.colors,
      drawRegions_twin twin]
    exact ⟨rfl, rfl⟩
  · intro exceeds
    have refused := staged.2.2 exceeds
    change ((renderer.withLimit maximum).encodedPatches host frame regions).2 = false at refused
    simp only [bounded, renderRegions_of_exceeded refused]
    exact ⟨trivial, rfl⟩

/-! ### One render -/

/-- The limit decides by the payload: up to it everything happens as without a limit, above it
nothing is sent. -/
theorem Sound.render_withLimit (sound : renderer.Sound host) (frame : Frame) {maximum : Nat}
    (limited : 0 < maximum) :
    let payload := (renderer.withLimit 0).payload host frame
    let unlimited := (renderer.withLimit 0).render host frame
    let bounded := (renderer.withLimit maximum).render host frame
    (payload ≤ maximum →
        bounded.2 = unlimited.2 ∧ bounded.1.terminal = unlimited.1.terminal) ∧
      (maximum < payload →
        bounded.2 = limitResult ∧ bounded.1.terminal = renderer.terminal) := by
  simp only [payload, render_eq]
  cases readable : frame.isReadable with
  | false =>
      simp only [Bool.false_eq_true, if_false]
      exact ⟨fun _ => ⟨trivial, rfl⟩, fun exceeds => absurd exceeds (Nat.not_lt_zero _)⟩
  | true =>
      have dimensions : ∀ limit, (renderer.withLimit limit).dimensionsChanged frame =
          renderer.dimensionsChanged frame := fun _ => rfl
      have looked := renderer.otherDamage_presentation host frame
      have current := sound.otherDamage looked
      have sameTerminal : (renderer.presentation host frame).1.terminal = renderer.terminal := by
        rcases looked.same with ⟨damage, supplied, same⟩
        rw [same]
      simp only [if_true, renderFrame_eq, presentation_withLimit, dimensions]
      cases decided : (renderer.presentation host frame).2 with
      | nothing =>
          refine ⟨fun _ => ⟨rfl, rfl⟩, ?_⟩
          exact fun exceeds => absurd exceeds (Nat.not_lt_zero _)
      | full =>
          rw [← sameTerminal]
          exact renderFull_withLimit current.adapted readable _ limited
      | patches regions =>
          have placed := (sound.safePlan (regionalPlan_eq_some_iff.mpr decided)).placed
          rw [← sameTerminal]
          exact renderRegions_withLimit current.adapted readable _ limited
            fun region member => regionInside_of_placed (placed region member)

/-- The output ceiling is exact, and nothing outgrows it: neither the patches staged so far at any
point of the encoding loop, nor the buffer of any encode that was given a limit. -/
theorem ceiling_exact (host : Host) (options : RendererOptions)
    (positive : options.cellPixels.Positive) (scratch : Scratch) (sink : OutputSink)
    (calls : List Call) (frame : Frame) (maximum : Nat) (limited : 0 < maximum) :
    let renderer := (create host options scratch sink).performAll host calls
    let payload := (renderer.withLimit 0).payload host frame
    let unlimited := (renderer.withLimit 0).render host frame
    let bounded := (renderer.withLimit maximum).render host frame
    (payload ≤ maximum →
        bounded.2 = unlimited.2 ∧ bounded.1.terminal = unlimited.1.terminal) ∧
      (maximum < payload →
        bounded.2.error = .outputBufferLimitExceeded ∧ bounded.2.rendered = false ∧
          bounded.1.terminal = renderer.terminal) ∧
      (∀ regions count, frame.isReadable = true →
        renderer.regionalPlan host frame = some regions →
        ((renderer.withLimit maximum).encodedPatches host frame (regions.take count)).1.bytes.length
          ≤ maximum) ∧
      ∀ (encoder : VideoSixelEncoder) (area : Frame), 0 < encoder.outputLimit →
        ∀ buffer ∈ encoder.bufferStates host area,
          buffer.storage.length ≤ encoder.outputLimit := by
  intro renderer payload unlimited bounded
  have sound : renderer.Sound host :=
    performAll_invariant host (fun _ call kept => kept.perform call) calls
      (Sound.create host positive scratch sink)
  rcases sound.render_withLimit frame limited with ⟨fits, exceeds⟩
  refine ⟨fits, ?_, ?_, ?_⟩
  · intro beyond
    rcases exceeds beyond with ⟨result, terminal⟩
    refine ⟨?_, ?_, terminal⟩
    · rw [result]
      rfl
    · rw [result]
      rfl
  · intro regions count readable plan
    have prepared := sound.adapted.prepareRegional host frame
    have placed := (sound.safePlan plan).placed
    exact (encodeRegions_limited (Frame.readable_of_isReadable readable)
      (Frame.isValid_of_isReadable readable) limited
      (fun region member =>
        regionInside_of_placed (placed region (List.mem_of_mem_take member)))
      ⟨VideoSixelEncoder.Twin.refl _, prepared, prepared, rfl, rfl, rfl⟩ (Nat.zero_le _)).1
  · exact fun encoder area limit => VideoSixelEncoder.length_storage_bufferStates limit

/-- The stripes are too long for ten bytes and fit into a page. -/
theorem ceiling_exact_stripes :
    let renderer := (create Host.plain {} {} { responses := fun _ => true }).performAll Host.plain []
    ((renderer.withLimit 10).render Host.plain (.indexed .stripes)).2.error =
        .outputBufferLimitExceeded ∧
      ((renderer.withLimit 4096).render Host.plain (.indexed .stripes)).2 =
        ((renderer.withLimit 0).render Host.plain (.indexed .stripes)).2 := by
  have long : 10 < (((create Host.plain {} {} { responses := fun _ => true }).performAll
      Host.plain []).withLimit 0).payload Host.plain (.indexed .stripes) := by decide +kernel
  have short : (((create Host.plain {} {} { responses := fun _ => true }).performAll
      Host.plain []).withLimit 0).payload Host.plain (.indexed .stripes) ≤ 4096 := by
    decide +kernel
  exact ⟨((ceiling_exact Host.plain {} ⟨by decide, by decide⟩ {} { responses := fun _ => true } []
      (.indexed .stripes) 10 (by decide)).2.1 long).1,
    ((ceiling_exact Host.plain {} ⟨by decide, by decide⟩ {} { responses := fun _ => true } []
      (.indexed .stripes) 4096 (by decide)).1 short).1⟩

end Renderer

end Rasterm
