import Rasterm.Encoder.Omission
import Rasterm.Render.Outcome
import Rasterm.Render.Patches

/-!
Contract: definitions are omitted only while the terminal holds them.

Owns the control strings of a render, the record of those drawn since the last restart,
that these are the last ones the terminal has read from what the sink accepted, and that
every omission in a successful render is backed by that record.
-/

set_option autoImplicit false

namespace Rasterm

open TerminalRenderer

/-- The control strings a terminal has read to their end, wherever they were drawn. -/
def acceptedPayloads (events : List ScreenEvent) : List (List UInt8) :=
  events.filterMap fun
    | .drawn _ _ payload _ => some payload
    | _ => none

theorem acceptedPayloads_append (first second : List ScreenEvent) :
    acceptedPayloads (first ++ second) = acceptedPayloads first ++ acceptedPayloads second :=
  List.filterMap_append

/-- A change of the cells ends no control string. -/
theorem acceptedPayloads_resize {terminal : TerminalRenderer} (dated : terminal.Dated)
    (cells : TerminalCellPixels) :
    acceptedPayloads (terminal.resize cells).screen = acceptedPayloads terminal.screen := by
  rw [(terminal.extends_resize cells).screen dated, acceptedPayloads_append,
    Emulator.pending]
  split_ifs <;> exact List.append_nil _

namespace Renderer

/-! ### The control strings of a render -/

/-- The control strings of the encoding loop. -/
def patchStrings (host : Host) (frame : Frame) (maximumOutputBytes : Nat) :
    VideoSixelEncoder → Nat → List DamageRegion → List ControlString
  | _, _, [] => []
  | backend, staged, region :: regions =>
      let remaining := if maximumOutputBytes = 0 then 0 else maximumOutputBytes - staged
      let encoder := (backend.prepareArea host region frame).setOutputLimit remaining
      let string := encoder.controlString host (frame.region region)
      string :: patchStrings host frame maximumOutputBytes (encoder.encodeArea host region frame).1
        (staged + string.bytes.length) regions

def controlStrings (host : Host) (renderer : Renderer) (frame : Frame) : List ControlString :=
  let decided := renderer.presentation host frame
  match decided.2 with
  | .nothing => []
  | .full => [(decided.1.fullEncoder host frame).controlString host frame]
  | .patches regions =>
      patchStrings host frame decided.1.options.maximumOutputBytes
        (decided.1.backend.prepareRegional host frame) 0 regions

variable {host : Host} {renderer : Renderer} {frame : Frame} {regions : List DamageRegion}
  {options : SixelOptions} {history : List (List ControlString)} {current : List ControlString}

/-! ### Staging -/

/-- The patches staged so far are these control strings. -/
structure Staged (options : SixelOptions) (history : List (List ControlString))
    (current : List ControlString) (transaction : Transaction) : Prop where
  adapted : transaction.backend.Adapted
  sameOptions : transaction.backend.options = options
  backed : transaction.backend.Backed (history ++ [current])
  supported : Supported options history current
  written : ∀ string ∈ current, string.WrittenWith options
  payloads : transaction.regions.map transaction.payload = current.map ControlString.bytes
  inside : ∀ patch ∈ transaction.regions, patch.offset + patch.size ≤ transaction.bytes.length

/-- Staged patches are not touched by later ones. -/
theorem Transaction.payloads_add {transaction : Transaction} (region : DamageRegion)
    (encoded : VideoSixelEncoder × List UInt8)
    (inside : ∀ patch ∈ transaction.regions,
      patch.offset + patch.size ≤ transaction.bytes.length) :
    (transaction.add region encoded).regions.map (transaction.add region encoded).payload =
      transaction.regions.map transaction.payload ++ [encoded.2] := by
  have kept : ∀ patch ∈ transaction.regions,
      (transaction.add region encoded).payload patch = transaction.payload patch := by
    intro patch member
    have within := inside patch member
    simp only [Transaction.payload, Transaction.add]
    rw [List.drop_append_of_le_length (by omega), List.take_append_of_le_length]
    rw [List.length_drop]
    omega
  have last : (transaction.add region encoded).payload
      ⟨region, transaction.bytes.length, encoded.2.length⟩ = encoded.2 := by
    simp [Transaction.payload, Transaction.add]
  show (transaction.regions ++ [_]).map _ = _
  rw [List.map_append, List.map_congr_left kept, List.map_singleton, last]

/-- A full frame or a patch more. -/
theorem staged_encodeAny {encoder : VideoSixelEncoder} (readable : frame.Readable)
    (adapted : encoder.Adapted) (sameOptions : encoder.options = options)
    (backed : encoder.Backed (history ++ [current])) (supported : Supported options history current)
    (fits : (encoder.encodeAny host frame).1.limitExceeded = false) :
    (encoder.encodeAny host frame).1.Backed
        (history ++ [current ++ [encoder.controlString host frame]]) ∧
      Supported options history (current ++ [encoder.controlString host frame]) ∧
      (encoder.controlString host frame).WrittenWith options := by
  refine ⟨backed.encodeAny host frame, ?_, ?_⟩
  · apply supported.snoc
    intro omits
    rw [← sameOptions]
    exact backed.omitted omits
  · rw [← sameOptions]
    exact VideoSixelEncoder.writtenWith_controlString adapted readable fits

/-- One round of the encoding loop. -/
theorem Staged.add {transaction : Transaction}
    (staged : Staged options history current transaction) (readable : frame.Readable)
    (valid : frame.isValid = true) {region : DamageRegion}
    (inside : VideoSixelEncoder.regionInside region frame.width frame.height = true)
    (remaining : Nat) :
    let encoder := (transaction.backend.prepareArea host region frame).setOutputLimit remaining
    (encoder.encodeArea host region frame).1.limitExceeded = false →
      Staged options history (current ++ [encoder.controlString host (frame.region region)])
        (transaction.add region (encoder.encodeArea host region frame)) := by
  intro encoder fits
  have adapted : encoder.Adapted :=
    (staged.adapted.prepareArea host region frame).setOutputLimit remaining
  have prepared := VideoSixelEncoder.sameRegisters_prepareArea host transaction.backend region frame
  have sameOptions : encoder.options = options := prepared.options.trans staged.sameOptions
  have backed : encoder.Backed (history ++ [current]) := by
    have same := staged.backed.of_sameRegisters prepared
      (VideoSixelEncoder.age_prepareArea host transaction.backend region frame)
    exact ⟨same.persist, same.definitions⟩
  have area := VideoSixelEncoder.encodeArea_of_inside host encoder valid inside
  have after := adapted.encodeArea host region frame
  have kind := (VideoSixelEncoder.sameKind_encodeArea host encoder region frame).options
  rw [area] at fits after kind ⊢
  rcases staged_encodeAny (readable.region inside) adapted sameOptions backed staged.supported
    fits with ⟨backedAfter, supported, written⟩
  refine ⟨after, kind.trans sameOptions, backedAfter, supported, ?_, ?_, ?_⟩
  · intro string member
    rcases List.mem_append.mp member with earlier | new
    · exact staged.written string earlier
    · rw [List.mem_singleton.mp new]
      exact written
  · rw [Transaction.payloads_add region _ staged.inside, staged.payloads, List.map_append]
    rfl
  · intro patch member
    have grown : (transaction.add region (encoder.encodeAny host (frame.region region))).bytes.length
        = transaction.bytes.length + (encoder.encodeAny host (frame.region region)).2.length :=
      List.length_append
    rw [grown]
    rcases List.mem_append.mp member with earlier | new
    · exact (staged.inside patch earlier).trans (Nat.le_add_right _ _)
    · rw [List.mem_singleton.mp new]

/-- The encoding loop, as far as it succeeds. -/
theorem Staged.encodeRegions (readable : frame.Readable) (valid : frame.isValid = true)
    {maximumOutputBytes : Nat}
    (inside : ∀ region ∈ regions,
      VideoSixelEncoder.regionInside region frame.width frame.height = true) :
    ∀ {current : List ControlString} {transaction : Transaction},
      Staged options history current transaction →
      (Renderer.encodeRegions host frame maximumOutputBytes transaction regions).2 = true →
      Staged options history
        (current ++ patchStrings host frame maximumOutputBytes transaction.backend
          transaction.bytes.length regions)
        (Renderer.encodeRegions host frame maximumOutputBytes transaction regions).1 := by
  induction regions with
  | nil =>
      intro current transaction staged _
      rw [patchStrings, List.append_nil]
      exact staged
  | cons region regions inductionHypothesis =>
      intro current transaction staged succeeded
      have here := inside region List.mem_cons_self
      simp only [Renderer.encodeRegions] at succeeded ⊢
      by_cases full : maximumOutputBytes > 0 ∧ transaction.bytes.length ≥ maximumOutputBytes
      · rw [if_pos full] at succeeded
        cases succeeded
      rw [if_neg full] at succeeded ⊢
      set encoder := (transaction.backend.prepareArea host region frame).setOutputLimit
        (if maximumOutputBytes = 0 then 0 else maximumOutputBytes - transaction.bytes.length)
        with encoderEq
      by_cases exceeded : (encoder.encodeArea host region frame).1.limitExceeded = true
      · rw [if_pos exceeded] at succeeded
        cases succeeded
      rw [if_neg exceeded] at succeeded ⊢
      have added := staged.add readable valid here _ (Bool.eq_false_iff.mpr exceeded)
      have rest := inductionHypothesis
        (fun other member => inside other (List.mem_cons_of_mem _ member)) added succeeded
      have length : (transaction.add region (encoder.encodeArea host region frame)).bytes.length =
          transaction.bytes.length +
            (encoder.controlString host (frame.region region)).bytes.length := by
        rw [VideoSixelEncoder.encodeArea_of_inside host encoder valid here]
        exact List.length_append
      rw [length, List.append_assoc] at rest
      exact rest

/-! ### One render -/

/-- What a render encoded to these control strings leaves behind. -/
structure Recorded (options : SixelOptions) (history : List (List ControlString))
    (strings : List ControlString) (terminal : TerminalRenderer)
    (answer : Renderer × RenderResult) : Prop where
  accepted : answer.2.rendered = true →
    answer.1.backend.Backed (history ++ [strings]) ∧ Supported options history strings ∧
      (∀ string ∈ strings, string.WrittenWith options) ∧
      (terminal.Dated → answer.1.terminal.Dated ∧
        acceptedPayloads answer.1.terminal.screen =
          acceptedPayloads terminal.screen ++ strings.map ControlString.bytes)
  refused : answer.2.rendered = false →
    answer.2.error ≠ .none ∧ answer.1.backend.paletteRegistersValid = false

/-- An update accepted as a whole puts its control strings on record. -/
theorem recorded_of_present {draw : TerminalRenderer → TerminalRenderer × Bool}
    {framed : Prop} {drawn : List ScreenEvent} {strings : List ControlString}
    (adds : Adds framed draw drawn) (wellFormed : framed)
    (reports : ∀ terminal, Reports terminal (draw terminal).1 (draw terminal).2)
    (payloads : acceptedPayloads drawn = strings.map ControlString.bytes)
    (backed : renderer.backend.Backed (history ++ [strings]))
    (supported : Supported options history strings)
    (written : ∀ string ∈ strings, string.WrittenWith options) (changed : Bool)
    {result : RenderResult} :
    let presented := present renderer.options renderer.terminal changed draw
    result.rendered = presented.2 →
      result.error = (if presented.2 then .none else presented.1.lastError) →
      Recorded options history strings renderer.terminal
        ({ renderer with terminal := presented.1 }.settle frame presented.2, result) := by
  intro presented rendered error
  constructor
  · intro taken
    rw [rendered] at taken
    rcases extends_present renderer.options renderer.terminal changed adds with
      ⟨events, grown, -, same⟩
    refine ⟨?_, supported, written, ?_⟩
    · rw [taken]
      exact ⟨backed.persist, backed.definitions⟩
    · intro dated
      rw [terminal_settle]
      refine ⟨grown.dated dated, ?_⟩
      rw [grown.screen dated, same wellFormed taken, acceptedPayloads_append,
        acceptedPayloads_append, payloads]
      cases changed <;> rfl
  · intro refused
    rw [rendered] at refused
    have reason := lastError_present renderer.options renderer.terminal changed reports refused
    refine ⟨?_, ?_⟩
    · rw [error, refused]
      exact reason
    · rw [refused]
      rfl

theorem recorded_renderFull (readable : frame.isReadable = true)
    (adapted : renderer.backend.Adapted) (sameOptions : renderer.backend.options = options)
    (backed : renderer.backend.Backed history) (changed : Bool) :
    Recorded options history [(renderer.fullEncoder host frame).controlString host frame]
      renderer.terminal (renderer.renderFull host frame changed) := by
  have prepared := VideoSixelEncoder.sameRegisters_prepare host renderer.backend frame
  have begun := backed.begin prepared (VideoSixelEncoder.age_prepare host renderer.backend frame)
  have encodes : renderer.encodedFull host frame =
      (renderer.fullEncoder host frame).encodeAny host frame := by
    rw [encodedFull, VideoSixelEncoder.encode_eq, if_pos (Frame.isValid_of_isReadable readable)]
  by_cases exceeded : (renderer.encodedFull host frame).1.limitExceeded = true
  · rw [renderFull_of_exceeded exceeded]
    exact ⟨(fun taken => by cases taken), fun _ => ⟨(fun none => by cases none), rfl⟩⟩
  · have fits := Bool.eq_false_iff.mpr exceeded
    rw [renderFull_of_fits fits]
    rw [encodes] at fits
    rcases @staged_encodeAny host frame options history [] (renderer.fullEncoder host frame)
      (Frame.readable_of_isReadable readable)
      ((adapted.prepare host frame).setOutputLimit renderer.options.maximumOutputBytes)
      (prepared.options.trans sameOptions) ⟨begun.persist, begun.definitions⟩
      (supported_nil options history) fits with ⟨backedAfter, supported, written⟩
    simp only [encodes]
    apply @recorded_of_present
      { renderer with backend := ((renderer.fullEncoder host frame).encodeAny host frame).1 } frame
      options history
      (fun terminal => terminal.drawAtHome
        ((renderer.fullEncoder host frame).encodeAny host frame).2 false
        renderer.options.outputChunkBytes)
      _ [.drawn 0 0 ((renderer.fullEncoder host frame).encodeAny host frame).2 true]
      _ (adds_drawAtHome _ _) written.framed
    · exact fun terminal => terminal.reports_drawAtHome _ _ _
    · rfl
    · exact backedAfter
    · exact supported
    · intro string member
      rw [List.mem_singleton.mp member]
      exact written
    · rfl
    · rfl

theorem recorded_renderRegions (readable : frame.isReadable = true)
    (adapted : renderer.backend.Adapted) (sameOptions : renderer.backend.options = options)
    (backed : renderer.backend.Backed history)
    (inside : ∀ region ∈ regions,
      VideoSixelEncoder.regionInside region frame.width frame.height = true) (changed : Bool) :
    Recorded options history
      (patchStrings host frame renderer.options.maximumOutputBytes
        (renderer.backend.prepareRegional host frame) 0 regions)
      renderer.terminal (renderer.renderRegions host frame changed regions) := by
  have prepared := VideoSixelEncoder.sameRegisters_prepareRegional host renderer.backend frame
  have start : Staged options history []
      { backend := renderer.backend.prepareRegional host frame } :=
    { adapted := adapted.prepareRegional host frame
      sameOptions := prepared.options.trans sameOptions
      backed := backed.begin prepared
        (VideoSixelEncoder.age_prepareRegional host renderer.backend frame)
      supported := supported_nil options history
      written := fun _ none => absurd none List.not_mem_nil
      payloads := rfl
      inside := fun _ none => absurd none List.not_mem_nil }
  by_cases exceeded : (renderer.encodedPatches host frame regions).2 = false
  · rw [renderRegions_of_exceeded exceeded]
    exact ⟨(fun taken => by cases taken), fun _ => ⟨(fun none => by cases none), rfl⟩⟩
  · have succeeded := (Bool.not_eq_false _).mp exceeded
    rw [renderRegions_of_fits succeeded]
    have staged := start.encodeRegions (Frame.readable_of_isReadable readable)
      (Frame.isValid_of_isReadable readable) inside succeeded
    have framed : ∀ encoded ∈ (renderer.encodedPatches host frame regions).1.regions,
        IsControlString ((renderer.encodedPatches host frame regions).1.payload encoded) := by
      intro encoded member
      have listed : (renderer.encodedPatches host frame regions).1.payload encoded ∈
          (renderer.encodedPatches host frame regions).1.regions.map
            (renderer.encodedPatches host frame regions).1.payload := List.mem_map_of_mem member
      have payloads := staged.payloads
      change (renderer.encodedPatches host frame regions).1.regions.map
        (renderer.encodedPatches host frame regions).1.payload = _ at payloads
      rw [payloads] at listed
      rcases List.mem_map.mp listed with ⟨string, own, bytes⟩
      rw [← bytes]
      exact (staged.written string own).framed
    apply @recorded_of_present
      { renderer with backend := (renderer.encodedPatches host frame regions).1.backend } frame
      options history (drawRegions renderer.options (renderer.encodedPatches host frame regions).1)
      _ _ _ (adds_drawRegions renderer.options _) framed (reports_drawRegions renderer.options _)
    · have payloads := staged.payloads
      rw [List.nil_append] at payloads
      apply Eq.trans _ payloads
      rw [acceptedPayloads, List.filterMap_map, ← List.filterMap_eq_map]
      rfl
    · exact staged.backed
    · exact staged.supported
    · exact staged.written
    · rfl
    · rfl

/-! ### Every run -/

/-- A renderer, and the control strings accepted since the last reset, clear or failed
render, one list for each frame encoded. -/
structure Ledger where
  renderer : Renderer
  accepted : List (List ControlString) := []

namespace Ledger

def perform (host : Host) (ledger : Ledger) (call : Call) : Ledger where
  renderer := ledger.renderer.perform host call
  accepted :=
    match call with
    | .render frame =>
        let result := (ledger.renderer.render host frame).2
        if result.rendered then ledger.accepted ++ [ledger.renderer.controlStrings host frame]
        else if result.error = .none then ledger.accepted
        else []
    | .updateCellPixels _ => ledger.accepted
    | .clear => []
    | .reset => []

def performAll (host : Host) (ledger : Ledger) (calls : List Call) : Ledger :=
  calls.foldl (perform host) ledger

/-- The record is kept beside the renderer and does not touch it. -/
theorem renderer_performAll (host : Host) (ledger : Ledger) (calls : List Call) :
    (ledger.performAll host calls).renderer = ledger.renderer.performAll host calls := by
  induction calls generalizing ledger with
  | nil => rfl
  | cons call calls inductionHypothesis => exact inductionHypothesis (ledger.perform host call)

/-- Between two calls: the encoder's bookkeeping describes what was accepted. -/
structure InOrder (host : Host) (options : SixelOptions) (ledger : Ledger) : Prop where
  sound : ledger.renderer.Sound host
  sameOptions : ledger.renderer.backend.options = options
  backed : ledger.renderer.backend.Backed ledger.accepted
  written : ∀ string ∈ ledger.accepted.flatten, string.WrittenWith options
  dated : ledger.renderer.terminal.Dated
  drawn : ledger.accepted.flatten.map ControlString.bytes <:+
    acceptedPayloads ledger.renderer.terminal.screen

variable {ledger : Ledger}

/-- A render that is looked at is silent, or is recorded. -/
theorem InOrder.recorded (inOrder : ledger.InOrder host options)
    (readable : frame.isReadable = true) :
    ledger.renderer.render host frame = ((ledger.renderer.presentation host frame).1, {}) ∨
      Recorded options ledger.accepted (ledger.renderer.controlStrings host frame)
        ledger.renderer.terminal (ledger.renderer.render host frame) := by
  have looked := ledger.renderer.otherDamage_presentation host frame
  have current := inOrder.sound.otherDamage looked
  rcases looked.same with ⟨damage, supplied, same⟩
  have sameBackend : (ledger.renderer.presentation host frame).1.backend =
      ledger.renderer.backend := by rw [same]
  have sameTerminal : (ledger.renderer.presentation host frame).1.terminal =
      ledger.renderer.terminal := by rw [same]
  have backed := inOrder.backed
  have sameOptions := inOrder.sameOptions
  rw [← sameBackend] at backed sameOptions
  rw [render_eq, if_pos readable, renderFrame_eq, controlStrings, ← sameTerminal]
  cases decided : (ledger.renderer.presentation host frame).2 with
  | nothing => exact Or.inl rfl
  | full => exact Or.inr (recorded_renderFull readable current.adapted sameOptions backed _)
  | patches regions =>
      have placed := (inOrder.sound.safePlan (regionalPlan_eq_some_iff.mpr decided)).placed
      apply Or.inr
      exact recorded_renderRegions readable current.adapted sameOptions backed
        (fun region member => regionInside_of_placed (placed region member)) _

theorem InOrder.options_perform (inOrder : ledger.InOrder host options) (call : Call) :
    (ledger.perform host call).renderer.backend.options = options := by
  have sound := inOrder.sound.perform call
  show (ledger.renderer.perform host call).backend.options = options
  rw [sound.kind.options, ← inOrder.sameOptions, inOrder.sound.kind.options]
  exact congrArg SixelOptions.clamped (sixelOptions_perform host ledger.renderer call)

theorem InOrder.dated_perform (inOrder : ledger.InOrder host options) (call : Call) :
    (ledger.perform host call).renderer.terminal.Dated := by
  obtain ⟨_, grown⟩ := ledger.renderer.extends_perform host call
  exact grown.dated inOrder.dated

/-- A call that invalidates the registers starts a new record. -/
theorem InOrder.restarted (inOrder : ledger.InOrder host options) {call : Call}
    (accepted : (ledger.perform host call).accepted = [])
    (invalid : (ledger.perform host call).renderer.backend.paletteRegistersValid = false) :
    (ledger.perform host call).InOrder host options where
  sound := inOrder.sound.perform call
  sameOptions := inOrder.options_perform call
  backed := by
    apply VideoSixelEncoder.Backed.of_invalid _ invalid
    rw [inOrder.options_perform call, ← inOrder.sameOptions]
    exact inOrder.backed.persist
  written := by
    rw [accepted]
    exact fun _ none => absurd none List.not_mem_nil
  dated := inOrder.dated_perform call
  drawn := by
    rw [accepted]
    exact List.nil_suffix

/-- A call that sends no control string keeps the record. -/
theorem InOrder.kept (inOrder : ledger.InOrder host options) {call : Call}
    (accepted : (ledger.perform host call).accepted = ledger.accepted)
    (backend : (ledger.perform host call).renderer.backend = ledger.renderer.backend)
    (payloads : acceptedPayloads (ledger.perform host call).renderer.terminal.screen =
      acceptedPayloads ledger.renderer.terminal.screen) :
    (ledger.perform host call).InOrder host options where
  sound := inOrder.sound.perform call
  sameOptions := inOrder.options_perform call
  backed := by
    rw [accepted, backend]
    exact inOrder.backed
  written := by
    rw [accepted]
    exact inOrder.written
  dated := inOrder.dated_perform call
  drawn := by
    rw [accepted, payloads]
    exact inOrder.drawn

/-- A render that succeeds puts its control strings on record. -/
theorem InOrder.extended (inOrder : ledger.InOrder host options)
    (recorded : Recorded options ledger.accepted (ledger.renderer.controlStrings host frame)
      ledger.renderer.terminal (ledger.renderer.render host frame))
    (rendered : (ledger.renderer.render host frame).2.rendered = true) :
    (ledger.perform host (.render frame)).InOrder host options := by
  rcases recorded.accepted rendered with ⟨backed, -, written, read⟩
  rcases read inOrder.dated with ⟨dated, payloads⟩
  have accepted : (ledger.perform host (.render frame)).accepted =
      ledger.accepted ++ [ledger.renderer.controlStrings host frame] := by
    simp only [Ledger.perform, rendered]
    rfl
  refine ⟨inOrder.sound.perform (.render frame), inOrder.options_perform _, ?_, ?_, dated, ?_⟩
  · rw [accepted]
    exact backed
  · rw [accepted, List.flatten_append, List.flatten_singleton]
    intro string member
    exact (List.mem_append.mp member).elim (inOrder.written string) (written string)
  · show _ <:+ acceptedPayloads (ledger.renderer.render host frame).1.terminal.screen
    rw [accepted, payloads, List.flatten_append, List.flatten_singleton, List.map_append]
    rcases inOrder.drawn with ⟨earlier, same⟩
    exact ⟨earlier, by rw [← same, List.append_assoc]⟩

/-- What one call keeps. -/
theorem InOrder.perform (inOrder : ledger.InOrder host options) (call : Call) :
    (ledger.perform host call).InOrder host options := by
  cases call with
  | clear => exact inOrder.restarted rfl rfl
  | reset => exact inOrder.restarted rfl rfl
  | updateCellPixels cellPixels =>
      apply inOrder.kept rfl
      · show (ledger.renderer.updateCellPixels cellPixels).backend = _
        unfold updateCellPixels
        split_ifs <;> rfl
      · show acceptedPayloads (ledger.renderer.updateCellPixels cellPixels).terminal.screen = _
        unfold updateCellPixels
        split_ifs
        · rfl
        · exact acceptedPayloads_resize inOrder.dated cellPixels
  | render frame =>
      have silent : ∀ answer : Renderer × RenderResult,
          ledger.renderer.render host frame = answer → answer.2 = {} →
          answer.1.backend = ledger.renderer.backend →
          answer.1.terminal = ledger.renderer.terminal →
          (ledger.perform host (.render frame)).InOrder host options := by
        intro answer same result backend terminal
        have renderer : (ledger.perform host (.render frame)).renderer = answer.1 :=
          congrArg Prod.fst same
        apply inOrder.kept
        · simp only [Ledger.perform, same, result]
          rfl
        · rw [renderer, backend]
        · rw [renderer, terminal]
      cases readable : frame.isReadable with
      | false =>
          apply silent (ledger.renderer, {}) _ rfl rfl rfl
          rw [render_eq, readable]
          rfl
      | true =>
          rcases inOrder.recorded readable with unchanged | recorded
          · rcases (ledger.renderer.otherDamage_presentation host frame).same with
              ⟨damage, supplied, same⟩
            apply silent _ unchanged rfl
            · rw [same]
            · rw [same]
          · cases rendered : (ledger.renderer.render host frame).2.rendered with
            | false =>
                rcases recorded.refused rendered with ⟨failed, invalid⟩
                have accepted : (ledger.perform host (.render frame)).accepted = [] := by
                  simp only [Ledger.perform, rendered, failed]
                  rfl
                exact inOrder.restarted accepted invalid
            | true => exact inOrder.extended recorded rendered

theorem inOrder_performAll (host : Host) {options : RendererOptions}
    (positive : options.cellPixels.Positive)
    (persist : options.sixel.persistPaletteRegisters = true) (scratch : Scratch)
    (sink : OutputSink) (calls : List Call) :
    (performAll host { renderer := create host options scratch sink } calls).InOrder host
      options.sixel.clamped := by
  induction calls using List.reverseRecOn with
  | nil =>
      refine ⟨Sound.create host positive scratch sink, rfl, ?_,
        (fun _ none => absurd none List.not_mem_nil),
        dated_create sink options.useAlternateScreen, List.nil_suffix⟩
      exact VideoSixelEncoder.Backed.of_invalid persist rfl
  | append_singleton calls call inductionHypothesis =>
      rw [performAll, List.foldl_append]
      exact inductionHypothesis.perform call

end Ledger

/-- With persistent registers, in every run: whenever a render succeeds, its control strings have
been accepted, and each that omits its definitions relies on accepted ones since the last restart:
of its own signature, with none sent after them, and from fewer frames ago than the refresh
interval. -/
theorem omission_backed (host : Host) (options : RendererOptions)
    (positive : options.cellPixels.Positive)
    (persist : options.sixel.persistPaletteRegisters = true) (scratch : Scratch)
    (sink : OutputSink) (calls : List Call) (frame : Frame) :
    let ledger := Ledger.performAll host { renderer := create host options scratch sink } calls
    let strings := ledger.renderer.controlStrings host frame
    let answer := ledger.renderer.render host frame
    ledger.renderer = (create host options scratch sink).performAll host calls ∧
      (∀ string ∈ ledger.accepted.flatten, string.WrittenWith options.sixel) ∧
      ledger.accepted.flatten.map ControlString.bytes <:+
        acceptedPayloads ledger.renderer.terminal.screen ∧
      (answer.2.rendered = true →
        acceptedPayloads answer.1.terminal.screen =
            acceptedPayloads ledger.renderer.terminal.screen ++
              strings.map ControlString.bytes ∧
        (∀ string ∈ strings, string.WrittenWith options.sixel) ∧
        Supported options.sixel ledger.accepted strings) := by
  intro ledger strings answer
  have inOrder : ledger.InOrder host options.sixel.clamped :=
    Ledger.inOrder_performAll host positive persist scratch sink calls
  refine ⟨Ledger.renderer_performAll host _ calls, inOrder.written, inOrder.drawn, ?_⟩
  intro rendered
  cases readable : frame.isReadable with
  | false =>
      simp only [answer, render_eq, readable] at rendered
      cases rendered
  | true =>
      rcases inOrder.recorded readable with silent | recorded
      · simp only [answer, silent] at rendered
        cases rendered
      · rcases recorded.accepted rendered with ⟨-, supported, written, read⟩
        exact ⟨(read inOrder.dated).2, written, supported⟩

/-- The stripes sent twice: the second time without definitions. -/
theorem omission_backed_stripes :
    let options : RendererOptions :=
      { enableDirtyRegions := false
        sixel := { persistPaletteRegisters := true, paletteRefreshFrames := 2 } }
    let ledger := Ledger.performAll Host.plain
      { renderer := create Host.plain options {} { responses := fun _ => true } }
      [.render (.indexed .stripes)]
    (ledger.renderer.controlStrings Host.plain (.indexed .stripes)).map ControlString.defines =
        [false] ∧
      Supported options.sixel ledger.accepted
        (ledger.renderer.controlStrings Host.plain (.indexed .stripes)) := by
  refine ⟨by decide +kernel, ?_⟩
  exact ((omission_backed Host.plain
    { enableDirtyRegions := false
      sixel := { persistPaletteRegisters := true, paletteRefreshFrames := 2 } }
    ⟨by decide, by decide⟩ rfl {} { responses := fun _ => true } [.render (.indexed .stripes)]
    (.indexed .stripes)).2.2.2 (by decide +kernel)).2.2

end Renderer

end Rasterm
