import Mathlib.Logic.Relation
import Rasterm.Engine.Lifecycle
import Rasterm.Engine.Redraw

/-!
Contract: every command on an engine as a chain of few kinds of pieces.

Owns what the pieces leave alone, the pieces with their guards, the chain behind each command,
and how `initialize` ends, seen from the program its own `shutdown` left.

Does not own an invariant; each is shown of the pieces where it is used.
-/

set_option autoImplicit false

universe u

namespace Rasterm

/-! ### A render of the running engine -/

theorem Renderer.performAll_concat (host : Host) (renderer : Renderer) (calls : List Call)
    (last : Call) : renderer.performAll host (calls ++ [last]) =
      (renderer.performAll host calls).perform host last := by
  simp only [performAll, List.foldl_append, List.foldl_cons, List.foldl_nil]

namespace Engine

theorem renderer_refreshTerminalGeometry (host : Host) (engine : Engine)
    (observed : TerminalGeometry) : ∃ calls,
      (engine.refreshTerminalGeometry observed).renderer = engine.renderer.performAll host calls := by
  unfold refreshTerminalGeometry
  dsimp only
  split_ifs
  · exact ⟨[], rfl⟩
  · exact ⟨[], rfl⟩
  · exact ⟨[.updateCellPixels _, .reset], rfl⟩

/-- The calls on the renderer behind a render. -/
theorem renderer_renderFrame (host : Host) (engine : Engine) (observed : TerminalGeometry)
    (frame : Frame) : ∃ calls, (engine.renderFrame host observed frame).1.renderer =
      engine.renderer.performAll host calls := by
  obtain ⟨calls, refreshed⟩ := engine.renderer_refreshTerminalGeometry host observed
  cases frame with
  | packed view =>
      simp only [renderFrame, renderPackedFrame]
      split_ifs
      · exact ⟨[], rfl⟩
      · refine ⟨calls ++ [.render (.packed ((engine.refreshTerminalGeometry observed).colorManaged
          host view).2)], ?_⟩
        rw [renderer_record, Renderer.performAll_concat, ← refreshed]
        simp only [Renderer.perform, renderer_colorManaged]
  | indexed view =>
      simp only [renderFrame, renderIndexedFrame, renderValidatedIndexedFrame]
      split_ifs with unlisted
      · exact ⟨[], rfl⟩
      · exact ⟨[], rfl⟩
      · have listed : view.hasValidIndices = true := by
          by_contra absent
          simp [Bool.eq_false_of_not_eq_true absent] at unlisted
        refine ⟨calls ++ [.render (.indexed view)], ?_⟩
        rw [renderer_record, Renderer.performAll_concat, ← refreshed]
        simp [Renderer.perform, Renderer.render, listed]

end Engine

/-! ### A report -/

theorem InitializationFailure.code_status_ne (failure : InitializationFailure) :
    failure.status.code ≠ .none := by
  cases failure <;> simp [InitializationFailure.status]

namespace EngineImpl

variable (impl : EngineImpl) (error : ErrorCode)

theorem renderer_reportFailure : (impl.reportFailure error).renderer = impl.renderer := by
  unfold reportFailure
  split_ifs <;> rfl

theorem options_reportFailure : (impl.reportFailure error).options = impl.options := by
  unfold reportFailure
  split_ifs <;> rfl

theorem activeOutput_reportFailure :
    (impl.reportFailure error).activeOutput = impl.activeOutput := by
  unfold reportFailure
  split_ifs <;> rfl

theorem initialized_reportFailure :
    (impl.reportFailure error).initialized = impl.initialized := by
  unfold reportFailure
  split_ifs <;> rfl

end EngineImpl

namespace Program

variable {Id : Type u} {program : Program Id} {self other : Id}

/-! ### What the pieces leave alone -/

@[simp] theorem process_send (program : Program Id) (self : Id) (before after : OutputSink) :
    (program.send self before after).process = program.process := by
  unfold send
  split_ifs <;> rfl

@[simp] theorem engines_send (program : Program Id) (self : Id) (before after : OutputSink) :
    (program.send self before after).engines = program.engines := by
  unfold send
  split_ifs <;> rfl

/-- The console is as it was, up to what nobody reads while no handle is active. -/
structure SameConsole (before after : Process Id) : Prop where
  modes : after.console.modes = before.console.modes
  handlers : after.console.handlers = before.console.handlers
  activeHandle : after.console.activeHandle = before.console.activeHandle
  activeOwner : after.activeOwner = before.activeOwner

theorem SameConsole.refl (process : Process Id) : SameConsole process process :=
  ⟨rfl, rfl, rfl, rfl⟩

variable [DecidableEq Id]

section Pieces

variable (program self) (change : EngineImpl → EngineImpl)

@[simp] theorem process_update : (program.update self change).process = program.process := rfl

@[simp] theorem engines_update_self :
    (program.update self change).engines self = change (program.engines self) :=
  Function.update_self ..

theorem engines_update_other (distinct : other ≠ self) :
    (program.update self change).engines other = program.engines other :=
  Function.update_of_ne distinct ..

theorem update_update (later : EngineImpl → EngineImpl) :
    (program.update self change).update self later =
      program.update self fun impl => later (change impl) := by
  simp only [update, Function.update_idem, Function.update_self]

theorem update_of_eq (same : change (program.engines self) = program.engines self) :
    program.update self change = program := by
  simp only [update, same, Function.update_eq_self]

@[simp] theorem engines_restoreConsole :
    (program.restoreConsole self).engines = program.engines := rfl

@[simp] theorem process_destroyRenderer :
    (program.destroyRenderer self).process = program.process := by
  unfold destroyRenderer
  split <;> simp

@[simp] theorem engines_destroyRenderer_self :
    (program.destroyRenderer self).engines self =
      { program.engines self with renderer := none } := by
  unfold destroyRenderer
  split
  · rename_i absent
    generalize program.engines self = impl at absent
    cases impl
    cases absent
    rfl
  · simp

theorem engines_destroyRenderer_other (distinct : other ≠ self) :
    (program.destroyRenderer self).engines other = program.engines other := by
  unfold destroyRenderer
  split
  · rfl
  · rw [engines_update_other _ _ _ distinct, engines_send]

theorem update_send (before after : OutputSink)
    (output : (change (program.engines self)).activeOutput =
      (program.engines self).activeOutput) :
    (program.update self change).send self before after =
      (program.send self before after).update self change := by
  unfold send
  rw [engines_update_self, output]
  split_ifs <;> rfl

end Pieces

/-! ### The pieces -/

/-- Where the renderer of an engine writes. -/
def outputOf (options : RequestedOptions) : ActiveOutput :=
  if options.customOutput then .custom else .stdout

inductive Piece (host : Host) (own : Id) : Program Id → Program Id → Prop where
  /-- Fields of the engine that are about neither its renderer nor its output. -/
  | change (program : Program Id) (change : EngineImpl → EngineImpl)
      (renderer : (change (program.engines own)).renderer = (program.engines own).renderer)
      (options : (change (program.engines own)).options = (program.engines own).options)
      (output : (program.engines own).renderer.isSome = true →
        (change (program.engines own)).activeOutput = (program.engines own).activeOutput) :
      Piece host own program (program.update own change)
  /-- Anything, while the engine holds nothing. -/
  | request (program : Program Id) (change : EngineImpl → EngineImpl)
      (before : (program.engines own).renderer = none)
      (after : (change (program.engines own)).renderer = none)
      (free : program.process.activeOwner ≠ some own) :
      Piece host own program (program.update own change)
  | destroy (program : Program Id) : Piece host own program (program.destroyRenderer own)
  | restore (program : Program Id) (absent : (program.engines own).renderer = none) :
      Piece host own program (program.restoreConsole own)
  | activate (program : Program Id) (absent : (program.engines own).renderer = none)
      (console : (program.engines own).options.customOutput = false) (answers : Answers) :
      Piece host own program
        { program with
          process := (program.process.activate own
            (program.engines own).options.useAlternateScreen answers).1 }
  | construct (program : Program Id) (absent : (program.engines own).renderer = none)
      (directed : (program.engines own).activeOutput = some (outputOf (program.engines own).options))
      (owner : (program.engines own).options.customOutput = false →
        program.process.activeOwner = some own)
      (options : RendererOptions)
      (alternate : options.useAlternateScreen = (program.engines own).options.useAlternateScreen)
      (scratch : Scratch) (responses : Nat → Bool) :
      Piece host own program
        ((program.send own { responses := responses }
            (Renderer.create host options scratch { responses := responses }).terminal.sink).update
          own fun impl =>
            { impl with renderer := some (.create host options scratch { responses := responses }) })
  /-- Calls on the renderer. -/
  | use (program : Program Id) (renderer : Renderer)
      (present : (program.engines own).renderer = some renderer) (calls : List Renderer.Call) :
      Piece host own program
        ((program.send own renderer.terminal.sink
            (renderer.performAll host calls).terminal.sink).update own fun impl =>
          { impl with renderer := some (renderer.performAll host calls) })
  | observe (program : Program Id) (window : Option ConsoleWindow)
      (fontSize : Option (Int × Int)) :
      Piece host own program (program.refreshGeometry own window fontSize).1
  /-- The object is gone, and a new one in its place. -/
  | vanish (program : Program Id) (absent : (program.engines own).renderer = none)
      (free : program.process.activeOwner ≠ some own) :
      Piece host own program
        { program with
          process := program.process.put own
            { (program.process.scene own).restore own with session := {} }
          engines := Function.update program.engines own {} }

/-- What a command does, piece by piece. -/
abbrev Chain (host : Host) (own : Id) : Program Id → Program Id → Prop :=
  Relation.ReflTransGen (Piece host own)

variable {host : Host}

theorem Chain.then {first second third : Program Id} (chain : Chain host self first second)
    (piece : Piece host self second third) : Chain host self first third :=
  chain.tail piece

/-! ### `shutdown` -/

/-- An engine that holds nothing. -/
structure Down (own : Id) (program : Program Id) : Prop where
  renderer : (program.engines own).renderer = none
  initialized : (program.engines own).initialized = false
  owner : program.process.activeOwner ≠ some own
  session : (program.process.sessions own).Idle

/-- A change that starts nothing. -/
theorem Down.update (down : Down self program) {change : EngineImpl → EngineImpl}
    (renderer : (change (program.engines self)).renderer = (program.engines self).renderer)
    (initialized : (change (program.engines self)).initialized =
      (program.engines self).initialized) : Down self (program.update self change) where
  renderer := by rw [engines_update_self, renderer, down.renderer]
  initialized := by rw [engines_update_self, initialized, down.initialized]
  owner := down.owner
  session := down.session

/-- There is nothing to restore. -/
theorem Down.restore_eq (down : Down self program) :
    program.process.restore self = program.process :=
  Process.restore_of_idle down.session down.owner

theorem down_shutdown (program : Program Id) (self : Id) : Down self (program.shutdown self) where
  renderer := by
    rw [shutdown, engines_update_self, engines_restoreConsole, engines_destroyRenderer_self]
    rfl
  initialized := by
    rw [shutdown, engines_update_self]
    rfl
  owner := Process.activeOwner_restore_ne _ self
  session := Process.idle_restore _ self

theorem chain_shutdown (program : Program Id) (self : Id) :
    Chain host self program (program.shutdown self) := by
  have absent : ((program.destroyRenderer self).engines self).renderer = none := by
    rw [engines_destroyRenderer_self]
  refine ((Chain.then .refl (.destroy program)).then (.restore _ absent)).then ?_
  apply Piece.change
  · rfl
  · rfl
  · intro some
    rw [engines_restoreConsole, absent] at some
    cases some

/-! ### `initialize` -/

/-- Before the renderer is constructed: the terminal is owned, unless the output is the
caller's, and restoring the session would leave what `shutdown` left. -/
structure Ready (own : Id) (stopped program : Program Id) : Prop where
  renderer : (program.engines own).renderer = none
  initialized : (program.engines own).initialized = false
  owner : program.process.activeOwner = some own ↔
    (program.engines own).options.customOutput = false
  restores : SameConsole stopped.process (program.process.restore own)

/-- How `initialize` ends, seen from the program its own `shutdown` left. -/
structure Ends (host : Host) (own : Id) (stopped : Program Id) (ended : Program Id × Status) :
    Prop where
  chain : Chain host own stopped ended.1
  started : ended.2.code = .none → (ended.1.engines own).initialized = true ∧
    (ended.1.engines own).renderer.isSome = true ∧
    (ended.1.process.activeOwner = some own ↔
      (ended.1.engines own).options.customOutput = false)
  failed : ended.2.code ≠ .none → Down own ended.1 ∧ SameConsole stopped.process ended.1.process

variable {stopped : Program Id} {around : Surroundings}

/-- The handlers leave what a `shutdown` would, as long as restoring the console does. -/
theorem Ends.caught (chain : Chain host self stopped program)
    (initialized : (program.engines self).initialized = false)
    (restores : SameConsole stopped.process (program.process.restore self))
    (failure : InitializationFailure) : Ends host self stopped (program.caught self failure) := by
  have gone : ((program.destroyRenderer self).engines self).renderer = none := by
    rw [engines_destroyRenderer_self]
  have restored : ((program.destroyRenderer self).restoreConsole self).process =
      program.process.restore self := by
    rw [restoreConsole, process_destroyRenderer]
  have chainRestored : Chain host self stopped
      ((program.destroyRenderer self).restoreConsole self) :=
    (chain.then (.destroy program)).then (.restore _ gone)
  have down : Down self ((program.destroyRenderer self).restoreConsole self) := by
    refine ⟨gone, ?_, ?_, ?_⟩
    · rw [engines_restoreConsole, engines_destroyRenderer_self]
      exact initialized
    · rw [restored]
      exact Process.activeOwner_restore_ne _ self
    · rw [restored]
      exact Process.idle_restore _ self
  let note : EngineImpl → EngineImpl := fun impl =>
    impl.fail failure.status.code failure.status.message
  have downNoted : Down self
      (((program.destroyRenderer self).restoreConsole self).update self note) :=
    down.update rfl rfl
  refine ⟨chainRestored.then (.change _ note rfl rfl fun _ => rfl),
    fun succeeded => absurd succeeded failure.code_status_ne, fun _ => ⟨downNoted, ?_⟩⟩
  rw [← restored] at restores
  exact restores

/-- An exit that only notes the failure. -/
theorem Ends.leave (chain : Chain host self stopped program) (down : Down self program)
    (same : SameConsole stopped.process program.process) {change : EngineImpl → EngineImpl}
    (renderer : (change (program.engines self)).renderer = (program.engines self).renderer)
    (options : (change (program.engines self)).options = (program.engines self).options)
    (initialized : (change (program.engines self)).initialized =
      (program.engines self).initialized) {status : Status} (code : status.code ≠ .none) :
    Ends host self stopped (program.leave self around status change) := by
  have downNoted : Down self (program.update self change) := down.update renderer initialized
  have chainNoted : Chain host self stopped (program.update self change) :=
    chain.then (.change program change renderer options fun some => by
      rw [down.renderer] at some
      cases some)
  unfold Program.leave
  split
  · exact .caught chain down.initialized (by rw [down.restore_eq]; exact same) _
  · refine .caught chainNoted downNoted.initialized ?_ _
    rw [downNoted.restore_eq]
    exact same
  · exact ⟨chainNoted, fun succeeded => absurd succeeded code, fun _ => ⟨downNoted, same⟩⟩

/-- Restoring the console of a ready engine undoes what made it ready. -/
theorem Ready.down (ready : Ready self stopped program) :
    Down self (program.restoreConsole self) where
  renderer := ready.renderer
  initialized := ready.initialized
  owner := Process.activeOwner_restore_ne _ self
  session := Process.idle_restore _ self

/-- A change that keeps the engine ready. -/
theorem Ready.update (ready : Ready self stopped program) {change : EngineImpl → EngineImpl}
    (renderer : (change (program.engines self)).renderer = (program.engines self).renderer)
    (initialized : (change (program.engines self)).initialized =
      (program.engines self).initialized)
    (options : (change (program.engines self)).options = (program.engines self).options) :
    Ready self stopped (program.update self change) where
  renderer := by rw [engines_update_self, renderer, ready.renderer]
  initialized := by rw [engines_update_self, initialized, ready.initialized]
  owner := by rw [engines_update_self, options, process_update, ready.owner]
  restores := ready.restores

/-- A renderer that is destroyed at once has only been on its output. -/
theorem destroyRenderer_construct (absent : (program.engines self).renderer = none)
    (renderer : Renderer) :
    (program.update self fun impl => { impl with renderer := some renderer }).destroyRenderer self =
      program.send self renderer.terminal.sink renderer.destroy.sink := by
  simp only [destroyRenderer, engines_update_self]
  rw [update_send _ _ _ _ _ rfl, update_update, update_of_eq]
  rw [engines_send]
  generalize program.engines self = impl at absent
  cases impl
  cases absent
  rfl

theorem Ends.construct (chain : Chain host self stopped program)
    (ready : Ready self stopped program) :
    Ends host self stopped (program.construct host self around) := by
  let options := (program.engines self).options
  let capabilities := (program.engines self).detectedCapabilities
  let directed := program.update self fun impl =>
    { impl with activeOutput := some (if options.customOutput then .custom else .stdout) }
  let sink : OutputSink := { responses := around.responses }
  let renderer := Renderer.create host (options.rendererOptions capabilities) around.scratch sink
  let prepared := directed.send self sink renderer.terminal.sink
  let constructed := prepared.update self fun impl => { impl with renderer := some renderer }
  have chainDirected : Chain host self stopped directed := by
    refine chain.then (.change program _ rfl rfl fun some => ?_)
    rw [ready.renderer] at some
    cases some
  have readyDirected : Ready self stopped directed := ready.update rfl rfl rfl
  have same : directed.engines self = { program.engines self with
      activeOutput := some (outputOf options) } := engines_update_self ..
  have chainConstructed : Chain host self stopped constructed :=
    chainDirected.then (.construct directed readyDirected.renderer (by rw [same])
      readyDirected.owner.mpr (options.rendererOptions capabilities) (by rw [same]; rfl)
      around.scratch around.responses)
  have absent : (prepared.engines self).renderer = none := by
    rw [engines_send]
    exact readyDirected.renderer
  have destroyed : constructed.destroyRenderer self =
      prepared.send self renderer.terminal.sink renderer.destroy.sink :=
    destroyRenderer_construct absent renderer
  have gone : ((constructed.destroyRenderer self).engines self).renderer = none := by
    rw [engines_destroyRenderer_self]
  have initialized : ((constructed.destroyRenderer self).engines self).initialized = false := by
    rw [destroyed, engines_send, engines_send]
    exact readyDirected.initialized
  have process : (constructed.destroyRenderer self).process = program.process := by
    rw [process_destroyRenderer]
    simp only [constructed, prepared, directed, process_update, process_send]
  have chainDestroyed : Chain host self stopped (constructed.destroyRenderer self) :=
    chainConstructed.then (.destroy _)
  have restores : SameConsole stopped.process
      ((constructed.destroyRenderer self).process.restore self) := by
    rw [process]
    exact ready.restores
  have proceeds : Ends host self stopped
      (if !renderer.terminal.good then
        ((constructed.destroyRenderer self).restoreConsole self).refuse self around
          ⟨.outputWriteFailed, "The output sink rejected terminal initialization bytes."⟩
      else (constructed.update self EngineImpl.begin, {})) := by
    split_ifs
    · unfold Program.refuse
      exact .leave (chainDestroyed.then (.restore _ gone))
        ⟨gone, initialized, Process.activeOwner_restore_ne _ self, Process.idle_restore _ self⟩
        restores rfl rfl rfl (by simp)
    · refine ⟨chainConstructed.then (.change _ _ rfl rfl fun _ => rfl), fun _ => ?_,
        fun failed => absurd rfl failed⟩
      have now : (constructed.update self EngineImpl.begin).engines self =
          { directed.engines self with renderer := some renderer }.begin := by
        simp only [constructed, prepared, engines_update_self, engines_send]
      have owner : (constructed.update self EngineImpl.begin).process = directed.process := by
        simp only [constructed, prepared, process_update, process_send]
      rw [now, owner]
      exact ⟨rfl, rfl, readyDirected.owner⟩
  unfold Program.construct
  split
  · exact .caught chainDirected readyDirected.initialized readyDirected.restores _
  · have undone := Ends.caught chainDestroyed initialized restores
    rw [destroyed] at undone
    exact undone _
  · exact proceeds

theorem Ends.prepare (chain : Chain host self stopped program)
    (ready : Ready self stopped program) :
    Ends host self stopped (program.prepare host self around) := by
  let options := (program.engines self).options
  let overridden := program.update self fun impl =>
    { impl with detectedCapabilities := options.applyOverrides impl.detectedCapabilities }
  have chainOverridden : Chain host self stopped overridden :=
    chain.then (.change program _ rfl rfl fun _ => rfl)
  have readyOverridden : Ready self stopped overridden := ready.update rfl rfl rfl
  unfold Program.prepare Program.refuse
  dsimp only
  split_ifs
  · exact .leave ((chainOverridden.then (.restore _ readyOverridden.renderer)).then
      (.change _ _ rfl rfl fun _ => rfl)) (readyOverridden.down.update rfl rfl)
      readyOverridden.restores rfl rfl rfl (by simp)
  · exact .construct chainOverridden readyOverridden

/-- An exit before anything is taken. -/
theorem Ends.refuse (down : Down self stopped) {change : EngineImpl → EngineImpl}
    (renderer : (change (stopped.engines self)).renderer = (stopped.engines self).renderer)
    (initialized : (change (stopped.engines self)).initialized =
      (stopped.engines self).initialized) {status : Status} (code : status.code ≠ .none) :
    Ends host self stopped (stopped.update self change, status) where
  chain := Chain.then .refl
    (.request stopped change down.renderer (renderer.trans down.renderer) down.owner)
  started := fun succeeded => absurd succeeded code
  failed := fun _ => ⟨down.update renderer initialized, .refl stopped.process⟩

theorem owner_of_activated {process : Process Id} {useAlternateScreen : Bool} {answers : Answers}
    (code : (process.activate self useAlternateScreen answers).2.code = .none) :
    (process.activate self useAlternateScreen answers).1.activeOwner = some self := by
  have ends := (process.scene self).activate_activated self useAlternateScreen answers
  simp only [Process.activate] at code ⊢
  generalize (process.scene self).activate self useAlternateScreen answers = result at ends code ⊢
  obtain ⟨next, status⟩ := result
  cases ends with
  | failed refused _ _ _ => exact absurd code refused
  | held free taken handle opened detected => rfl

theorem idle_of_unactivated {process : Process Id} {useAlternateScreen : Bool} {answers : Answers}
    (code : (process.activate self useAlternateScreen answers).2.code ≠ .none) :
    ((process.activate self useAlternateScreen answers).1.sessions self).Idle := by
  have ends := (process.scene self).activate_activated self useAlternateScreen answers
  simp only [Process.activate, Process.put, Function.update_self] at code ⊢
  generalize (process.scene self).activate self useAlternateScreen answers = result at ends code ⊢
  obtain ⟨next, status⟩ := result
  cases ends with
  | failed refused _ _ idle => exact idle
  | held free taken handle opened detected => exact absurd rfl code

/-- The modes that a session gives back are those its activation found. -/
theorem restore_activate {process : Process Id} {base : List ControlHandler}
    (sound : process.Sound base) (other : process.activeOwner ≠ some self)
    {useAlternateScreen : Bool} {answers : Answers}
    (code : (process.activate self useAlternateScreen answers).2.code = .none) :
    SameConsole process ((process.activate self useAlternateScreen answers).1.restore self) := by
  have soundActivated : Process.Sound base (process.activate self useAlternateScreen answers).1 :=
    sound.perform (.activate self useAlternateScreen answers)
  have soundRestored := soundActivated.restore self
  have unchanged : process.restore self = process := sound.restore_eq_of_not_owner other
  have free : process.activeOwner = none := by
    rw [← unchanged]
    exact Process.free_of_activated code
  have taken := Process.lease_perform sound (.activate self useAlternateScreen answers)
  have given := Process.lease_restore soundActivated self
  have unheld : process.lease.giveBack self = process.lease := by
    rw [← Process.lease_restore sound self, unchanged]
  have holder : process.lease.holder = none := by
    simp only [Process.lease, free, Option.map_none]
  simp only [Process.perform, Process.request, Lease.serve, if_pos code] at taken
  rw [Lease.take_of_free (by rw [unheld, holder]), unheld] at taken
  rw [taken, Lease.settings_giveBack rfl] at given
  have released : ((process.activate self useAlternateScreen answers).1.restore self).activeOwner =
      none := by
    have unowned := congrArg Lease.holder given
    simpa [Process.lease] using unowned
  refine ⟨congrArg Lease.settings given, ?_, ?_, released.trans free.symm⟩
  · rw [soundRestored.handlers, sound.handlers, released, free]
  · rw [soundRestored.quiet released, sound.quiet free]

/-- An activation by an engine that holds nothing. -/
theorem activate_of_down (down : Down self program) {base : List ControlHandler}
    (sound : program.process.Sound base)
    (console : (program.engines self).options.customOutput = false) (answers : Answers) :
    let activated := program.process.activate self
      (program.engines self).options.useAlternateScreen answers
    let probed := { program with process := activated.1 }
    (activated.2.code = .none → Ready self program probed) ∧
      (activated.2.code ≠ .none → Down self probed ∧ SameConsole program.process probed.process) := by
  intro activated probed
  have unchanged : program.process.restore self = program.process :=
    sound.restore_eq_of_not_owner down.owner
  constructor
  · intro code
    exact ⟨down.renderer, down.initialized,
      ⟨fun _ => console, fun _ => owner_of_activated code⟩,
      restore_activate sound down.owner code⟩
  · intro code
    obtain ⟨sameConsole, sameOwner, -, -⟩ := sound.failsWithoutTrace self _ answers code
    rw [unchanged] at sameConsole sameOwner
    refine ⟨⟨down.renderer, down.initialized, ?_, idle_of_unactivated code⟩, ?_⟩
    · intro owner
      exact down.owner (sameOwner.symm.trans owner)
    · exact ⟨congrArg Console.modes sameConsole, congrArg Console.handlers sameConsole,
        congrArg Console.activeHandle sameConsole, sameOwner⟩

/-- Every exit of `initialize`; the process has to be sound for its session to give back what
it found. -/
theorem ends_initializeEngine (program : Program Id) (self : Id) (requested : RequestedOptions)
    (around : Surroundings) {base : List ControlHandler} (sound : program.process.Sound base) :
    Ends host self (program.shutdown self)
      (program.initializeEngine host self requested around) := by
  have down : Down self (program.shutdown self) := down_shutdown program self
  have soundStopped : (program.shutdown self).process.Sound base := by
    rw [shutdown, process_update, restoreConsole, process_destroyRenderer]
    exact sound.restore self
  unfold initializeEngine
  generalize program.shutdown self = stopped at down soundStopped ⊢
  dsimp only
  generalize configuredEq : (stopped.engines self).diagnostics.configure requested.diagnostics
    around.fileOpens = configured
  set accepted := stopped.update self fun impl =>
    { impl with options := requested, diagnostics := configured.1 } with acceptedEq
  set noted := accepted.update self fun impl =>
    { impl with latestStatus := configured.2 } with notedEq
  have downAccepted : Down self accepted := down.update rfl rfl
  have downNoted : Down self noted := downAccepted.update rfl rfl
  have chainAccepted : Chain host self stopped accepted :=
    Chain.then .refl (.request stopped _ down.renderer down.renderer down.owner)
  have chainNoted : Chain host self stopped noted :=
    chainAccepted.then (.change accepted _ rfl rfl fun _ => rfl)
  have options : (noted.engines self).options = requested := by
    rw [notedEq, engines_update_self, acceptedEq, engines_update_self]
  split_ifs with invalid unconfigured custom failed
  · exact .refuse down rfl rfl (by simp)
  · exact .leave chainAccepted downAccepted (.refl stopped.process) rfl rfl rfl unconfigured
  · -- Output of the caller's: the console is not touched.
    apply Ends.prepare (chainNoted.then (.change noted _ rfl rfl fun _ => rfl))
    have untouched : Ready self stopped noted := by
      refine ⟨downNoted.renderer, downNoted.initialized, ?_, ?_⟩
      · rw [options, custom]
        exact ⟨fun owner => absurd owner downNoted.owner, fun console => by cases console⟩
      · rw [downNoted.restore_eq]
        exact .refl stopped.process
    exact untouched.update rfl rfl rfl
  all_goals
    have console : (noted.engines self).options.customOutput = false := by
      rw [options]
      exact Bool.eq_false_of_not_eq_true custom
    obtain ⟨ready, unready⟩ := activate_of_down downNoted soundStopped console around.console
    have chainActivated := chainNoted.then
      (.activate noted downNoted.renderer console around.console)
    rw [options] at ready unready chainActivated
  · obtain ⟨downActivated, same⟩ := unready failed
    exact .leave chainActivated downActivated same rfl rfl rfl failed
  · have activated := ready (not_not.mp failed)
    have fromStopped : Ready self stopped _ := ⟨activated.renderer, activated.initialized,
      activated.owner, activated.restores⟩
    exact .prepare (chainActivated.then (.change _ _ rfl rfl fun _ => rfl))
      (fromStopped.update rfl rfl rfl)

/-! ### The other commands -/

/-- The renderer of this engine writes to the console. -/
def Presents (program : Program Id) (self : Id) : Prop :=
  (program.engines self).renderer.isSome = true ∧
    (program.engines self).options.customOutput = false

/-- Between two commands. -/
structure Finished (own : Id) (program : Program Id) : Prop where
  initialized : (program.engines own).initialized = (program.engines own).renderer.isSome
  owner : program.process.activeOwner = some own → program.Presents own

omit [DecidableEq Id] in
theorem Down.finished (down : Down self program) : Finished self program where
  initialized := by rw [down.initialized, down.renderer]; rfl
  owner := fun owns => absurd owns down.owner

/-- A whole command on one engine. -/
structure Course (host : Host) (own : Id) (before after : Program Id) : Prop where
  chain : Chain host own before after
  finished : Finished own before → Finished own after

theorem course_shutdown (program : Program Id) (self : Id) :
    Course host self program (program.shutdown self) :=
  ⟨chain_shutdown program self, fun _ => (down_shutdown program self).finished⟩

theorem course_initializeEngine (program : Program Id) (self : Id) (requested : RequestedOptions)
    (around : Surroundings) {base : List ControlHandler} (sound : program.process.Sound base) :
    Course host self program (program.initializeEngine host self requested around).1 := by
  have ends := @ends_initializeEngine Id _ host program self requested around base sound
  refine ⟨(chain_shutdown program self).trans ends.chain, fun _ => ?_⟩
  by_cases code : (program.initializeEngine host self requested around).2.code = .none
  · obtain ⟨initialized, some, owner⟩ := ends.started code
    exact ⟨initialized.trans some.symm, fun owns => ⟨some, owner.mp owns⟩⟩
  · exact (ends.failed code).1.finished

/-- A change of fields that are about neither the renderer nor the output. -/
theorem course_update {change : EngineImpl → EngineImpl}
    (renderer : (change (program.engines self)).renderer = (program.engines self).renderer)
    (options : (change (program.engines self)).options = (program.engines self).options)
    (output : (change (program.engines self)).activeOutput =
      (program.engines self).activeOutput)
    (initialized : (change (program.engines self)).initialized =
      (program.engines self).initialized) :
    Course host self program (program.update self change) where
  chain := Chain.then .refl (.change program change renderer options fun _ => output)
  finished := fun finished => by
    refine ⟨?_, fun owns => ?_⟩
    · rw [engines_update_self, renderer, initialized]
      exact finished.initialized
    · unfold Presents
      rw [engines_update_self, renderer, options]
      exact finished.owner owns

theorem Course.trans {first second third : Program Id} (head : Course host self first second)
    (tail : Course host self second third) : Course host self first third :=
  ⟨head.chain.trans tail.chain, fun finished => tail.finished (head.finished finished)⟩

/-- Calls on the renderer, and what the engine notes about them. -/
theorem course_use {renderer used : Renderer}
    (present : (program.engines self).renderer = some renderer)
    (calls : ∃ calls, used = renderer.performAll host calls)
    {change : EngineImpl → EngineImpl}
    (same : change { program.engines self with renderer := some used } =
      change (program.engines self))
    (changed : (change (program.engines self)).renderer = some used)
    (options : (change (program.engines self)).options = (program.engines self).options)
    (output : (change (program.engines self)).activeOutput =
      (program.engines self).activeOutput)
    (initialized : (change (program.engines self)).initialized =
      (program.engines self).initialized) :
    Course host self program
      ((program.send self renderer.terminal.sink used.terminal.sink).update self change) := by
  obtain ⟨calls, rfl⟩ := calls
  let between := (program.send self renderer.terminal.sink
    (renderer.performAll host calls).terminal.sink).update self fun impl =>
      { impl with renderer := some (renderer.performAll host calls) }
  have twice : (program.send self renderer.terminal.sink
      (renderer.performAll host calls).terminal.sink).update self change =
      between.update self change := by
    simp only [between, update_update]
    simp only [update, engines_send, same]
  have now : between.engines self =
      { program.engines self with renderer := some (renderer.performAll host calls) } := by
    rw [engines_update_self, engines_send]
  have use : Course host self program between := by
    refine ⟨Chain.then .refl (.use program renderer present calls), fun finished => ⟨?_, ?_⟩⟩
    · rw [now]
      have before := finished.initialized
      rw [present] at before
      exact before
    · intro owns
      unfold Presents
      rw [now]
      refine ⟨rfl, (finished.owner ?_).2⟩
      rwa [process_update, process_send] at owns
  rw [twice]
  apply use.trans
  apply course_update
  · rw [now, same, changed]
  · rw [now, same, options]
  · rw [now, same, output]
  · rw [now, same, initialized]

theorem course_observe (program : Program Id) (self : Id) (window : Option ConsoleWindow)
    (fontSize : Option (Int × Int)) (frame : Frame) :
    Course host self program (program.observe self window fontSize frame).1 := by
  unfold observe
  split_ifs
  · exact ⟨Chain.then .refl (.observe program window fontSize),
      fun finished => ⟨finished.initialized, finished.owner⟩⟩
  · exact ⟨.refl, id⟩

@[simp] theorem engines_observe (program : Program Id) (self : Id)
    (window : Option ConsoleWindow) (fontSize : Option (Int × Int)) (frame : Frame) :
    (program.observe self window fontSize frame).1.engines = program.engines := by
  unfold observe
  split_ifs <;> rfl

theorem course_renderFrame (program : Program Id) (self : Id) (window : Option ConsoleWindow)
    (fontSize : Option (Int × Int)) (frame : Frame) :
    Course host self program (program.renderFrame host self window fontSize frame).1 := by
  unfold renderFrame
  split
  · rename_i renderer initialized present
    apply (course_observe program self window fontSize frame).trans
    have same := engines_observe program self window fontSize frame
    dsimp only
    apply course_use
    · rw [same, present]
    · exact ((program.engines self).running renderer).renderer_renderFrame host _ frame
    · rfl
    · rw [EngineImpl.renderer_reportFailure]
      rfl
    · rw [EngineImpl.options_reportFailure]
      rfl
    · rw [EngineImpl.activeOutput_reportFailure]
      rfl
    · rw [EngineImpl.initialized_reportFailure]
      rfl
  · dsimp only
    apply course_update <;> rfl

theorem course_clear (program : Program Id) (self : Id) :
    Course host self program (program.clear self).1 := by
  unfold clear
  split
  · rename_i renderer initialized present
    dsimp only
    apply course_use present
    · exact ⟨[.clear], rfl⟩
    · rfl
    · rw [EngineImpl.renderer_reportFailure]
      rfl
    · rw [EngineImpl.options_reportFailure]
      rfl
    · rw [EngineImpl.activeOutput_reportFailure]
      rfl
    · rw [EngineImpl.initialized_reportFailure]
      rfl
  · dsimp only [fail]
    apply course_update <;> rfl

omit [DecidableEq Id] in
/-- A reset writes nothing. -/
theorem send_reset (program : Program Id) (self : Id) (renderer : Renderer) :
    program.send self renderer.terminal.sink renderer.reset.terminal.sink = program := by
  unfold send
  split_ifs
  · simp [Renderer.reset, Renderer.forget]
  · rfl

theorem course_reset (program : Program Id) (self : Id) :
    Course host self program (program.reset self) := by
  cases present : (program.engines self).renderer with
  | none =>
      apply course_update
      · simp only [present, Option.map_none]
      all_goals rfl
  | some renderer =>
      have same : program.reset self =
          (program.send self renderer.terminal.sink renderer.reset.terminal.sink).update self
            fun impl =>
              { impl with
                renderer := some renderer.reset
                colorConverter := impl.colorConverter.reset
                latestStats := {} } := by
        rw [send_reset]
        simp only [reset, update, present, Option.map_some]
      rw [same]
      apply course_use present
      · exact ⟨[.reset], rfl⟩
      all_goals rfl

theorem course_discard (program : Program Id) (self : Id) :
    Course host self program (program.discard self) := by
  have down : Down self (program.shutdown self) := down_shutdown program self
  refine ⟨(chain_shutdown program self).then (.vanish _ down.renderer down.owner), fun _ => ?_⟩
  apply Down.finished
  refine ⟨?_, ?_, Scene.activeOwner_release_ne, ?_⟩
  · simp only [discard, Function.update_self]
  · simp only [discard, Function.update_self]
  · simp only [discard, Process.put, Function.update_self]
    exact ⟨rfl, rfl, rfl, rfl⟩

/-- Every command on an engine. -/
theorem course_perform (program : Program Id) {base : List ControlHandler}
    (sound : program.process.Sound base) (command : Command Id)
    (engine : command.engine = some self) :
    Course host self program (program.perform host command) := by
  cases command with
  | initializeEngine own requested around =>
      cases engine
      exact course_initializeEngine program self requested around sound
  | shutdown own =>
      cases engine
      exact course_shutdown program self
  | render own window fontSize frame =>
      cases engine
      exact course_renderFrame program self window fontSize frame
  | clear own =>
      cases engine
      exact course_clear program self
  | reset own =>
      cases engine
      exact course_reset program self
  | discard own =>
      cases engine
      exact course_discard program self
  | controlEvent event => cases engine
  | setModes outputMode stdoutMode => cases engine

end Program

end Rasterm
