import Rasterm.Engine.Options
import Rasterm.Platform.Activation
import Rasterm.Render.Recovery

/-!
Contract: `Engine::Impl` from one `initialize` to the next, for any number of engines in one
process.

Owns every exit of `initialize`, `shutdown`, the calls on an engine that is not initialized,
the diagnostics, and the log of what reaches stdout. The log notes who wrote and what the
console was then; the code does not have it.

Does not own statistics of time, what an exception during a render leaves, nor one that
leaves `initialize` because a message could not be allocated outside its `try`.
-/

set_option autoImplicit false

universe u

namespace Rasterm

/-! ### Diagnostics -/

inductive DiagnosticSeverity where
  | info | warning | error
deriving DecidableEq, Repr

structure Diagnostic where
  severity : DiagnosticSeverity
  code : ErrorCode
  message : String
deriving DecidableEq, Repr

structure DiagnosticReporter where
  /-- `file != nullptr`. -/
  file : Bool := false
  /-- `callback != nullptr`. -/
  callback : Bool := false
  /-- The lines written to files. -/
  lines : List Diagnostic := []
  /-- The calls of callbacks. -/
  called : List Diagnostic := []
deriving DecidableEq, Repr

namespace DiagnosticReporter

def reset (reporter : DiagnosticReporter) : DiagnosticReporter :=
  { reporter with file := false, callback := false }

def configure (reporter : DiagnosticReporter) (options : DiagnosticOptions) (fileOpens : Bool) :
    DiagnosticReporter × Status :=
  let called := { reporter.reset with callback := options.callback }
  if (options.filePath.getD "").isEmpty then (called, {})
  else if !fileOpens then
    ({ called with callback := false },
      ⟨.diagnosticOpenFailed, "Unable to open the diagnostics file."⟩)
  else ({ called with file := true }, {})

def report (reporter : DiagnosticReporter) (diagnostic : Diagnostic) : DiagnosticReporter :=
  { reporter with
    lines := if reporter.file then reporter.lines ++ [diagnostic] else reporter.lines
    called := if reporter.callback then reporter.called ++ [diagnostic] else reporter.called }

end DiagnosticReporter

/-! ### One engine -/

/-- What `activeOutput` points to. -/
inductive ActiveOutput where
  | custom | stdout
deriving DecidableEq, Repr

/-- `Engine::Impl`; its console session is kept with the others of the process. -/
structure EngineImpl where
  options : RequestedOptions := {}
  renderer : Option Renderer := none
  initialized : Bool := false
  activeOutput : Option ActiveOutput := none
  detectedCapabilities : TerminalCapabilities := {}
  convertedFrame : Memory := fun _ => 0
  colorConverter : ColorConverter := {}
  latestStats : RenderStats := {}
  latestStatus : Status := {}
  outputFailures : Nat := 0
  payloadLimitDrops : Nat := 0
  diagnostics : DiagnosticReporter := {}
  events : List Event := []
  /-- The errors of all `UnsupportedCapability` events. -/
  refusals : List ErrorCode := []

namespace EngineImpl

/-- The engine between `initialize` and `shutdown`. -/
def running (impl : EngineImpl) (renderer : Renderer) : Engine where
  options := impl.options.kept
  renderer := renderer
  geometry := impl.detectedCapabilities.geometry
  convertedFrame := impl.convertedFrame
  colorConverter := impl.colorConverter
  latestStats := impl.latestStats
  latestStatus := impl.latestStatus
  outputFailures := impl.outputFailures
  payloadLimitDrops := impl.payloadLimitDrops
  events := impl.events

/-- What a call has made of the running engine. -/
def store (impl : EngineImpl) (engine : Engine) : EngineImpl :=
  { impl with
    renderer := some engine.renderer
    detectedCapabilities.geometry := engine.geometry
    convertedFrame := engine.convertedFrame
    colorConverter := engine.colorConverter
    latestStats := engine.latestStats
    latestStatus := engine.latestStatus
    outputFailures := engine.outputFailures
    payloadLimitDrops := engine.payloadLimitDrops
    events := engine.events }

def report (impl : EngineImpl) (severity : DiagnosticSeverity) (code : ErrorCode)
    (message : String) : EngineImpl :=
  { impl with diagnostics := impl.diagnostics.report ⟨severity, code, message⟩ }

def fail (impl : EngineImpl) (code : ErrorCode) (message : String) : EngineImpl :=
  { impl with latestStatus := ⟨code, message⟩ }.report .error code message

/-- Every exit of a render that failed reports what `latestStatus` then holds. -/
def reportFailure (impl : EngineImpl) (error : ErrorCode) : EngineImpl :=
  if error ≠ .none then impl.report .error impl.latestStatus.code impl.latestStatus.message
  else impl

def invalidFrame (impl : EngineImpl) (message : String) : EngineImpl × RenderStats :=
  ({ impl.fail .invalidArgument message with latestStats := { error := .invalidArgument } },
    { error := .invalidArgument })

/-- `shutdown`, after the renderer is destroyed and the console restored. -/
def stop (impl : EngineImpl) : EngineImpl :=
  { impl with
    convertedFrame := fun _ => 0
    activeOutput := none
    initialized := false
    diagnostics := impl.diagnostics.reset }

/-- The end of a successful `initialize`. -/
def begin (impl : EngineImpl) : EngineImpl :=
  { impl with
    initialized := true
    latestStats := {}
    outputFailures := 0
    payloadLimitDrops := 0
    latestStatus := {} }.report .info .none "rasterm engine initialized."

end EngineImpl

/-- The message of a refused frame. -/
def Frame.refusal : Frame → String
  | .packed _ => "Packed frame validation failed."
  | .indexed _ => "Indexed frame validation failed."

/-! ### What an initialization does not determine -/

/-- Where the body of `initialize` can throw. -/
inductive ThrowingStep where
  /-- The message of a step that fails, before the failure is noted. -/
  | message
  /-- The copy of `latestStatus` that such an exit returns. -/
  | answer
  /-- The renderer, before its terminal is prepared. -/
  | allocation
  /-- The renderer, once its terminal is prepared. -/
  | construction
deriving DecidableEq, Repr

/-- What it throws, by the handlers behind it. -/
inductive InitializationFailure where
  | badAlloc
  | exception (what : String)
  | unknown
deriving DecidableEq, Repr

def InitializationFailure.status : InitializationFailure → Status
  | badAlloc => ⟨.outOfMemory, "Out of memory."⟩
  | exception what => ⟨.initializationException, what⟩
  | unknown => ⟨.initializationException, "Unknown exception while initializing rasterm."⟩

structure Surroundings where
  /-- The diagnostics file can be opened. -/
  fileOpens : Bool := true
  console : Answers
  scratch : Scratch := {}
  /-- What the output answers to the calls of the renderer. -/
  responses : Nat → Bool
  thrown : Option (ThrowingStep × InitializationFailure) := none

/-! ### All engines of a process -/

/-- One call on stdout, with its writer and the console at that time. -/
structure Written (Id : Type u) where
  writer : Id
  call : SinkCall
  modes : ConsoleModes
  owner : Option Id

structure Program (Id : Type u) where
  process : Process Id
  engines : Id → EngineImpl := fun _ => {}
  /-- Oldest first. -/
  stdout : List (Written Id) := []

namespace Program

variable {Id : Type u} [DecidableEq Id]

def update (program : Program Id) (self : Id) (change : EngineImpl → EngineImpl) : Program Id :=
  { program with engines := Function.update program.engines self (change (program.engines self)) }

/-- The calls a sink has seen since `before` reach stdout, if that is where it writes. -/
def send (program : Program Id) (self : Id) (before after : OutputSink) : Program Id :=
  if (program.engines self).activeOutput = some .stdout then
    { program with
      stdout := program.stdout ++ (after.calls.drop before.calls.length).map fun call =>
        ⟨self, call, program.process.console.modes, program.process.activeOwner⟩ }
  else program

/-- `renderer.reset()` of the owning pointer. -/
def destroyRenderer (program : Program Id) (self : Id) : Program Id :=
  match (program.engines self).renderer with
  | none => program
  | some renderer =>
      (program.send self renderer.terminal.sink renderer.destroy.sink).update self fun impl =>
        { impl with renderer := none }

/-- `console.restore()`. -/
def restoreConsole (program : Program Id) (self : Id) : Program Id :=
  { program with process := program.process.restore self }

def shutdown (program : Program Id) (self : Id) : Program Id :=
  ((program.destroyRenderer self).restoreConsole self).update self EngineImpl.stop

def fail (program : Program Id) (self : Id) (status : Status) : Program Id × Status :=
  (program.update self fun impl => impl.fail status.code status.message, status)

/-- The handlers of `initialize`. -/
def caught (program : Program Id) (self : Id) (failure : InitializationFailure) :
    Program Id × Status :=
  ((program.destroyRenderer self).restoreConsole self).fail self failure.status

/-- An exit of `initialize` with a failure, which `change` notes. -/
def leave (program : Program Id) (self : Id) (around : Surroundings) (status : Status)
    (change : EngineImpl → EngineImpl) : Program Id × Status :=
  match around.thrown with
  | some (.message, failure) => program.caught self failure
  | some (.answer, failure) => (program.update self change).caught self failure
  | _ => (program.update self change, status)

/-- An exit of `initialize` through `fail`. -/
def refuse (program : Program Id) (self : Id) (around : Surroundings) (status : Status) :
    Program Id × Status :=
  program.leave self around status fun impl => impl.fail status.code status.message

/-- From the construction of the renderer to the end of `initialize`. -/
def construct (host : Host) (program : Program Id) (self : Id) (around : Surroundings) :
    Program Id × Status :=
  let options := (program.engines self).options
  let capabilities := (program.engines self).detectedCapabilities
  let directed := program.update self fun impl =>
    { impl with activeOutput := some (if options.customOutput then .custom else .stdout) }
  let sink : OutputSink := { responses := around.responses }
  let renderer := Renderer.create host (options.rendererOptions capabilities) around.scratch sink
  let prepared := directed.send self sink renderer.terminal.sink
  match around.thrown with
  | some (.allocation, failure) => directed.caught self failure
  | some (.construction, failure) =>
      (prepared.send self renderer.terminal.sink renderer.destroy.sink).caught self failure
  | _ =>
      let constructed := prepared.update self fun impl => { impl with renderer := some renderer }
      if !renderer.terminal.good then
        ((constructed.destroyRenderer self).restoreConsole self).refuse self around
          ⟨.outputWriteFailed, "The output sink rejected terminal initialization bytes."⟩
      else (constructed.update self EngineImpl.begin, {})

/-- From the overrides to the end of `initialize`. -/
def prepare (host : Host) (program : Program Id) (self : Id) (around : Surroundings) :
    Program Id × Status :=
  let options := (program.engines self).options
  let overridden := program.update self fun impl =>
    { impl with detectedCapabilities := options.applyOverrides impl.detectedCapabilities }
  if options.requireSixelSupport &&
      (overridden.engines self).detectedCapabilities.sixel != .supported then
    ((overridden.restoreConsole self).update self fun impl =>
      { impl with refusals := impl.refusals ++ [.unsupportedTerminal] }).refuse self around
      ⟨.unsupportedTerminal, "SIXEL support could not be confirmed for the active terminal."⟩
  else overridden.construct host self around

/-- `Engine::initialize`. -/
def initializeEngine (host : Host) (program : Program Id) (self : Id)
    (requested : RequestedOptions) (around : Surroundings) : Program Id × Status :=
  let stopped := program.shutdown self
  if !validOptions requested then
    let status : Status :=
      ⟨.invalidArgument, "Engine options contain an invalid enum or numeric value."⟩
    (stopped.update self fun impl => { impl with latestStatus := status }, status)
  else
    let configured :=
      (stopped.engines self).diagnostics.configure requested.diagnostics around.fileOpens
    let accepted := stopped.update self fun impl =>
      { impl with options := requested, diagnostics := configured.1 }
    let noted := accepted.update self fun impl => { impl with latestStatus := configured.2 }
    if configured.2.code ≠ .none then
      accepted.leave self around configured.2 fun impl =>
        { impl with latestStatus := configured.2 }
    else if requested.customOutput then
      (noted.update self fun impl =>
        { impl with detectedCapabilities := { customOutput := true } }).prepare host self around
    else
      let activated := noted.process.activate self requested.useAlternateScreen around.console
      let probed : EngineImpl → EngineImpl := fun impl =>
        { impl with
          latestStatus := activated.2
          detectedCapabilities := (activated.1.sessions self).detected }
      let taken := { noted with process := activated.1 }
      if activated.2.code ≠ .none then
        taken.leave self around activated.2 fun impl =>
          (probed impl).report .error activated.2.code activated.2.message
      else (taken.update self probed).prepare host self around

/-! ### Calls on an engine -/

/-- `ConsoleSession::refreshGeometry`, with what the operating system reports now. -/
def refreshGeometry (program : Program Id) (self : Id) (window : Option ConsoleWindow)
    (fontSize : Option (Int × Int)) : Program Id × TerminalGeometry :=
  let session := program.process.sessions self
  let refreshed : ConsoleSession :=
    if session.outputHandle.isOpen then
      { session with detected.geometry := queryGeometry window fontSize }
    else session
  ({ program with process.sessions := Function.update program.process.sessions self refreshed },
    refreshed.detected.geometry)

/-- Only a frame that is rendered to the console asks for its geometry. -/
def observe (program : Program Id) (self : Id) (window : Option ConsoleWindow)
    (fontSize : Option (Int × Int)) (frame : Frame) : Program Id × TerminalGeometry :=
  if Engine.accepts frame && !(program.engines self).options.customOutput then
    program.refreshGeometry self window fontSize
  else (program, {})

def renderFrame (host : Host) (program : Program Id) (self : Id) (window : Option ConsoleWindow)
    (fontSize : Option (Int × Int)) (frame : Frame) : Program Id × RenderStats :=
  match (program.engines self).initialized, (program.engines self).renderer with
  | true, some renderer =>
      let observed := program.observe self window fontSize frame
      let rendered := ((program.engines self).running renderer).renderFrame host observed.2 frame
      ((observed.1.send self renderer.terminal.sink rendered.1.renderer.terminal.sink).update self
        fun impl => (impl.store rendered.1).reportFailure rendered.2.error, rendered.2)
  | _, _ =>
      let refused := (program.engines self).invalidFrame frame.refusal
      (program.update self fun _ => refused.1, refused.2)

def clear (program : Program Id) (self : Id) : Program Id × Status :=
  match (program.engines self).initialized, (program.engines self).renderer with
  | true, some renderer =>
      let cleared := ((program.engines self).running renderer).clear
      ((program.send self renderer.terminal.sink cleared.1.renderer.terminal.sink).update self
        fun impl => (impl.store cleared.1).reportFailure cleared.2.code, cleared.2)
  | _, _ => program.fail self ⟨.invalidArgument, "Engine is not initialized."⟩

def reset (program : Program Id) (self : Id) : Program Id :=
  program.update self fun impl =>
    { impl with
      renderer := impl.renderer.map Renderer.reset
      colorConverter := impl.colorConverter.reset
      latestStats := {} }

/-- The destructor, with that of the session; what is constructed next in its place starts anew. -/
def discard (program : Program Id) (self : Id) : Program Id :=
  let stopped := program.shutdown self
  { stopped with
    process := stopped.process.put self
      { (stopped.process.scene self).restore self with session := {} }
    engines := Function.update stopped.engines self {} }

inductive Command (Id : Type u) where
  | initializeEngine (self : Id) (requested : RequestedOptions) (around : Surroundings)
  | shutdown (self : Id)
  | render (self : Id) (window : Option ConsoleWindow) (fontSize : Option (Int × Int))
      (frame : Frame)
  | clear (self : Id)
  | reset (self : Id)
  | discard (self : Id)
  /-- The system calls the control handler. -/
  | controlEvent (event : ControlEvent)
  /-- The program changes the modes of the console itself. -/
  | setModes (outputMode : UInt32) (stdoutMode : TranslationMode)

/-- The engine a command is about. -/
def Command.engine {Id : Type u} : Command Id → Option Id
  | initializeEngine self _ _ => some self
  | shutdown self => some self
  | render self _ _ _ => some self
  | clear self => some self
  | reset self => some self
  | discard self => some self
  | controlEvent _ => none
  | setModes _ _ => none

def perform (host : Host) (program : Program Id) : Command Id → Program Id
  | .initializeEngine self requested around =>
      (program.initializeEngine host self requested around).1
  | .shutdown self => program.shutdown self
  | .render self window fontSize frame =>
      (program.renderFrame host self window fontSize frame).1
  | .clear self => (program.clear self).1
  | .reset self => program.reset self
  | .discard self => program.discard self
  | .controlEvent event =>
      { program with process := program.process.perform (.controlEvent event) }
  | .setModes outputMode stdoutMode =>
      { program with process := program.process.perform (.setModes outputMode stdoutMode) }

def run (host : Host) (program : Program Id) (commands : List (Command Id)) : Program Id :=
  commands.foldl (perform host) program

end Program

end Rasterm
