import Mathlib.Logic.Function.Basic
import Rasterm.Engine.Engine

/-!
Contract: `ConsoleSession` and the `TerminalOwner` inside it, over the console of the process.

Owns the state of the console, what the operating system is asked and may answer, every exit
of `activate`, `restore`, the control handler, and any number of sessions.

Calls that put a saved mode back and `SetConsoleCtrlHandler` with `FALSE` succeed. An
activation reports what it is told about the terminal; only the size decides anything.
-/

set_option autoImplicit false

universe u

namespace Rasterm

/-! ### The console -/

/-- `HANDLE`: a null handle, `INVALID_HANDLE_VALUE`, or any other. -/
inductive Handle where
  | null
  | invalid
  | opened (number : Nat)
deriving DecidableEq, Repr

/-- Neither null nor `INVALID_HANDLE_VALUE`. -/
def Handle.isOpen : Handle → Bool
  | opened _ => true
  | _ => false

/-- The modes of `_setmode`. -/
inductive TranslationMode where
  | text | binary | wideText | utf8 | utf16
deriving DecidableEq, Repr

inductive ControlHandler where
  | restoreOnControlEvent
  | other (number : Nat)
deriving DecidableEq, Repr

inductive ControlEvent where
  | controlC | controlBreak | close | logoff | shutdown
  | unlisted (event : Nat)
deriving DecidableEq, Repr

/-- The console of the process, with what `ConsoleSession.cpp` records about it. -/
structure Console where
  outputMode : UInt32
  stdoutMode : TranslationMode
  /-- Newest first. -/
  handlers : List ControlHandler := []
  activeHandle : Handle := .invalid
  activeOriginalMode : UInt32 := 0
  activeAlternateScreen : Bool := false
deriving DecidableEq, Repr

/-- `ENABLE_VIRTUAL_TERMINAL_PROCESSING`. -/
def enableVirtualTerminalProcessing : UInt32 := 4

/-- `GetConsoleMode`: no mode where it fails. -/
def Console.getConsoleMode (console : Console) (handle : Handle) (answered : Bool) :
    Option UInt32 :=
  if handle.isOpen && answered then some console.outputMode else none

/-- What the handler writes, and the console after it. -/
def restoreOnControlEvent (event : ControlEvent) (console : Console) : String × Console :=
  match event with
  | .unlisted _ => ("", console)
  | _ =>
      if console.activeHandle.isOpen then
        (if console.activeAlternateScreen then "\x1b[?2026l\x1b[?25h\x1b[?1049l"
          else "\x1b[?2026l\x1b[?25h",
          { console with outputMode := console.activeOriginalMode })
      else ("", console)

/-! ### Capabilities -/

inductive CapabilitySupport where
  | unknown | unsupported | supported
deriving DecidableEq, Repr

structure TerminalCapabilities where
  customOutput : Bool := false
  validOutputHandle : Bool := false
  consoleOutput : Bool := false
  virtualTerminalOutput : Bool := false
  sixel : CapabilitySupport := .unknown
  synchronizedOutput : CapabilitySupport := .unknown
  geometry : TerminalGeometry := {}
deriving DecidableEq, Repr

/-- `srWindow`. -/
structure ConsoleWindow where
  left : Int
  top : Int
  right : Int
  bottom : Int
deriving DecidableEq, Repr

/-- What the operating system tells `probeConsoleCapabilities`. -/
structure ProbeAnswers where
  standardHandle : Handle
  characterFile : Bool
  modeQueried : Bool
  /-- Nothing where `GetConsoleScreenBufferInfo` fails. -/
  window : Option ConsoleWindow
  /-- Nothing where `GetCurrentConsoleFontEx` fails. -/
  fontSize : Option (Int × Int)
  /-- `WT_SESSION` is set. -/
  sessionVariable : Bool
  /-- `TERM_PROGRAM` names Windows Terminal. -/
  windowsTerminal : Bool
  /-- `TERM` contains `sixel`. -/
  declaredSixel : Bool
deriving DecidableEq, Repr

def queryGeometry (window : Option ConsoleWindow) (fontSize : Option (Int × Int)) :
    TerminalGeometry :=
  match window with
  | none => {}
  | some window =>
      let columns := window.right - window.left + 1
      let rows := window.bottom - window.top + 1
      if columns ≤ 0 ∨ rows ≤ 0 then {}
      else
        let cell : Int × Int :=
          match fontSize with
          | some (width, height) => if width > 0 ∧ height > 0 then (width, height) else (10, 20)
          | none => (10, 20)
        { columns := columns
          rows := rows
          pixelWidth := columns * cell.1
          pixelHeight := rows * cell.2
          cellPixelWidth := cell.1
          cellPixelHeight := cell.2 }

def probeConsoleCapabilities (console : Console) (answers : ProbeAnswers) :
    TerminalCapabilities :=
  if !answers.standardHandle.isOpen then
    { sixel := .unsupported, synchronizedOutput := .unsupported }
  else
    let mode := console.getConsoleMode answers.standardHandle answers.modeQueried
    let consoleOutput := answers.characterFile && mode.isSome
    let support : CapabilitySupport × CapabilitySupport :=
      if answers.sessionVariable || answers.windowsTerminal then (.supported, .supported)
      else if answers.declaredSixel then (.supported, .unknown)
      else if !consoleOutput then (.unsupported, .unsupported)
      else (.unknown, .unknown)
    { validOutputHandle := true
      consoleOutput := consoleOutput
      virtualTerminalOutput :=
        consoleOutput && (mode.getD 0 &&& enableVirtualTerminalProcessing) != 0
      sixel := support.1
      synchronizedOutput := support.2
      geometry := queryGeometry answers.window answers.fontSize }

/-! ### The owner of the terminal -/

structure TerminalOwner where
  owned : Bool := false
deriving DecidableEq, Repr

namespace TerminalOwner

variable {Id : Type u} [DecidableEq Id]

/-- The answer, and `activeOwner` and the object after the call. -/
def acquire (owner : TerminalOwner) (self : Id) (activeOwner : Option Id) :
    Bool × Option Id × TerminalOwner :=
  if owner.owned then (true, activeOwner, owner)
  else if activeOwner.isSome then (false, activeOwner, owner)
  else (true, some self, ⟨true⟩)

def release (self : Id) (activeOwner : Option Id) : Option Id × TerminalOwner :=
  (if activeOwner = some self then none else activeOwner, ⟨false⟩)

end TerminalOwner

/-! ### A session -/

structure ConsoleSession where
  owner : TerminalOwner := {}
  detected : TerminalCapabilities := {}
  outputHandle : Handle := .invalid
  originalConsoleMode : UInt32 := 0
  /-- Nothing for `-1`. -/
  originalStdoutMode : Option TranslationMode := none
  controlHandlerRegistered : Bool := false
deriving DecidableEq, Repr

/-- What one activation is answered. -/
structure Answers where
  probe : ProbeAnswers
  /-- Of the second `GetStdHandle`. -/
  standardHandle : Handle
  modeQueried : Bool
  /-- The mode a console takes when it is asked for one; nothing where `SetConsoleMode` fails. -/
  modeTaken : UInt32 → Option UInt32
  modeVerified : Bool
  binaryTaken : Bool
  handlerTaken : Bool

/-- What a member function of one session sees. -/
structure Scene (Id : Type u) where
  console : Console
  activeOwner : Option Id
  session : ConsoleSession

namespace Scene

variable {Id : Type u} [DecidableEq Id]

def release (scene : Scene Id) (self : Id) : Scene Id :=
  let released := TerminalOwner.release self scene.activeOwner
  { scene with activeOwner := released.1, session.owner := released.2 }

/-- `restore` forgets the active handle and removes the control handler. -/
def unregister (scene : Scene Id) : Scene Id :=
  if scene.session.controlHandlerRegistered then
    { scene with
      console.activeHandle := .invalid
      console.handlers := scene.console.handlers.erase .restoreOnControlEvent
      session.controlHandlerRegistered := false }
  else scene

/-- `restore` puts the mode of stdout back. -/
def translateBack (scene : Scene Id) : Scene Id :=
  match scene.session.originalStdoutMode with
  | some mode => { scene with console.stdoutMode := mode, session.originalStdoutMode := none }
  | none => scene

/-- `restore` puts the mode of the console back. -/
def close (scene : Scene Id) : Scene Id :=
  if scene.session.outputHandle.isOpen then
    { scene with
      console.outputMode := scene.session.originalConsoleMode
      session.outputHandle := .invalid }
  else scene

def restore (scene : Scene Id) (self : Id) : Scene Id :=
  scene.unregister.translateBack.close.release self

/-- The exits of `activate` that have set the console mode. -/
def putModeBack (scene : Scene Id) (self : Id) : Scene Id :=
  { scene with
    console.outputMode := scene.session.originalConsoleMode
    session.outputHandle := .invalid }.release self

/-- From the switch of stdout to the end of `activate`. -/
def register (scene : Scene Id) (self : Id) (useAlternateScreen : Bool) (answers : Answers) :
    Scene Id × Status :=
  if !answers.binaryTaken then
    ({ scene with session.originalStdoutMode := none }.putModeBack self,
      ⟨.stdoutModeFailed, "Unable to switch stdout to binary mode."⟩)
  else
    let originalStdoutMode := scene.console.stdoutMode
    let switched :=
      { scene with
        console.stdoutMode := .binary
        session.originalStdoutMode := some originalStdoutMode }
    if !answers.handlerTaken then
      ({ switched with
          console.stdoutMode := originalStdoutMode
          session.originalStdoutMode := none
          session.controlHandlerRegistered := false }.putModeBack self,
        ⟨.controlHandlerRegistrationFailed,
          "Unable to register terminal restoration for process cancellation."⟩)
    else
      ({ switched with
          session.controlHandlerRegistered := true
          console.handlers := .restoreOnControlEvent :: switched.console.handlers
          console.activeOriginalMode := switched.session.originalConsoleMode
          console.activeAlternateScreen := useAlternateScreen
          console.activeHandle := switched.session.outputHandle }, {})

/-- From the query of the console mode to the end of `activate`. -/
def enable (scene : Scene Id) (self : Id) (useAlternateScreen : Bool) (answers : Answers) :
    Scene Id × Status :=
  match scene.console.getConsoleMode answers.standardHandle answers.modeQueried with
  | none =>
      ({ scene with session.outputHandle := .invalid }.release self,
        ⟨.consoleModeQueryFailed, "Unable to query the Windows console output mode."⟩)
  | some originalConsoleMode =>
      let queried :=
        { scene with
          session.outputHandle := answers.standardHandle
          session.originalConsoleMode := originalConsoleMode }
      let requiredMode := originalConsoleMode ||| enableVirtualTerminalProcessing
      match answers.modeTaken requiredMode with
      | none =>
          ({ queried with session.outputHandle := .invalid }.release self,
            ⟨.consoleModeEnableFailed, "Unable to enable virtual-terminal output processing."⟩)
      | some taken =>
          let enabled := { queried with console.outputMode := taken }
          let verifiedMode :=
            enabled.console.getConsoleMode answers.standardHandle answers.modeVerified
          if verifiedMode.isNone ||
              (verifiedMode.getD 0 &&& enableVirtualTerminalProcessing) == 0 then
            (enabled.putModeBack self,
              ⟨.consoleModeEnableFailed, "Virtual-terminal output mode could not be verified."⟩)
          else
            { enabled with session.detected.virtualTerminalOutput := true }.register self
              useAlternateScreen answers

def activate (scene : Scene Id) (self : Id) (useAlternateScreen : Bool) (answers : Answers) :
    Scene Id × Status :=
  let restored := scene.restore self
  let (acquired, activeOwner, owner) :=
    restored.session.owner.acquire self restored.activeOwner
  let asked := { restored with activeOwner := activeOwner, session.owner := owner }
  if !acquired then
    (asked, ⟨.invalidArgument, "Another rasterm Engine owns the process terminal."⟩)
  else
    let detected := probeConsoleCapabilities asked.console answers.probe
    let probed := { asked with session.detected := detected }
    if !detected.validOutputHandle then
      (probed.release self,
        ⟨.invalidOutputHandle, "STDOUT is not attached to a valid Windows handle."⟩)
    else if !detected.consoleOutput then
      (probed.release self,
        ⟨.outputIsNotConsole,
          "STDOUT is not a Windows console; provide an OutputSink for redirected output."⟩)
    else if detected.geometry.columns ≤ 0 ∨ detected.geometry.rows ≤ 0 then
      (probed.release self,
        ⟨.terminalDimensionsUnavailable,
          "Windows did not report positive terminal dimensions."⟩)
    else probed.enable self useAlternateScreen answers

end Scene

/-! ### The process -/

/-- All the sessions of a process. -/
structure Process (Id : Type u) where
  console : Console
  activeOwner : Option Id := none
  sessions : Id → ConsoleSession := fun _ => {}

inductive ConsoleCall (Id : Type u) where
  | activate (self : Id) (useAlternateScreen : Bool) (answers : Answers)
  | restore (self : Id)
  /-- The system calls the control handler, if it is registered. -/
  | controlEvent (event : ControlEvent)
  /-- The program changes the modes itself. -/
  | setModes (outputMode : UInt32) (stdoutMode : TranslationMode)

/-- The session the call is made on. -/
def ConsoleCall.session {Id : Type u} : ConsoleCall Id → Option Id
  | activate self _ _ => some self
  | restore self => some self
  | controlEvent _ => none
  | setModes _ _ => none

namespace Process

variable {Id : Type u} [DecidableEq Id]

def scene (process : Process Id) (self : Id) : Scene Id :=
  ⟨process.console, process.activeOwner, process.sessions self⟩

/-- A member function of one session leaves the others alone. -/
def put (process : Process Id) (self : Id) (scene : Scene Id) : Process Id where
  console := scene.console
  activeOwner := scene.activeOwner
  sessions := Function.update process.sessions self scene.session

def activate (process : Process Id) (self : Id) (useAlternateScreen : Bool) (answers : Answers) :
    Process Id × Status :=
  let activated := (process.scene self).activate self useAlternateScreen answers
  (process.put self activated.1, activated.2)

def restore (process : Process Id) (self : Id) : Process Id :=
  process.put self ((process.scene self).restore self)

def perform (process : Process Id) : ConsoleCall Id → Process Id
  | .activate self useAlternateScreen answers =>
      (process.activate self useAlternateScreen answers).1
  | .restore self => process.restore self
  | .controlEvent event =>
      if .restoreOnControlEvent ∈ process.console.handlers then
        { process with console := (restoreOnControlEvent event process.console).2 }
      else process
  | .setModes outputMode stdoutMode =>
      { process with console.outputMode := outputMode, console.stdoutMode := stdoutMode }

/-- No session has been activated. -/
def initial (outputMode : UInt32) (stdoutMode : TranslationMode)
    (handlers : List ControlHandler) : Process Id where
  console := { outputMode := outputMode, stdoutMode := stdoutMode, handlers := handlers }

def run (process : Process Id) (calls : List (ConsoleCall Id)) : Process Id :=
  calls.foldl perform process

/-- `ownsTerminal`. -/
def Owns (process : Process Id) (self : Id) : Prop := (process.sessions self).owner.owned = true

end Process

end Rasterm
