import Rasterm.Library.Lease
import Rasterm.Platform.ConsoleSession

/-!
Contract: what sessions do to the console they share.

Owns what one call can do, the invariant that ties the console, the owner of the terminal
and the sessions together, that the process runs as a lease of the console modes, and from
it exclusive ownership, activations that fail without a trace, and the modes a session
gives back.
-/

set_option autoImplicit false

universe u

namespace Rasterm

/-! ### Sessions -/

/-- Holds nothing of the console. -/
structure ConsoleSession.Idle (session : ConsoleSession) : Prop where
  unowned : session.owner = ⟨false⟩
  closed : session.outputHandle.isOpen = false
  untranslated : session.originalStdoutMode = none
  unregistered : session.controlHandlerRegistered = false

/-- Holds the console, and is the session the control handler acts for. -/
structure ConsoleSession.Holding (session : ConsoleSession) (console : Console) : Prop where
  owned : session.owner = ⟨true⟩
  opened : session.outputHandle.isOpen = true
  translated : session.originalStdoutMode.isSome = true
  registered : session.controlHandlerRegistered = true
  activeHandle : console.activeHandle = session.outputHandle
  activeOriginalMode : console.activeOriginalMode = session.originalConsoleMode

namespace Scene

variable {Id : Type u} {scene restored : Scene Id} {self : Id}

@[simp] theorem registered_unregister :
    scene.unregister.session.controlHandlerRegistered = false := by
  unfold unregister
  split_ifs with registered
  · rfl
  · exact Bool.eq_false_of_not_eq_true registered

@[simp] theorem translated_translateBack :
    scene.translateBack.session.originalStdoutMode = none := by
  unfold translateBack
  split
  · rfl
  · assumption

@[simp] theorem registered_translateBack : scene.translateBack.session.controlHandlerRegistered =
    scene.session.controlHandlerRegistered := by
  unfold translateBack
  split <;> rfl

@[simp] theorem opened_close : scene.close.session.outputHandle.isOpen = false := by
  unfold close
  split_ifs with opened
  · rfl
  · exact Bool.eq_false_of_not_eq_true opened

@[simp] theorem registered_close : scene.close.session.controlHandlerRegistered =
    scene.session.controlHandlerRegistered := by
  unfold close
  split_ifs <;> rfl

@[simp] theorem translated_close : scene.close.session.originalStdoutMode =
    scene.session.originalStdoutMode := by
  unfold close
  split_ifs <;> rfl

theorem unregister_of_idle (idle : scene.session.Idle) : scene.unregister = scene :=
  if_neg (by rw [idle.unregistered]; decide)

theorem translateBack_of_idle (idle : scene.session.Idle) : scene.translateBack = scene := by
  unfold translateBack
  rw [idle.untranslated]

theorem close_of_idle (idle : scene.session.Idle) : scene.close = scene :=
  if_neg (by rw [idle.closed]; decide)

variable [DecidableEq Id]

@[simp] theorem console_release : (scene.release self).console = scene.console := rfl

theorem activeOwner_release_ne : (scene.release self).activeOwner ≠ some self := by
  simp only [release, TerminalOwner.release]
  split_ifs with own
  · simp
  · exact own

/-- Whatever a session holds, `restore` lets go of it. -/
theorem idle_restore : (scene.restore self).session.Idle where
  unowned := rfl
  closed := opened_close
  untranslated := by simp [restore, release]
  unregistered := by simp [restore, release]

/-- A session that holds nothing restores nothing. -/
theorem restore_of_idle (idle : scene.session.Idle) (other : scene.activeOwner ≠ some self) :
    scene.restore self = scene := by
  unfold restore
  rw [unregister_of_idle idle, translateBack_of_idle idle, close_of_idle idle]
  simp only [release, TerminalOwner.release, if_neg other, ← idle.unowned]

/-- The console that the holder leaves behind. -/
theorem console_restore_of_holding (holding : scene.session.Holding scene.console)
    {mode : TranslationMode} (translated : scene.session.originalStdoutMode = some mode) :
    (scene.restore self).console =
      { scene.console with
        outputMode := scene.session.originalConsoleMode
        stdoutMode := mode
        handlers := scene.console.handlers.erase .restoreOnControlEvent
        activeHandle := .invalid } := by
  simp only [restore, console_release]
  rw [unregister, if_pos holding.registered, translateBack, translated, close,
    if_pos holding.opened]

theorem activeOwner_restore (owner : Option Id) (same : scene.activeOwner = owner) :
    (scene.restore self).activeOwner = if owner = some self then none else owner := by
  have unregistered : scene.unregister.activeOwner = scene.activeOwner := by
    unfold unregister
    split_ifs <;> rfl
  have translated : scene.unregister.translateBack.activeOwner = scene.activeOwner := by
    rw [← unregistered, translateBack]
    split <;> rfl
  have closed : scene.unregister.translateBack.close.activeOwner = scene.activeOwner := by
    rw [← translated, close]
    split_ifs <;> rfl
  simp only [restore, release, TerminalOwner.release, closed, same]

/-! ### What an activation can do -/

/-- How an activation ends, told from the scene its own `restore` left. -/
inductive Activated (restored : Scene Id) (self : Id) (useAlternateScreen : Bool) :
    Scene Id → Status → Prop where
  /-- Refused, or undone at one of the exits. -/
  | failed {next : Scene Id} {status : Status} (code : status.code ≠ .none)
      (console : next.console = restored.console)
      (activeOwner : next.activeOwner = restored.activeOwner) (idle : next.session.Idle) :
      Activated restored self useAlternateScreen next status
  | held (free : restored.activeOwner = none) (taken : UInt32) (handle : Handle)
      (opened : handle.isOpen = true) (detected : TerminalCapabilities) :
      Activated restored self useAlternateScreen
        { console :=
            { restored.console with
              outputMode := taken
              stdoutMode := .binary
              handlers := .restoreOnControlEvent :: restored.console.handlers
              activeHandle := handle
              activeOriginalMode := restored.console.outputMode
              activeAlternateScreen := useAlternateScreen }
          activeOwner := some self
          session :=
            { restored.session with
              owner := ⟨true⟩
              detected := detected
              outputHandle := handle
              originalConsoleMode := restored.console.outputMode
              originalStdoutMode := some restored.console.stdoutMode
              controlHandlerRegistered := true } } {}

/-- A scene in which `self` has acquired the terminal and done nothing else. -/
def acquired (restored : Scene Id) (self : Id) (detected : TerminalCapabilities) : Scene Id :=
  { restored with
    activeOwner := some self
    session.owner := ⟨true⟩
    session.detected := detected }

/-- The mode of the console is set as well. -/
def modeSet (restored : Scene Id) (self : Id) (detected : TerminalCapabilities) (handle : Handle)
    (taken : UInt32) : Scene Id :=
  { acquired restored self detected with
    console.outputMode := taken
    session.outputHandle := handle
    session.originalConsoleMode := restored.console.outputMode }

variable {useAlternateScreen : Bool} {answers : Answers} {detected : TerminalCapabilities}

/-- An exit that leaves the console as it was and the session without handles. -/
theorem Activated.released {scene : Scene Id} {status : Status} (code : status.code ≠ .none)
    (console : scene.console = restored.console) (free : restored.activeOwner = none)
    (owner : scene.activeOwner = some self) (closed : scene.session.outputHandle.isOpen = false)
    (untranslated : scene.session.originalStdoutMode = none)
    (unregistered : scene.session.controlHandlerRegistered = false) :
    Activated restored self useAlternateScreen (scene.release self) status := by
  refine .failed code console ?_ ⟨rfl, closed, untranslated, unregistered⟩
  rw [free]
  simp only [release, TerminalOwner.release, owner, if_pos]

theorem register_activated (free : restored.activeOwner = none) (idle : restored.session.Idle)
    {handle : Handle} (opened : handle.isOpen = true) (taken : UInt32)
    (detected : TerminalCapabilities) :
    Activated restored self useAlternateScreen
      ((modeSet restored self detected handle taken).register self useAlternateScreen answers).1
      ((modeSet restored self detected handle taken).register self useAlternateScreen answers).2 := by
  unfold register
  split_ifs with refused unhandled
  · exact .released (by simp) rfl free rfl rfl rfl idle.unregistered
  · exact .released (by simp) rfl free rfl rfl rfl rfl
  · exact .held free taken handle opened detected

theorem enable_activated (free : restored.activeOwner = none) (idle : restored.session.Idle) :
    Activated restored self useAlternateScreen
      ((acquired restored self detected).enable self useAlternateScreen answers).1
      ((acquired restored self detected).enable self useAlternateScreen answers).2 := by
  unfold enable
  split
  · exact .released (by simp) rfl free rfl rfl idle.untranslated idle.unregistered
  · rename_i mode queried
    have opened : answers.standardHandle.isOpen = true := by
      by_contra shut
      simp [Console.getConsoleMode, Bool.eq_false_of_not_eq_true shut] at queried
    have original : mode = restored.console.outputMode := by
      simp only [Console.getConsoleMode] at queried
      split_ifs at queried
      exact (Option.some.inj queried).symm
    subst original
    dsimp only
    split
    · exact .released (by simp) rfl free rfl rfl idle.untranslated idle.unregistered
    · rename_i taken _
      split_ifs with unverified
      · exact .released (by simp) rfl free rfl rfl idle.untranslated idle.unregistered
      · exact register_activated free idle opened taken
          { detected with virtualTerminalOutput := true }

theorem activate_activated (scene : Scene Id) (self : Id) (useAlternateScreen : Bool)
    (answers : Answers) :
    Activated (scene.restore self) self useAlternateScreen
      (scene.activate self useAlternateScreen answers).1
      (scene.activate self useAlternateScreen answers).2 := by
  have idle : (scene.restore self).session.Idle := idle_restore
  have unowned : (scene.restore self).session.owner.owned = false := by rw [idle.unowned]
  unfold activate
  simp only [TerminalOwner.acquire, unowned, Bool.false_eq_true, if_false]
  cases owner : (scene.restore self).activeOwner with
  | some other => exact .failed (by simp) rfl owner.symm idle
  | none =>
      simp only [Option.isSome_none, Bool.false_eq_true, if_false, Bool.not_true]
      split_ifs
      · exact .released (by simp) rfl owner rfl idle.closed idle.untranslated idle.unregistered
      · exact .released (by simp) rfl owner rfl idle.closed idle.untranslated idle.unregistered
      · exact .released (by simp) rfl owner rfl idle.closed idle.untranslated idle.unregistered
      · exact enable_activated owner idle

end Scene

/-! ### The invariant -/

structure ConsoleModes where
  outputMode : UInt32
  stdoutMode : TranslationMode
deriving DecidableEq, Repr

def Console.modes (console : Console) : ConsoleModes := ⟨console.outputMode, console.stdoutMode⟩

/-- The modes a session has saved. -/
def ConsoleSession.found (session : ConsoleSession) : ConsoleModes :=
  ⟨session.originalConsoleMode, session.originalStdoutMode.getD .text⟩

namespace Process

variable {Id : Type u} {process : Process Id} {self owner : Id} {base : List ControlHandler}

/-- The recorded owner is the one session that holds the console; `base` are the handlers of
the rest of the program. -/
structure Sound (base : List ControlHandler) (process : Process Id) : Prop where
  idle : ∀ self, process.activeOwner ≠ some self → (process.sessions self).Idle
  holding : ∀ self, process.activeOwner = some self →
    (process.sessions self).Holding process.console
  handlers : process.console.handlers =
    if process.activeOwner.isSome then .restoreOnControlEvent :: base else base
  quiet : process.activeOwner = none → process.console.activeHandle = .invalid

theorem sound_initial (outputMode : UInt32) (stdoutMode : TranslationMode)
    (handlers : List ControlHandler) :
    Sound handlers (initial outputMode stdoutMode handlers : Process Id) where
  idle _ _ := ⟨rfl, rfl, rfl, rfl⟩
  holding _ none := by cases none
  handlers := rfl
  quiet _ := rfl

theorem Sound.owns_iff (sound : Sound base process) :
    process.Owns self ↔ process.activeOwner = some self := by
  constructor
  · intro owns
    by_contra other
    have unowned := (sound.idle self other).unowned
    rw [Owns, unowned] at owns
    cases owns
  · intro active
    rw [Owns, (sound.holding self active).owned]

/-- Changes of the modes leave the rest alone. -/
theorem Sound.setConsole (sound : Sound base process) (console : Console)
    (handlers : console.handlers = process.console.handlers)
    (activeHandle : console.activeHandle = process.console.activeHandle)
    (activeOriginalMode : console.activeOriginalMode = process.console.activeOriginalMode) :
    Sound base { process with console := console } where
  idle := sound.idle
  holding self active := by
    have holding := sound.holding self active
    exact ⟨holding.owned, holding.opened, holding.translated, holding.registered,
      activeHandle.trans holding.activeHandle,
      activeOriginalMode.trans holding.activeOriginalMode⟩
  handlers := handlers.trans sound.handlers
  quiet free := activeHandle.trans (sound.quiet free)

theorem restoreOnControlEvent_keeps (event : ControlEvent) (console : Console) :
    (restoreOnControlEvent event console).2 =
      { console with outputMode := (restoreOnControlEvent event console).2.outputMode } := by
  unfold restoreOnControlEvent
  split
  · rfl
  · split_ifs <;> rfl

variable [DecidableEq Id]

/-- A session that is not the owner restores nothing. -/
theorem Sound.restore_of_not_owner (sound : Sound base process)
    (other : process.activeOwner ≠ some self) : (process.scene self).restore self =
      process.scene self :=
  Scene.restore_of_idle (sound.idle self other) other

/-- What the owner restores. -/
theorem Sound.restore_of_owner (sound : Sound base process)
    (active : process.activeOwner = some self) :
    ((process.scene self).restore self).activeOwner = none ∧
      ((process.scene self).restore self).console =
        { process.console with
          outputMode := (process.sessions self).found.outputMode
          stdoutMode := (process.sessions self).found.stdoutMode
          handlers := base
          activeHandle := .invalid } := by
  have holding := sound.holding self active
  obtain ⟨mode, translated⟩ := Option.isSome_iff_exists.mp holding.translated
  have handlers := sound.handlers
  rw [active, Option.isSome_some, if_pos rfl] at handlers
  constructor
  · rw [Scene.activeOwner_restore (some self) active, if_pos rfl]
  · rw [Scene.console_restore_of_holding holding translated]
    simp only [scene, handlers, List.erase_cons_head, ConsoleSession.found, translated,
      Option.getD_some]

/-- After `restore` the session does not own the terminal. -/
theorem activeOwner_restore_ne (process : Process Id) (self : Id) :
    ((process.scene self).restore self).activeOwner ≠ some self :=
  Scene.activeOwner_release_ne

theorem idle_restore (process : Process Id) (self : Id) :
    ((process.restore self).sessions self).Idle := by
  simp only [restore, put, Function.update_self]
  exact Scene.idle_restore

theorem put_put (first second : Scene Id) : (process.put self first).put self second =
    process.put self second := by
  simp only [put, Function.update_idem]

/-- A session that is not the owner stays idle, whatever else it keeps. -/
theorem Sound.put_other (sound : Sound base process) (other : process.activeOwner ≠ some self)
    {next : Scene Id} (idle : next.session.Idle) (console : next.console = process.console)
    (activeOwner : next.activeOwner = process.activeOwner) :
    Sound base (process.put self next) := by
  constructor
  · intro session unowned
    by_cases same : session = self
    · subst same
      simpa [put] using idle
    · rw [put, activeOwner] at unowned
      simpa [put, same] using sound.idle session unowned
  · intro session held
    rw [put, activeOwner] at held
    have same : session ≠ self := by
      rintro rfl
      exact other held
    simpa [put, same, console] using sound.holding session held
  · simpa [put, console, activeOwner] using sound.handlers
  · intro free
    rw [put, activeOwner] at free
    simpa [put, console] using sound.quiet free

theorem Sound.restore (sound : Sound base process) (self : Id) :
    Sound base (process.restore self) := by
  by_cases active : process.activeOwner = some self
  · obtain ⟨free, restored⟩ := sound.restore_of_owner active
    constructor
    · intro session _
      by_cases same : session = self
      · subst same
        simpa [Process.restore, put] using Scene.idle_restore
      · have unowned : process.activeOwner ≠ some session := by
          rw [active]
          exact fun equal => same (Option.some.inj equal).symm
        simpa [Process.restore, put, same] using sound.idle session unowned
    · intro session held
      rw [Process.restore, put, free] at held
      cases held
    · simp only [Process.restore, put, free, restored, Option.isSome_none, Bool.false_eq_true,
        if_false]
    · intro _
      simp only [Process.restore, put, restored]
  · have unchanged := sound.restore_of_not_owner active
    rw [Process.restore, unchanged]
    exact sound.put_other active (sound.idle self active) rfl rfl

/-- The two ends of an activation. -/
theorem Sound.put_activated (sound : Sound base process) {useAlternateScreen : Bool}
    {next : Scene Id} {status : Status}
    (activated : ((process.scene self).restore self).Activated self useAlternateScreen next status) :
    Sound base (process.put self next) := by
  have restored := sound.restore self
  have other : (process.restore self).activeOwner ≠ some self := activeOwner_restore_ne process self
  rw [← put_put ((process.scene self).restore self) next]
  cases activated with
  | failed code console activeOwner idle =>
      exact restored.put_other other idle console activeOwner
  | held free taken handle opened detected =>
      constructor
      · intro session unowned
        by_cases same : session = self
        · subst same
          exact absurd rfl unowned
        · have unheld : (process.restore self).activeOwner ≠ some session := by
            rw [Process.restore, put, free]
            simp
          simpa [Process.restore, put, same] using restored.idle session unheld
      · intro session held
        have same : session = self := (Option.some.inj held).symm
        subst same
        simpa [put] using
          (⟨rfl, opened, rfl, rfl, rfl, rfl⟩ : ConsoleSession.Holding _ _)
      · have handlers := restored.handlers
        simp only [Process.restore, put, free, Option.isSome_none, Bool.false_eq_true,
          if_false] at handlers
        simp only [put, handlers, Option.isSome_some, if_true]
      · intro free
        cases free

theorem Sound.perform (sound : Sound base process) (call : ConsoleCall Id) :
    Sound base (process.perform call) := by
  cases call with
  | activate self useAlternateScreen answers =>
      exact sound.put_activated
        ((process.scene self).activate_activated self useAlternateScreen answers)
  | restore self => exact sound.restore self
  | controlEvent event =>
      simp only [Process.perform]
      split_ifs
      · rw [restoreOnControlEvent_keeps]
        exact sound.setConsole _ rfl rfl rfl
      · exact sound
  | setModes outputMode stdoutMode => exact sound.setConsole _ rfl rfl rfl

theorem Sound.run (sound : Sound base process) (calls : List (ConsoleCall Id)) :
    Sound base (process.run calls) := by
  induction calls generalizing process with
  | nil => exact sound
  | cons call rest inductionHypothesis => exact inductionHypothesis (sound.perform call)

/-- A control event that ends the program puts the mode back that the owner found. -/
theorem Sound.controlEvent_of_owner (sound : Sound base process)
    (active : process.activeOwner = some self) {event : ControlEvent}
    (listed : ∀ number, event ≠ .unlisted number) :
    (process.perform (.controlEvent event)).console.outputMode =
      (process.sessions self).found.outputMode := by
  have holding := sound.holding self active
  have opened := holding.activeHandle ▸ holding.opened
  have registered : .restoreOnControlEvent ∈ process.console.handlers := by
    rw [sound.handlers, active]
    exact List.mem_cons_self
  simp only [Process.perform, if_pos registered]
  unfold restoreOnControlEvent
  split
  · rename_i number
    exact absurd rfl (listed number)
  · rw [if_pos opened]
    exact holding.activeOriginalMode

/-! ### The console as a lease -/

/-- The modes of the console, and who holds them with what it found. -/
def lease (process : Process Id) : Lease Id ConsoleModes where
  settings := process.console.modes
  holder := process.activeOwner.map fun owner => (owner, (process.sessions owner).found)

/-- What a call asks of the lease. -/
def request (process : Process Id) : ConsoleCall Id → Lease.Request Id ConsoleModes
  | .activate self useAlternateScreen answers =>
      let activated := process.activate self useAlternateScreen answers
      .take self (if activated.2.code = .none then some activated.1.console.modes else none)
  | .restore self => .giveBack self
  | call => .adjust (process.perform call).console.modes

theorem party_request (call : ConsoleCall Id) : (process.request call).party = call.session := by
  cases call <;> rfl

theorem put_scene (self : Id) : process.put self (process.scene self) = process := by
  simp [put, scene]

theorem restore_of_idle (idle : (process.sessions self).Idle)
    (other : process.activeOwner ≠ some self) : process.restore self = process := by
  rw [Process.restore, Scene.restore_of_idle idle other, put_scene]

/-- A session that is not the owner changes nothing in `restore`. -/
theorem Sound.restore_eq_of_not_owner (sound : Sound base process)
    (other : process.activeOwner ≠ some self) : process.restore self = process :=
  restore_of_idle (sound.idle self other) other

theorem lease_restore (sound : Sound base process) (self : Id) :
    (process.restore self).lease = process.lease.giveBack self := by
  by_cases active : process.activeOwner = some self
  · obtain ⟨free, restored⟩ := sound.restore_of_owner active
    have held : process.lease.holder = some (self, (process.sessions self).found) := by
      simp only [lease, active, Option.map_some]
    rw [Lease.settings_giveBack held]
    simp only [lease, Process.restore, put, free, restored, Console.modes, Option.map_none]
  · rw [sound.restore_eq_of_not_owner active]
    unfold Lease.giveBack
    split
    · rename_i owner found held
      rw [if_neg]
      rintro rfl
      simp only [lease, Option.map_eq_some_iff, Prod.mk.injEq] at held
      obtain ⟨holder, holds, rfl, -⟩ := held
      exact active holds
    · rfl

/-- A call on another session leaves the lease alone. -/
theorem lease_put_other {next : Scene Id} (other : process.activeOwner ≠ some self)
    (console : next.console = process.console)
    (activeOwner : next.activeOwner = process.activeOwner) :
    (process.put self next).lease = process.lease := by
  simp only [lease, put, console, activeOwner]
  cases owner : process.activeOwner with
  | none => rfl
  | some holder =>
      have same : holder ≠ self := by
        rintro rfl
        exact other owner
      simp only [Option.map_some, Function.update_of_ne same]

theorem lease_activated (sound : Sound base process) {useAlternateScreen : Bool} {next : Scene Id}
    {status : Status}
    (activated : ((process.scene self).restore self).Activated self useAlternateScreen next status) :
    (process.put self next).lease =
      process.lease.take self (if status.code = .none then some next.console.modes else none) := by
  have restored := lease_restore sound self
  have other : (process.restore self).activeOwner ≠ some self := activeOwner_restore_ne process self
  rw [← put_put ((process.scene self).restore self) next]
  cases activated with
  | failed code console activeOwner idle =>
      rw [if_neg code, Lease.take_none, ← restored]
      exact lease_put_other other console activeOwner
  | held free taken handle opened detected =>
      have unheld : (process.lease.giveBack self).holder = none := by
        rw [← restored]
        simp only [lease, Process.restore, put, free, Option.map_none]
      rw [if_pos rfl, Lease.take_of_free unheld, ← restored]
      simp [lease, Process.restore, put, Console.modes, ConsoleSession.found]

/-- The process runs as its lease does. -/
theorem lease_perform (sound : Sound base process) (call : ConsoleCall Id) :
    (process.perform call).lease = process.lease.serve (process.request call) := by
  cases call with
  | activate self useAlternateScreen answers =>
      exact lease_activated sound
        ((process.scene self).activate_activated self useAlternateScreen answers)
  | restore self => exact lease_restore sound self
  | controlEvent event =>
      simp only [request, Lease.serve, perform]
      split_ifs <;> rfl
  | setModes outputMode stdoutMode => rfl

/-! ### What the sessions promise -/

/-- An activation that fails leaves what its own `restore` left, and no other session. -/
def FailsWithoutTrace (process : Process Id) : Prop :=
  ∀ self useAlternateScreen answers,
    let activated := process.activate self useAlternateScreen answers
    activated.2.code ≠ .none →
      activated.1.console = (process.restore self).console ∧
        activated.1.activeOwner = (process.restore self).activeOwner ∧
        (∀ other, other ≠ self → activated.1.sessions other = process.sessions other) ∧
        ¬ activated.1.Owns self

/-- `restore` of the owner, after the calls: it has been activated, nothing has been called on
it since, and it brings back what that activation found. -/
structure GivesBack (start : Process Id) (calls : List (ConsoleCall Id)) (owner : Id)
    (before : List (ConsoleCall Id)) (useAlternateScreen : Bool) (answers : Answers)
    (later : List (ConsoleCall Id)) : Prop where
  split : calls = before ++ .activate owner useAlternateScreen answers :: later
  since : ∀ call ∈ later, call.session ≠ some owner
  activated : ((start.run before).activate owner useAlternateScreen answers).2.code = .none
  modes : ((start.run calls).restore owner).console.modes =
    ((start.run before).restore owner).console.modes
  registered : (start.run calls).console.handlers =
    .restoreOnControlEvent :: ((start.run calls).restore owner).console.handlers
  unregistered : ((start.run calls).restore owner).console.handlers =
    ((start.run before).restore owner).console.handlers
  forgotten : ((start.run calls).restore owner).console.activeHandle = .invalid
  released : ¬ ((start.run calls).restore owner).Owns owner

theorem Sound.failsWithoutTrace (sound : Sound base process) : process.FailsWithoutTrace := by
  intro self useAlternateScreen answers activated code
  have ends := (process.scene self).activate_activated self useAlternateScreen answers
  have after : Sound base activated.1 := sound.put_activated ends
  have other : (process.restore self).activeOwner ≠ some self := activeOwner_restore_ne process self
  have unowned : activated.1.console = (process.restore self).console ∧
      activated.1.activeOwner = (process.restore self).activeOwner := by
    simp only [activated, activate, Process.restore, put] at code ⊢
    generalize (process.scene self).activate self useAlternateScreen answers = result at ends code ⊢
    obtain ⟨next, status⟩ := result
    cases ends with
    | failed _ console activeOwner _ => exact ⟨console, activeOwner⟩
    | held free taken handle opened detected => exact absurd rfl code
  refine ⟨unowned.1, unowned.2, fun session different => Function.update_of_ne different _ _, ?_⟩
  intro owns
  rw [after.owns_iff, unowned.2] at owns
  exact other owns

/-- An activation succeeds only where its own `restore` leaves the terminal without an owner. -/
theorem free_of_activated {useAlternateScreen : Bool} {answers : Answers}
    (code : (process.activate self useAlternateScreen answers).2.code = .none) :
    (process.restore self).activeOwner = none := by
  have ends := (process.scene self).activate_activated self useAlternateScreen answers
  simp only [activate] at code
  generalize (process.scene self).activate self useAlternateScreen answers = result at ends code
  obtain ⟨next, status⟩ := result
  cases ends with
  | failed refused _ _ _ => exact absurd code refused
  | held free taken handle opened detected => exact free

theorem request_eq_take {call : ConsoleCall Id} {modes : ConsoleModes}
    (asks : process.request call = .take owner (some modes)) :
    ∃ useAlternateScreen answers, call = .activate owner useAlternateScreen answers ∧
      (process.activate owner useAlternateScreen answers).2.code = .none := by
  cases call with
  | activate self useAlternateScreen answers =>
      simp only [request, Lease.Request.take.injEq] at asks
      obtain ⟨rfl, taken⟩ := asks
      refine ⟨useAlternateScreen, answers, rfl, ?_⟩
      by_contra failed
      rw [if_neg failed] at taken
      cases taken
  | restore self => cases asks
  | controlEvent event => cases asks
  | setModes outputMode stdoutMode => cases asks

theorem Sound.givesBack {start : Process Id} (sound : Sound base start)
    (free : start.activeOwner = none) {calls : List (ConsoleCall Id)}
    (owns : (start.run calls).Owns owner) :
    ∃ before useAlternateScreen answers later,
      GivesBack start calls owner before useAlternateScreen answers later := by
  have soundEnd := sound.run calls
  have active := soundEnd.owns_iff.mp owns
  obtain ⟨ownerless, console⟩ := soundEnd.restore_of_owner active
  let found := ((start.run calls).sessions owner).found
  let holds (process : Process Id) : Prop := process.lease.holder = some (owner, found)
  let starts (process : Process Id) (call : ConsoleCall Id) : Prop :=
    ∃ modes, process.request call = .take owner (some modes) ∧
      (process.lease.giveBack owner).settings = found
  have step : ∀ (before : List (ConsoleCall Id)) (call : ConsoleCall Id),
      holds ((start.run before).perform call) →
        starts (start.run before) call ∨
          (holds (start.run before) ∧ call.session ≠ some owner) := by
    intro before call held
    rw [← party_request]
    exact Lease.holder_serve (lease_perform (sound.run before) call ▸ held)
  have initially : ¬ holds start := by
    intro held
    simp [holds, lease, free] at held
  have inTheEnd : holds (start.run calls) := by
    simp [holds, lease, active, found]
  obtain ⟨before, call, later, split, ⟨modes, asks, settings⟩, since⟩ :=
    Established.since step initially inTheEnd
  obtain ⟨useAlternateScreen, answers, rfl, code⟩ := request_eq_take asks
  have soundBefore := sound.run before
  have restored := soundBefore.restore owner
  have freeBefore : ((start.run before).restore owner).activeOwner = none := free_of_activated code
  have handlers := restored.handlers
  rw [freeBefore] at handlers
  have handlersEnd := soundEnd.handlers
  rw [active] at handlersEnd
  have foundBefore : ((start.run before).restore owner).console.modes = found :=
    (congrArg Lease.settings (lease_restore soundBefore owner)).trans settings
  refine ⟨before, useAlternateScreen, answers, later, split, since, code, ?_, ?_, ?_, ?_, ?_⟩
  · rw [foundBefore]
    simp only [Process.restore, put, console, Console.modes, found]
  · simpa [Process.restore, put, console] using handlersEnd
  · rw [handlers]
    simp [Process.restore, put, console]
  · simp only [Process.restore, put, console]
  · intro still
    rw [(soundEnd.restore owner).owns_iff, Process.restore, put, ownerless] at still
    cases still

/-- At most one session owns the terminal, an activation that fails leaves no trace, and the
owner gives back what it found. -/
theorem console_exclusive (outputMode : UInt32) (stdoutMode : TranslationMode)
    (handlers : List ControlHandler) (calls : List (ConsoleCall Id)) :
    let start : Process Id := initial outputMode stdoutMode handlers
    (∀ first second, (start.run calls).Owns first → (start.run calls).Owns second →
        first = second) ∧
      (start.run calls).FailsWithoutTrace ∧
      ∀ owner, (start.run calls).Owns owner → ∃ before useAlternateScreen answers later,
        GivesBack start calls owner before useAlternateScreen answers later := by
  intro start
  have sound : Sound handlers start := sound_initial outputMode stdoutMode handlers
  have soundEnd := sound.run calls
  refine ⟨?_, soundEnd.failsWithoutTrace, fun owner owns => sound.givesBack rfl owns⟩
  intro first second firstOwns secondOwns
  have firstActive := soundEnd.owns_iff.mp firstOwns
  have secondActive := soundEnd.owns_iff.mp secondOwns
  exact Option.some.inj (firstActive.symm.trans secondActive)

/-- A console that takes every mode it is asked for. -/
def obliging : Answers where
  probe :=
    { standardHandle := .opened 7
      characterFile := true
      modeQueried := true
      window := some ⟨0, 0, 119, 29⟩
      fontSize := some (8, 16)
      sessionVariable := true
      windowsTerminal := false
      declaredSixel := false }
  standardHandle := .opened 7
  modeQueried := true
  modeTaken := some
  modeVerified := true
  binaryTaken := true
  handlerTaken := true

example :
    let start : Process Bool := initial 3 .text []
    let held := start.activate false true obliging
    held.2 = {} ∧ held.1.console.modes = ⟨7, .binary⟩ ∧
      (held.1.activate true true obliging).2.code = .invalidArgument ∧
      (held.1.restore false).console.modes = ⟨3, .text⟩ := by decide

end Process

end Rasterm
