import Rasterm.Engine.Pieces

/-!
Contract: which engines of a process are initialized, and which one of them has the terminal.

Owns the invariant that ties every engine to its renderer, its output and the console, what
each piece of a command does to it, and from it: an engine is initialized as long as it has a
renderer, at most one of them writes to the console, only the owner of the terminal writes to
stdout, and an `initialize` that fails leaves what its own `shutdown` leaves.
-/

set_option autoImplicit false

universe u

namespace Rasterm

namespace Program

variable {Id : Type u} {program : Program Id} {self other : Id} {base : List ControlHandler}

/-! ### Other engines -/

/-- What a step leaves of every engine but one. -/
structure Local (own : Id) (before after : Program Id) : Prop where
  engines : ∀ other, other ≠ own → after.engines other = before.engines other
  sessions : ∀ other, other ≠ own → after.process.sessions other = before.process.sessions other
  owner : ∀ other, other ≠ own →
    (after.process.activeOwner = some other ↔ before.process.activeOwner = some other)

theorem Local.refl (program : Program Id) (self : Id) : Local self program program :=
  ⟨fun _ _ => rfl, fun _ _ => rfl, fun _ _ => Iff.rfl⟩

theorem Local.trans {first second third : Program Id} (head : Local self first second)
    (tail : Local self second third) : Local self first third where
  engines := fun other distinct =>
    (tail.engines other distinct).trans (head.engines other distinct)
  sessions := fun other distinct =>
    (tail.sessions other distinct).trans (head.sessions other distinct)
  owner := fun other distinct => (tail.owner other distinct).trans (head.owner other distinct)

theorem local_send (program : Program Id) (self : Id) (before after : OutputSink) :
    Local self program (program.send self before after) where
  engines := fun _ _ => by rw [engines_send]
  sessions := fun _ _ => by rw [process_send]
  owner := fun _ _ => by rw [process_send]

variable [DecidableEq Id]

theorem local_update (program : Program Id) (self : Id) (change : EngineImpl → EngineImpl) :
    Local self program (program.update self change) where
  engines := fun _ distinct => engines_update_other _ _ _ distinct
  sessions := fun _ _ => rfl
  owner := fun _ _ => Iff.rfl

theorem local_destroyRenderer (program : Program Id) (self : Id) :
    Local self program (program.destroyRenderer self) where
  engines := fun _ distinct => engines_destroyRenderer_other _ _ distinct
  sessions := fun _ _ => by rw [process_destroyRenderer]
  owner := fun _ _ => by rw [process_destroyRenderer]

theorem activeOwner_restore (process : Process Id) (self : Id) :
    (process.restore self).activeOwner =
      if process.activeOwner = some self then none else process.activeOwner :=
  Scene.activeOwner_restore process.activeOwner rfl

theorem owner_restore_other (process : Process Id) (distinct : other ≠ self) :
    (process.restore self).activeOwner = some other ↔ process.activeOwner = some other := by
  rw [activeOwner_restore]
  split_ifs with owns
  · rw [owns]
    exact ⟨(fun none => by cases none), fun same => absurd (Option.some.inj same).symm distinct⟩
  · rfl

theorem local_restoreConsole (program : Program Id) (self : Id) :
    Local self program (program.restoreConsole self) where
  engines := fun _ _ => rfl
  sessions := fun _ distinct => Function.update_of_ne distinct ..
  owner := fun _ distinct => owner_restore_other program.process distinct

theorem local_activate (sound : program.process.Sound base) (self : Id)
    (useAlternateScreen : Bool) (answers : Answers) :
    Local self program
      { program with
        process := (program.process.activate self useAlternateScreen answers).1 } where
  engines := fun _ _ => rfl
  sessions := fun _ distinct => Function.update_of_ne distinct ..
  owner := fun other distinct => by
    dsimp only
    by_cases code : (program.process.activate self useAlternateScreen answers).2.code = .none
    · -- The terminal had no owner but perhaps this engine.
      have free := Process.free_of_activated code
      rw [owner_of_activated code, ← owner_restore_other program.process distinct, free]
      exact ⟨fun same => absurd (Option.some.inj same).symm distinct, fun none => by cases none⟩
    · obtain ⟨-, sameOwner, -, -⟩ := sound.failsWithoutTrace self _ answers code
      rw [sameOwner]
      exact owner_restore_other program.process distinct

theorem Piece.localStep {host : Host} {next : Program Id} (piece : Piece host self program next)
    (sound : program.process.Sound base) : Local self program next := by
  cases piece with
  | change change renderer options output => exact local_update program self change
  | request change before after free => exact local_update program self change
  | destroy => exact local_destroyRenderer program self
  | restore absent => exact local_restoreConsole program self
  | activate absent console answers => exact local_activate sound self _ answers
  | construct absent directed owner options alternate scratch responses =>
      exact (local_send program self _ _).trans (local_update _ self _)
  | use renderer present calls => exact (local_send program self _ _).trans (local_update _ self _)
  | observe window fontSize =>
      exact ⟨fun _ _ => rfl, fun _ distinct => Function.update_of_ne distinct .., fun _ _ => Iff.rfl⟩
  | vanish absent free =>
      refine ⟨fun _ distinct => Function.update_of_ne distinct ..,
        fun _ distinct => Function.update_of_ne distinct .., fun other distinct => ?_⟩
      exact owner_restore_other program.process distinct

/-! ### The invariant -/

/-- `busy` is the engine in the middle of a command. -/
structure Sound (base : List ControlHandler) (busy : Option Id) (program : Program Id) : Prop where
  process : program.process.Sound base
  presents : ∀ own, program.Presents own → program.process.activeOwner = some own
  directed : ∀ own, (program.engines own).renderer.isSome = true →
    (program.engines own).activeOutput = some (outputOf (program.engines own).options)
  finished : ∀ own, busy ≠ some own → Finished own program
  written : ∀ entry ∈ program.stdout, entry.owner = some entry.writer

omit [DecidableEq Id] in
/-- A command on an engine begins. -/
theorem Sound.enter (sound : Sound base none program) (self : Id) :
    Sound base (some self) program :=
  ⟨sound.process, sound.presents, sound.directed, fun own _ => sound.finished own (by simp),
    sound.written⟩

omit [DecidableEq Id] in
/-- The command ends. -/
theorem Sound.leave (sound : Sound base (some self) program) (finished : Finished self program) :
    Sound base none program := by
  refine ⟨sound.process, sound.presents, sound.directed, fun own _ => ?_, sound.written⟩
  by_cases same : own = self
  · rw [same]
    exact finished
  · exact sound.finished own fun equal => same (Option.some.inj equal).symm

omit [DecidableEq Id] in
/-- A step on one engine, for which everything about that engine is shown. -/
theorem Sound.step {next : Program Id} (sound : Sound base (some self) program)
    (here : Local self program next) (process : next.process.Sound base)
    (presents : next.Presents self → next.process.activeOwner = some self)
    (directed : (next.engines self).renderer.isSome = true →
      (next.engines self).activeOutput = some (outputOf (next.engines self).options))
    (written : ∀ entry ∈ next.stdout, entry.owner = some entry.writer) :
    Sound base (some self) next where
  process := process
  presents := fun own shows => by
    by_cases same : own = self
    · rw [same] at shows ⊢
      exact presents shows
    · unfold Presents at shows
      rw [here.engines own same] at shows
      exact (here.owner own same).mpr (sound.presents own shows)
  directed := fun own some => by
    by_cases same : own = self
    · rw [same] at some ⊢
      exact directed some
    · rw [here.engines own same] at some ⊢
      exact sound.directed own some
  finished := fun own notBusy => by
    have distinct : own ≠ self := fun same => notBusy (by rw [same])
    have before := sound.finished own notBusy
    refine ⟨?_, fun owns => ?_⟩
    · rw [here.engines own distinct]
      exact before.initialized
    · unfold Presents
      rw [here.engines own distinct]
      exact before.owner ((here.owner own distinct).mp owns)
  written := written

omit [DecidableEq Id] in
/-- What is sent to stdout is sent by the owner. -/
theorem written_send {before after : OutputSink}
    (written : ∀ entry ∈ program.stdout, entry.owner = some entry.writer)
    (owner : (program.engines self).activeOutput = some .stdout →
      program.process.activeOwner = some self) :
    ∀ entry ∈ (program.send self before after).stdout, entry.owner = some entry.writer := by
  unfold send
  split_ifs with output
  · intro entry member
    rcases List.mem_append.mp member with earlier | new
    · exact written entry earlier
    · obtain ⟨call, -, rfl⟩ := List.mem_map.mp new
      exact owner output
  · exact written

/-- Only the console is written to through stdout. -/
theorem console_of_stdout {options : RequestedOptions} {output : Option ActiveOutput}
    (directed : output = some (outputOf options)) (stdout : output = some .stdout) :
    options.customOutput = false := by
  rw [stdout, Option.some.injEq, outputOf] at directed
  split_ifs at directed with custom
  exact Bool.eq_false_of_not_eq_true custom

omit [DecidableEq Id] in
theorem not_presents (absent : (program.engines self).renderer = none) :
    ¬ program.Presents self := by
  rintro ⟨some, -⟩
  rw [absent] at some
  cases some

/-- What a session has detected is no part of the invariant of the console. -/
theorem sound_detect {process : Process Id} (sound : process.Sound base) (self : Id)
    (detected : TerminalCapabilities) :
    Process.Sound base
      { process with
        sessions := Function.update process.sessions self
          { process.sessions self with detected := detected } } where
  idle := fun own other => by
    have idle := sound.idle own other
    dsimp only
    by_cases same : own = self
    · rw [same] at idle ⊢
      rw [Function.update_self]
      exact ⟨idle.unowned, idle.closed, idle.untranslated, idle.unregistered⟩
    · rw [Function.update_of_ne same]
      exact idle
  holding := fun own active => by
    have holding := sound.holding own active
    dsimp only
    by_cases same : own = self
    · rw [same] at holding ⊢
      rw [Function.update_self]
      exact ⟨holding.owned, holding.opened, holding.translated, holding.registered,
        holding.activeHandle, holding.activeOriginalMode⟩
    · rw [Function.update_of_ne same]
      exact holding
  handlers := sound.handlers
  quiet := sound.quiet

/-- Looking at the geometry again changes what one session has detected. -/
theorem refreshGeometry_eq (program : Program Id) (self : Id) (window : Option ConsoleWindow)
    (fontSize : Option (Int × Int)) : ∃ detected,
    (program.refreshGeometry self window fontSize).1 =
      { program with
        process.sessions := Function.update program.process.sessions self
          { program.process.sessions self with detected := detected } } := by
  unfold refreshGeometry
  dsimp only
  split_ifs
  · exact ⟨_, rfl⟩
  · exact ⟨(program.process.sessions self).detected, rfl⟩

theorem Piece.sound {host : Host} {next : Program Id} (piece : Piece host self program next)
    (sound : Sound base (some self) program) : Sound base (some self) next := by
  have here := piece.localStep sound.process
  have owned : ∀ renderer, (program.engines self).renderer = some renderer →
      (program.engines self).activeOutput = some .stdout →
        program.process.activeOwner = some self := by
    intro renderer present output
    have some : (program.engines self).renderer.isSome = true := by rw [present]; rfl
    exact sound.presents self ⟨some, console_of_stdout (sound.directed self some) output⟩
  cases piece with
  | change change renderer options output =>
      apply sound.step here sound.process _ _ sound.written
      · unfold Presents
        rw [engines_update_self, renderer, options]
        exact sound.presents self
      · rw [engines_update_self, renderer, options]
        intro some
        rw [output some]
        exact sound.directed self some
  | request change before after free =>
      have absent : ((program.update self change).engines self).renderer = none := by
        rw [engines_update_self, after]
      apply sound.step here sound.process _ _ sound.written
      · exact fun shows => absurd shows (not_presents absent)
      · rw [absent]
        exact fun some => by cases some
  | destroy =>
      have absent : ((program.destroyRenderer self).engines self).renderer = none := by
        rw [engines_destroyRenderer_self]
      apply sound.step here (by rw [process_destroyRenderer]; exact sound.process)
      · exact fun shows => absurd shows (not_presents absent)
      · rw [absent]
        exact fun some => by cases some
      · unfold Program.destroyRenderer
        split
        · exact sound.written
        · rename_i renderer present
          exact written_send sound.written (owned renderer present)
  | restore absent =>
      apply sound.step here (sound.process.restore self) _ _ sound.written
      · exact fun shows => absurd shows (not_presents absent)
      · rw [engines_restoreConsole, absent]
        exact fun some => by cases some
  | activate absent console answers =>
      apply sound.step here (sound.process.perform (.activate self _ answers)) _ _ sound.written
      · exact fun shows => absurd shows (not_presents absent)
      · dsimp only
        rw [absent]
        exact fun some => by cases some
  | construct absent directed owner options alternate scratch responses =>
      apply sound.step here (by rw [process_update, process_send]; exact sound.process)
      · unfold Presents
        rw [engines_update_self, engines_send, process_update, process_send]
        exact fun shows => owner shows.2
      · rw [engines_update_self, engines_send]
        exact fun _ => directed
      · exact written_send sound.written fun output => owner (console_of_stdout directed output)
  | use renderer present calls =>
      apply sound.step here (by rw [process_update, process_send]; exact sound.process)
      · unfold Presents
        rw [engines_update_self, engines_send, process_update, process_send]
        exact fun shows => sound.presents self ⟨by rw [present]; rfl, shows.2⟩
      · rw [engines_update_self, engines_send]
        exact fun _ => sound.directed self (by rw [present]; rfl)
      · exact written_send sound.written (owned renderer present)
  | observe window fontSize =>
      obtain ⟨detected, same⟩ := refreshGeometry_eq program self window fontSize
      rw [same] at here ⊢
      exact sound.step here (sound_detect sound.process self detected) (sound.presents self)
        (sound.directed self) sound.written
  | vanish absent free =>
      have unchanged := sound.process.restore_of_not_owner free
      apply sound.step here _ _ _ sound.written
      · apply sound.process.put_other free
        · exact ⟨rfl, rfl, rfl, rfl⟩
        · rw [unchanged]
          rfl
        · rw [unchanged]
          rfl
      · rintro ⟨some, -⟩
        simp only [Function.update_self] at some
        cases some
      · simp only [Function.update_self]
        exact fun some => by cases some

/-! ### Runs -/

variable {host : Host}

theorem Chain.sound {next : Program Id} (chain : Chain host self program next)
    (sound : Sound base (some self) program) : Sound base (some self) next := by
  induction chain with
  | refl => exact sound
  | tail _ piece inductionHypothesis => exact piece.sound inductionHypothesis

theorem Chain.localStep {next : Program Id} (chain : Chain host self program next)
    (sound : Sound base (some self) program) : Local self program next := by
  induction chain with
  | refl => exact .refl program self
  | tail before piece inductionHypothesis =>
      exact inductionHypothesis.trans (piece.localStep (Chain.sound before sound).process)

theorem Sound.course {next : Program Id} (sound : Sound base none program)
    (course : Course host self program next) : Sound base none next :=
  (course.chain.sound (sound.enter self)).leave (course.finished (sound.finished self (by simp)))

omit [DecidableEq Id] in
/-- The console changes under an engine, but not its owner. -/
theorem Sound.setProcess (sound : Sound base none program) {process : Process Id}
    (soundProcess : process.Sound base)
    (activeOwner : process.activeOwner = program.process.activeOwner) :
    Sound base none { program with process := process } where
  process := soundProcess
  presents := fun own shows => activeOwner.trans (sound.presents own shows)
  directed := sound.directed
  finished := fun own _ => by
    have finished := sound.finished own (by simp)
    exact ⟨finished.initialized, fun owns => finished.owner (activeOwner.symm.trans owns)⟩
  written := sound.written

theorem Sound.perform (sound : Sound base none program) (command : Command Id) :
    Sound base none (program.perform host command) := by
  cases engine : command.engine with
  | some self => exact sound.course (course_perform program sound.process command engine)
  | none =>
      cases command with
      | controlEvent event =>
          apply sound.setProcess (sound.process.perform (.controlEvent event))
          simp only [Process.perform]
          split_ifs <;> rfl
      | setModes outputMode stdoutMode =>
          exact sound.setProcess (sound.process.perform (.setModes outputMode stdoutMode)) rfl
      | _ => cases engine

theorem Sound.run (sound : Sound base none program) (commands : List (Command Id)) :
    Sound base none (program.run host commands) := by
  induction commands generalizing program with
  | nil => exact sound
  | cons command rest inductionHypothesis => exact inductionHypothesis (sound.perform command)

/-- No engine has been initialized. -/
def initial (outputMode : UInt32) (stdoutMode : TranslationMode)
    (handlers : List ControlHandler) : Program Id where
  process := .initial outputMode stdoutMode handlers

omit [DecidableEq Id] in
theorem sound_initial (outputMode : UInt32) (stdoutMode : TranslationMode)
    (handlers : List ControlHandler) :
    Sound handlers none (initial outputMode stdoutMode handlers : Program Id) where
  process := Process.sound_initial outputMode stdoutMode handlers
  presents := fun _ shows => by cases shows.1
  directed := fun _ some => by cases some
  finished := fun _ _ => ⟨rfl, fun owns => by cases owns⟩
  written := fun _ member => absurd member (List.not_mem_nil)

/-- An engine that is initialized and writes to the console. -/
def OnConsole (program : Program Id) (self : Id) : Prop :=
  (program.engines self).initialized = true ∧ (program.engines self).options.customOutput = false

instance (program : Program Id) (self : Id) : Decidable (program.OnConsole self) := by
  unfold OnConsole
  infer_instance

omit [DecidableEq Id] in
theorem Sound.owns_iff (sound : Sound base none program) :
    program.process.Owns self ↔ program.OnConsole self := by
  have finished := sound.finished self (by simp)
  rw [sound.process.owns_iff]
  constructor
  · intro active
    obtain ⟨some, console⟩ := finished.owner active
    exact ⟨finished.initialized.trans some, console⟩
  · rintro ⟨initialized, console⟩
    exact sound.presents self ⟨finished.initialized.symm.trans initialized, console⟩

/-- Whatever is called on however many engines, and whatever fails: an engine is initialized as
long as it has a renderer; it owns the terminal as long as it is initialized for the console;
at most one engine is; and what reached stdout was sent by the owner at that time. -/
theorem engines_exclusive (host : Host) (outputMode : UInt32) (stdoutMode : TranslationMode)
    (handlers : List ControlHandler) (commands : List (Command Id)) :
    let program := (initial outputMode stdoutMode handlers).run host commands
    (∀ self, (program.engines self).initialized = (program.engines self).renderer.isSome) ∧
      (∀ self, program.process.Owns self ↔ program.OnConsole self) ∧
      (∀ first second, program.OnConsole first → program.OnConsole second → first = second) ∧
      ∀ entry ∈ program.stdout, entry.owner = some entry.writer := by
  intro program
  have sound : Sound handlers none program :=
    (sound_initial outputMode stdoutMode handlers).run commands
  refine ⟨fun self => (sound.finished self (by simp)).initialized, fun self => sound.owns_iff, ?_,
    sound.written⟩
  intro first second firstOn secondOn
  have firstActive := sound.process.owns_iff.mp (sound.owns_iff.mpr firstOn)
  have secondActive := sound.process.owns_iff.mp (sound.owns_iff.mpr secondOn)
  exact Option.some.inj (firstActive.symm.trans secondActive)

/-- What an `initialize` leaves, by how it ended. -/
structure Initializes (host : Host) (program : Program Id) (own : Id)
    (requested : RequestedOptions) (around : Surroundings) : Prop where
  others : ∀ other, other ≠ own →
    (program.initializeEngine host own requested around).1.engines other = program.engines other
  otherSessions : ∀ other, other ≠ own →
    (program.initializeEngine host own requested around).1.process.sessions other =
      program.process.sessions other
  started : (program.initializeEngine host own requested around).2.code = .none →
    ((program.initializeEngine host own requested around).1.engines own).initialized = true
  failed : (program.initializeEngine host own requested around).2.code ≠ .none →
    ((program.initializeEngine host own requested around).1.engines own).initialized = false ∧
      ¬ (program.initializeEngine host own requested around).1.process.Owns own ∧
      SameConsole (program.shutdown own).process
        (program.initializeEngine host own requested around).1.process

/-- After any calls on any engines: an `initialize` touches no other engine, and one that fails,
at whichever exit, leaves the console as a `shutdown` of the engine alone would have. -/
theorem initialize_contained (host : Host) (outputMode : UInt32) (stdoutMode : TranslationMode)
    (handlers : List ControlHandler) (commands : List (Command Id)) (self : Id)
    (requested : RequestedOptions) (around : Surroundings) :
    ((initial outputMode stdoutMode handlers).run host commands).Initializes host self requested
      around := by
  have sound : Sound handlers none ((initial outputMode stdoutMode handlers).run host commands) :=
    (sound_initial outputMode stdoutMode handlers).run commands
  generalize (initial outputMode stdoutMode handlers).run host commands = program at sound
  have ends := @ends_initializeEngine Id _ host program self requested around handlers sound.process
  have soundAfter : Sound handlers none (program.initializeEngine host self requested around).1 :=
    sound.perform (.initializeEngine self requested around)
  have course := @course_initializeEngine Id _ host program self requested around handlers
    sound.process
  have here := course.chain.localStep (sound.enter self)
  refine ⟨here.engines, here.sessions, fun code => (ends.started code).1, fun code => ?_⟩
  obtain ⟨down, same⟩ := ends.failed code
  refine ⟨down.initialized, fun owns => ?_, same⟩
  exact down.owner (soundAfter.process.owns_iff.mp owns)

end Program

end Rasterm
