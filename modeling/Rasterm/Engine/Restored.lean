import Rasterm.Engine.Exclusive

/-!
Contract: what a program with engines leaves of its terminal.

Owns the bytes on stdout as one stream that every console engine continues, the state of the
terminal behind it, and the modes of the console, along whole runs: while no engine is
initialized for the console the terminal is as a shell expects it, a control event brings it
there at any time between two calls, and every byte is sent in binary mode to a console that
processes control sequences.

The program does not change the modes itself here, and a recovery sequence is refused at most
once.
-/

set_option autoImplicit false

universe u

namespace Rasterm

open TerminalRenderer

/-! ### One terminal -/

/-- Nothing is open, the cursor is shown, and the main screen is on. -/
structure ShellReady (vt : Vt.Terminal) : Prop where
  calm : Calm vt
  cursor : vt.modes 25 = true
  screen : vt.modes 1049 = false

/-- Bytes pass unchanged, and control sequences are acted on. -/
def ConsoleModes.PassesSequences (modes : ConsoleModes) : Prop :=
  modes.stdoutMode = .binary ∧ (modes.outputMode &&& enableVirtualTerminalProcessing) ≠ 0

/-- The destructor leaves the terminal to the shell. -/
theorem shellReady_destroy {opened : Vt.Terminal} {renderer : Renderer}
    (ready : ShellReady opened) (atRest : renderer.AtRest opened)
    (restores : renderer.destroy.sink.Restores) :
    ShellReady (renderer.destroy.parsed opened) := by
  obtain ⟨calm, shown, left⟩ := parsed_destroy atRest.terminal restores
  refine ⟨calm, shown, ?_⟩
  have closed : (renderer.terminal.destroy.parsed opened).modes 1049 = false := by
    rw [left, ready.screen, ite_self]
  exact closed

/-- What the control handler writes leaves the terminal to the shell. -/
theorem shellReady_controlEvent {opened : Vt.Terminal} {renderer : Renderer} {console : Console}
    (ready : ShellReady opened) (atRest : renderer.AtRest opened)
    (active : console.activeHandle.isOpen = true)
    (alternate : console.activeAlternateScreen = renderer.terminal.usesAlternateScreen)
    {event : ControlEvent} (listed : ∀ number, event ≠ .unlisted number) :
    ShellReady ((renderer.terminal.parsed opened).feed
      (ascii (restoreOnControlEvent event console).1)) := by
  have written : (restoreOnControlEvent event console).1 =
      if renderer.terminal.usesAlternateScreen then "\x1b[?2026l\x1b[?25h\x1b[?1049l"
      else "\x1b[?2026l\x1b[?25h" := by
    unfold restoreOnControlEvent
    split
    · rename_i number
      exact absurd rfl (listed number)
    · rw [if_pos active, alternate]
  have display := atRest.terminal.calm.display
  rw [written]
  cases uses : renderer.terminal.usesAlternateScreen with
  | true =>
      have pieces : ascii "\x1b[?2026l\x1b[?25h\x1b[?1049l" =
          ascii "\x1b[?2026l" ++ ascii "\x1b[?25h" ++ ascii "\x1b[?1049l" := rfl
      rw [if_pos rfl, pieces, Vt.Terminal.feed_append, Vt.Terminal.feed_append,
        feed_synchronizedOff, feed_cursorShown, feed_alternateLeft]
      refine ⟨⟨rfl, ?_, ?_⟩, ?_, ?_⟩ <;> simp [Vt.Terminal.setMode, display]
  | false =>
      have pieces : ascii "\x1b[?2026l\x1b[?25h" = ascii "\x1b[?2026l" ++ ascii "\x1b[?25h" := rfl
      have unchanged := (atRest.terminal.alternate uses).trans ready.screen
      rw [if_neg Bool.false_ne_true, pieces, Vt.Terminal.feed_append, feed_synchronizedOff,
        feed_cursorShown]
      refine ⟨⟨rfl, ?_, ?_⟩, ?_, ?_⟩ <;> simp [Vt.Terminal.setMode, display, unchanged]

namespace Program

variable {Id : Type u} {program next : Program Id} {self : Id} {base : List ControlHandler}
  {host : Host} {start : Vt.Terminal}

/-! ### The stream -/

/-- The calls on stdout so far. -/
def calls (program : Program Id) : List SinkCall := program.stdout.map Written.call

/-- No recovery sequence for the console was refused on both attempts. -/
def Restores (program : Program Id) : Prop := ∀ call ∈ program.calls, call.lostRecovery = false

instance (program : Program Id) : Decidable program.Restores := by
  unfold Restores
  infer_instance

/-- The terminal after everything that stdout has accepted. -/
def terminal (start : Vt.Terminal) (calls : List SinkCall) : Vt.Terminal :=
  start.feed (calls.flatMap SinkCall.delivered)

theorem terminal_append (earlier : List SinkCall) (renderer : TerminalRenderer) :
    terminal start (earlier ++ renderer.sink.calls) =
      renderer.parsed (terminal start earlier) := by
  rw [terminal, List.flatMap_append, Vt.Terminal.feed_append]
  rfl

theorem calls_send_of_stdout (output : (program.engines self).activeOutput = some .stdout)
    (before after : OutputSink) : (program.send self before after).calls =
      program.calls ++ after.calls.drop before.calls.length := by
  simp only [calls, send, if_pos output, List.map_append, List.map_map]
  congr 1
  exact List.map_id _

theorem calls_send_of_custom (output : (program.engines self).activeOutput ≠ some .stdout)
    (before after : OutputSink) : (program.send self before after).calls = program.calls := by
  simp only [calls, send, if_neg output]

/-- Output that goes on where the renderer was. -/
theorem continues {earlier : List SinkCall} {before after : OutputSink}
    (reached : program.calls = earlier ++ before.calls) (grows : before.calls <+: after.calls) :
    program.calls ++ after.calls.drop before.calls.length = earlier ++ after.calls := by
  obtain ⟨new, split⟩ := grows
  rw [reached, ← split, List.drop_left, List.append_assoc]

/-- What restores in the stream restores in its last part. -/
theorem restores_of_stream {earlier later : List SinkCall} {sink : OutputSink}
    (reached : later = earlier ++ sink.calls) (restores : ∀ call ∈ later, call.lostRecovery = false) :
    sink.Restores := by
  intro call member
  apply restores
  rw [reached]
  exact List.mem_append_right earlier member

/-! ### What the stream leaves of the terminal -/

/-- The renderer of an engine goes on where the stream was in order. -/
structure Continues (start : Vt.Terminal) (calls : List SinkCall) (impl : EngineImpl)
    (renderer : Renderer) (earlier : List SinkCall) : Prop where
  reached : calls = earlier ++ renderer.terminal.sink.calls
  ready : ShellReady (terminal start earlier)
  atRest : renderer.AtRest (terminal start earlier)
  alternate : renderer.terminal.usesAlternateScreen = impl.options.useAlternateScreen

structure Follows (start : Vt.Terminal) (program : Program Id) : Prop where
  free : (∀ own, ¬ program.Presents own) → ShellReady (terminal start program.calls)
  presented : ∀ own renderer, (program.engines own).renderer = some renderer →
    (program.engines own).options.customOutput = false →
      ∃ earlier, Continues start program.calls (program.engines own) renderer earlier

/-- A step that sends nothing and keeps what is presented. -/
theorem Follows.of_same (follows : Follows start program) (calls : next.calls = program.calls)
    (presented : ∀ own renderer, (next.engines own).renderer = some renderer →
      (next.engines own).options.customOutput = false →
        (program.engines own).renderer = some renderer ∧
          (next.engines own).options = (program.engines own).options)
    (kept : ∀ own, program.Presents own → next.Presents own) : Follows start next where
  free := fun none => by
    rw [calls]
    exact follows.free fun own shows => none own (kept own shows)
  presented := fun own renderer present console => by
    obtain ⟨before, options⟩ := presented own renderer present console
    rw [options] at console
    obtain ⟨earlier, continued⟩ := follows.presented own renderer before console
    rw [calls]
    exact ⟨earlier, continued.reached, continued.ready, continued.atRest,
      continued.alternate.trans (by rw [options])⟩

/-- The stream of a console engine goes on with its renderer. -/
theorem Follows.of_sent (sound : Sound base (some self) next) (shows : next.Presents self)
    {renderer : Renderer} {earlier : List SinkCall}
    (present : (next.engines self).renderer = some renderer)
    (continued : Continues start next.calls (next.engines self) renderer earlier) :
    Follows start next where
  free := fun none => absurd shows (none self)
  presented := fun own other found console => by
    have owner := sound.presents own ⟨by rw [found]; rfl, console⟩
    rw [sound.presents self shows, Option.some.injEq] at owner
    subst owner
    rw [present, Option.some.injEq] at found
    rw [← found]
    exact ⟨earlier, continued⟩

/-- A change of the output of one engine, if nothing was sent. -/
theorem Follows.of_local [DecidableEq Id] (follows : Follows start program)
    (here : Local self program next) (calls : next.calls = program.calls)
    (presented : ∀ renderer, (next.engines self).renderer = some renderer →
      (next.engines self).options.customOutput = false →
        (program.engines self).renderer = some renderer ∧
          (next.engines self).options = (program.engines self).options)
    (kept : program.Presents self → next.Presents self) : Follows start next := by
  apply follows.of_same calls
  · intro own renderer present console
    by_cases same : own = self
    · rw [same] at present console ⊢
      exact presented renderer present console
    · rw [here.engines own same] at present ⊢
      exact ⟨present, rfl⟩
  · intro own shows
    by_cases same : own = self
    · rw [same] at shows ⊢
      exact kept shows
    · unfold Presents
      rw [here.engines own same]
      exact shows

/-- Nobody but the owner is on the console. -/
theorem Sound.none_presents {busy : Option Id} (sound : Sound base busy program)
    (owner : program.process.activeOwner = some self) (absent : ¬ program.Presents self) :
    ∀ own, ¬ program.Presents own := by
  intro own shows
  have active := sound.presents own shows
  rw [owner, Option.some.injEq] at active
  subst active
  exact absent shows

variable [DecidableEq Id]

theorem follows_destroy (sound : Sound base (some self) program) (follows : Follows start program)
    (restores : (program.destroyRenderer self).Restores) :
    Follows start (program.destroyRenderer self) := by
  have here := local_destroyRenderer program self
  have gone : ((program.destroyRenderer self).engines self).renderer = none := by
    rw [engines_destroyRenderer_self]
  cases present : (program.engines self).renderer with
  | none =>
      have same : program.destroyRenderer self = program := by
        unfold destroyRenderer
        rw [present]
      rw [same]
      exact follows
  | some renderer =>
      have holds : (program.engines self).renderer.isSome = true := by rw [present]; rfl
      have directed := sound.directed self holds
      have sent : (program.destroyRenderer self).calls =
          (program.send self renderer.terminal.sink renderer.destroy.sink).calls := by
        simp only [destroyRenderer, present]
        rfl
      by_cases console : (program.engines self).options.customOutput = false
      · have output : (program.engines self).activeOutput = some .stdout := by
          rw [directed, outputOf, console]
          rfl
        obtain ⟨earlier, continued⟩ := follows.presented self renderer present console
        have reached : (program.destroyRenderer self).calls = earlier ++ renderer.destroy.sink.calls := by
          rw [sent, calls_send_of_stdout output]
          exact continues continued.reached renderer.terminal.grows_destroy.calls
        refine ⟨fun _ => ?_, fun own other found shows => ?_⟩
        · rw [reached, terminal_append]
          exact shellReady_destroy continued.ready continued.atRest
            (restores_of_stream reached restores)
        · -- No other engine is on the console.
          have distinct : own ≠ self := by
            rintro rfl
            rw [gone] at found
            cases found
          rw [here.engines own distinct] at found shows
          have owner := sound.presents own ⟨by rw [found]; rfl, shows⟩
          rw [sound.presents self ⟨holds, console⟩, Option.some.injEq] at owner
          exact absurd owner.symm distinct
      · have output : (program.engines self).activeOutput ≠ some .stdout := by
          rw [directed, outputOf, if_pos (Bool.eq_true_of_not_eq_false console)]
          simp
        apply follows.of_local here
        · rw [sent, calls_send_of_custom output]
        · intro other found
          rw [gone] at found
          cases found
        · exact fun shows => absurd shows.2 console

/-- A new renderer goes on where the stream is. -/
theorem follows_construct (sound : Sound base (some self) program) (follows : Follows start program)
    (absent : (program.engines self).renderer = none)
    (directed : (program.engines self).activeOutput = some (outputOf (program.engines self).options))
    (owner : (program.engines self).options.customOutput = false →
      program.process.activeOwner = some self)
    (options : RendererOptions)
    (alternate : options.useAlternateScreen = (program.engines self).options.useAlternateScreen)
    (scratch : Scratch) (responses : Nat → Bool)
    (piece : Piece host self program next)
    (made : next = (program.send self { responses := responses }
        (Renderer.create host options scratch { responses := responses }).terminal.sink).update
      self fun impl =>
        { impl with renderer := some (.create host options scratch { responses := responses }) }) :
    Follows start next := by
  have soundNext := piece.sound sound
  have here := piece.localStep sound.process
  have now : next.engines self =
      { program.engines self with
        renderer := some (.create host options scratch { responses := responses }) } := by
    rw [made, engines_update_self, engines_send]
  have sent : next.calls = (program.send self { responses := responses }
      (Renderer.create host options scratch { responses := responses }).terminal.sink).calls := by
    rw [made]
    rfl
  by_cases console : (program.engines self).options.customOutput = false
  · have output : (program.engines self).activeOutput = some .stdout := by
      rw [directed, outputOf, console]
      rfl
    have ready := follows.free (sound.none_presents (owner console) (not_presents absent))
    apply Follows.of_sent soundNext (by unfold Presents; rw [now]; exact ⟨rfl, console⟩)
      (by rw [now])
    refine ⟨?_, ready, ⟨settled_create rfl options.useAlternateScreen ready.calm,
      VideoSixelEncoder.adapted_create host options.sixel scratch⟩, ?_⟩
    · rw [sent, calls_send_of_stdout output]
      rfl
    · rw [now]
      exact (keeps_create _ options.useAlternateScreen).usesAlternateScreen.trans alternate
  · have output : (program.engines self).activeOutput ≠ some .stdout := by
      rw [directed, outputOf, if_pos (Bool.eq_true_of_not_eq_false console)]
      simp
    apply follows.of_local here
    · rw [sent, calls_send_of_custom output]
    · intro renderer present shows
      rw [now] at shows
      exact absurd shows console
    · exact fun shows => absurd shows.2 console

theorem follows_use (sound : Sound base (some self) program) (follows : Follows start program)
    {renderer : Renderer} (present : (program.engines self).renderer = some renderer)
    (calls : List Renderer.Call) (piece : Piece host self program next)
    (made : next = (program.send self renderer.terminal.sink
        (renderer.performAll host calls).terminal.sink).update self fun impl =>
      { impl with renderer := some (renderer.performAll host calls) })
    (restores : next.Restores) : Follows start next := by
  have soundNext := piece.sound sound
  have here := piece.localStep sound.process
  have holds : (program.engines self).renderer.isSome = true := by rw [present]; rfl
  have directed := sound.directed self holds
  have now : next.engines self =
      { program.engines self with renderer := some (renderer.performAll host calls) } := by
    rw [made, engines_update_self, engines_send]
  have sent : next.calls = (program.send self renderer.terminal.sink
      (renderer.performAll host calls).terminal.sink).calls := by
    rw [made]
    rfl
  by_cases console : (program.engines self).options.customOutput = false
  · have output : (program.engines self).activeOutput = some .stdout := by
      rw [directed, outputOf, console]
      rfl
    obtain ⟨earlier, continued⟩ := follows.presented self renderer present console
    obtain ⟨_, grows⟩ := renderer.extends_performAll host calls
    have reached : next.calls = earlier ++ (renderer.performAll host calls).terminal.sink.calls := by
      rw [sent, calls_send_of_stdout output]
      exact continues continued.reached grows.calls
    obtain ⟨atRest, alternate⟩ := Renderer.atRest_performAll host continued.atRest calls
      (restores_of_stream reached restores)
    apply Follows.of_sent soundNext (by unfold Presents; rw [now]; exact ⟨rfl, console⟩)
      (by rw [now])
    refine ⟨reached, continued.ready, atRest, ?_⟩
    rw [now]
    exact alternate.trans continued.alternate
  · have output : (program.engines self).activeOutput ≠ some .stdout := by
      rw [directed, outputOf, if_pos (Bool.eq_true_of_not_eq_false console)]
      simp
    apply follows.of_local here
    · rw [sent, calls_send_of_custom output]
    · intro other found shows
      rw [now] at shows
      exact absurd shows console
    · exact fun shows => absurd shows.2 console

/-- Every piece continues the stream in order. -/
theorem Piece.follows (piece : Piece host self program next)
    (sound : Sound base (some self) program) (follows : Follows start program)
    (restores : next.Restores) : Follows start next := by
  have here := piece.localStep sound.process
  have made := piece
  cases made with
  | change change renderer options output =>
      apply follows.of_local here rfl
      · rw [engines_update_self, renderer, options]
        exact fun _ found _ => ⟨found, rfl⟩
      · unfold Presents
        rw [engines_update_self, renderer, options]
        exact id
  | request change before after free =>
      apply follows.of_local here rfl
      · rw [engines_update_self, after]
        exact fun _ found => by cases found
      · exact fun shows => absurd shows (not_presents before)
  | destroy => exact follows_destroy sound follows restores
  | restore absent =>
      exact follows.of_local here rfl (fun _ found _ => ⟨found, rfl⟩) id
  | activate absent console answers =>
      exact follows.of_local here rfl (fun _ found _ => ⟨found, rfl⟩) id
  | construct absent directed owner options alternate scratch responses =>
      exact follows_construct sound follows absent directed owner options alternate scratch
        responses piece rfl
  | use renderer present calls => exact follows_use sound follows present calls piece rfl restores
  | observe window fontSize =>
      exact follows.of_local here rfl (fun _ found _ => ⟨found, rfl⟩) id
  | vanish absent free =>
      apply follows.of_local here rfl
      · intro renderer found
        simp only [Function.update_self] at found
        cases found
      · exact fun shows => absurd shows (not_presents absent)

/-! ### What the console passes -/

/-- An activation that succeeds leaves a console that passes sequences. -/
def Enables (useAlternateScreen : Bool) (ended : Scene Id × Status) : Prop :=
  ended.2.code = .none → ended.1.console.modes.PassesSequences ∧
    ended.1.console.activeAlternateScreen = useAlternateScreen

theorem enables_register {scene : Scene Id} (useAlternateScreen : Bool) (answers : Answers)
    (bit : (scene.console.outputMode &&& enableVirtualTerminalProcessing) ≠ 0) :
    Enables useAlternateScreen (scene.register self useAlternateScreen answers) := by
  unfold Scene.register
  dsimp only
  split_ifs
  · intro code
    cases code
  · intro code
    cases code
  · exact fun _ => ⟨⟨rfl, bit⟩, rfl⟩

theorem enables_enable (scene : Scene Id) (useAlternateScreen : Bool) (answers : Answers) :
    Enables useAlternateScreen (scene.enable self useAlternateScreen answers) := by
  unfold Scene.enable
  split
  · intro code
    cases code
  · dsimp only
    split
    · intro code
      cases code
    · rename_i taken _
      split_ifs with unverified
      · intro code
        cases code
      · -- The mode that was verified is the one the console took.
        apply enables_register
        simp only [Console.getConsoleMode] at unverified
        split_ifs at unverified with asked
        · simpa using unverified
        · simp at unverified

theorem enables_activate (scene : Scene Id) (useAlternateScreen : Bool) (answers : Answers) :
    Enables useAlternateScreen (scene.activate self useAlternateScreen answers) := by
  unfold Scene.activate
  dsimp only
  split_ifs
  · intro code
    cases code
  · intro code
    cases code
  · intro code
    cases code
  · intro code
    cases code
  · exact enables_enable _ useAlternateScreen answers

/-- The modes of the console, as long as only engines set them; `found` are those the program
started with. -/
structure Undisturbed (found : ConsoleModes) (program : Program Id) : Prop where
  lease : program.process.lease.Keeps found
  passes : ∀ own, program.process.activeOwner = some own →
    program.process.console.modes.PassesSequences ∧
      program.process.console.activeAlternateScreen =
        (program.engines own).options.useAlternateScreen
  written : ∀ entry ∈ program.stdout, entry.modes.PassesSequences

variable {found : ConsoleModes}

/-- The console stays as it is. -/
theorem Undisturbed.of_console (undisturbed : Undisturbed found program)
    (here : Local self program next) (lease : next.process.lease = program.process.lease)
    (console : next.process.console = program.process.console)
    (activeOwner : next.process.activeOwner = program.process.activeOwner)
    (options : program.process.activeOwner = some self →
      (next.engines self).options = (program.engines self).options)
    (written : ∀ entry ∈ next.stdout, entry.modes.PassesSequences) : Undisturbed found next where
  lease := lease ▸ undisturbed.lease
  passes := fun own owns => by
    rw [activeOwner] at owns
    have passes := undisturbed.passes own owns
    by_cases same : own = self
    · rw [same] at owns passes ⊢
      rw [console, options owns]
      exact passes
    · rw [console, here.engines own same]
      exact passes
  written := written

omit [DecidableEq Id] in
/-- What is sent by the owner passes. -/
theorem Undisturbed.send (undisturbed : Undisturbed found program)
    (owner : (program.engines self).activeOutput = some .stdout →
      program.process.activeOwner = some self) (before after : OutputSink) :
    ∀ entry ∈ (program.send self before after).stdout, entry.modes.PassesSequences := by
  unfold Program.send
  split_ifs with output
  · intro entry member
    rcases List.mem_append.mp member with earlier | new
    · exact undisturbed.written entry earlier
    · obtain ⟨call, -, rfl⟩ := List.mem_map.mp new
      exact (undisturbed.passes self (owner output)).1
  · exact undisturbed.written

/-- What a session does that is not another owner's. -/
theorem Undisturbed.restore (undisturbed : Undisturbed found program)
    (sound : program.process.Sound base) (self : Id) :
    Undisturbed found (program.restoreConsole self) where
  lease := by
    rw [restoreConsole, Process.lease_restore sound self]
    exact undisturbed.lease.giveBack self
  passes := fun own owns => by
    have distinct : own ≠ self := by
      rintro rfl
      exact Process.activeOwner_restore_ne _ _ owns
    have held := (owner_restore_other program.process distinct).mp owns
    have other : program.process.activeOwner ≠ some self := by
      rw [held]
      exact fun same => distinct (Option.some.inj same)
    have unchanged : (program.restoreConsole self).process = program.process :=
      sound.restore_eq_of_not_owner other
    rw [unchanged]
    exact undisturbed.passes own held
  written := undisturbed.written

theorem Undisturbed.activate (undisturbed : Undisturbed found program)
    (sound : program.process.Sound base) (self : Id) (answers : Answers) :
    Undisturbed found
      { program with
        process := (program.process.activate self
          (program.engines self).options.useAlternateScreen answers).1 } where
  lease := by
    have taken := Process.lease_perform sound
      (.activate self (program.engines self).options.useAlternateScreen answers)
    simp only [Process.perform, Process.request, Lease.serve] at taken
    rw [taken]
    exact undisturbed.lease.take self _
  passes := fun own owns => by
    dsimp only at owns ⊢
    by_cases code : (program.process.activate self
        (program.engines self).options.useAlternateScreen answers).2.code = .none
    · rw [owner_of_activated code, Option.some.injEq] at owns
      subst owns
      exact enables_activate (program.process.scene self) _ answers code
    · obtain ⟨console, activeOwner, -, -⟩ := sound.failsWithoutTrace self _ answers code
      rw [activeOwner] at owns
      rw [console]
      exact (undisturbed.restore sound self).passes own owns
  written := undisturbed.written

theorem lease_detect (process : Process Id) (self : Id) (detected : TerminalCapabilities) :
    ({ process with
      sessions := Function.update process.sessions self
        { process.sessions self with detected := detected } } : Process Id).lease =
      process.lease := by
  have found : ∀ own, (Function.update process.sessions self
      { process.sessions self with detected := detected } own).found =
        (process.sessions own).found := by
    intro own
    by_cases same : own = self
    · rw [same, Function.update_self]
      rfl
    · rw [Function.update_of_ne same]
  simp only [Process.lease, found]

theorem Piece.undisturbed (piece : Piece host self program next)
    (sound : Sound base (some self) program) (undisturbed : Undisturbed found program) :
    Undisturbed found next := by
  have here := piece.localStep sound.process
  have owned : ∀ renderer, (program.engines self).renderer = some renderer →
      (program.engines self).activeOutput = some .stdout →
        program.process.activeOwner = some self := by
    intro renderer present output
    have holds : (program.engines self).renderer.isSome = true := by rw [present]; rfl
    exact sound.presents self ⟨holds, console_of_stdout (sound.directed self holds) output⟩
  cases piece with
  | change change renderer options output =>
      exact undisturbed.of_console here rfl rfl rfl
        (fun _ => by rw [engines_update_self, options]) undisturbed.written
  | request change before after free =>
      exact undisturbed.of_console here rfl rfl rfl (fun owns => absurd owns free)
        undisturbed.written
  | destroy =>
      have same := process_destroyRenderer program self
      apply undisturbed.of_console here (by rw [same]) (by rw [same]) (by rw [same])
      · rw [engines_destroyRenderer_self]
        exact fun _ => rfl
      · unfold Program.destroyRenderer
        split
        · exact undisturbed.written
        · rename_i renderer present
          exact undisturbed.send (owned renderer present) _ _
  | restore absent => exact undisturbed.restore sound.process self
  | activate absent console answers => exact undisturbed.activate sound.process self answers
  | construct absent directed owner options alternate scratch responses =>
      have same := process_send program self { responses := responses }
        (Renderer.create host options scratch { responses := responses }).terminal.sink
      apply undisturbed.of_console here (by rw [process_update, same])
        (by rw [process_update, same]) (by rw [process_update, same])
      · rw [engines_update_self, engines_send]
        exact fun _ => rfl
      · exact undisturbed.send (fun output => owner (console_of_stdout directed output)) _ _
  | use renderer present calls =>
      have same := process_send program self renderer.terminal.sink
        (renderer.performAll host calls).terminal.sink
      apply undisturbed.of_console here (by rw [process_update, same])
        (by rw [process_update, same]) (by rw [process_update, same])
      · rw [engines_update_self, engines_send]
        exact fun _ => rfl
      · exact undisturbed.send (owned renderer present) _ _
  | observe window fontSize =>
      obtain ⟨detected, same⟩ := refreshGeometry_eq program self window fontSize
      rw [same] at here ⊢
      exact undisturbed.of_console here (lease_detect program.process self detected) rfl rfl
        (fun _ => rfl) undisturbed.written
  | vanish absent free =>
      have unchanged := sound.process.restore_of_not_owner free
      apply undisturbed.of_console here
      · apply Process.lease_put_other free
        · rw [unchanged]
          rfl
        · rw [unchanged]
          rfl
      · simp only [Process.put, unchanged]
        rfl
      · simp only [Process.put, unchanged]
        rfl
      · exact fun owns => absurd owns free
      · exact undisturbed.written

/-! ### Runs -/

omit [DecidableEq Id] in
theorem stdout_send_prefix (program : Program Id) (self : Id) (before after : OutputSink) :
    program.stdout <+: (program.send self before after).stdout := by
  unfold send
  split_ifs
  · exact List.prefix_append _ _
  · exact List.prefix_refl _

theorem Piece.grows (piece : Piece host self program next) : program.stdout <+: next.stdout := by
  cases piece with
  | destroy =>
      unfold destroyRenderer
      split
      · exact List.prefix_refl _
      · exact stdout_send_prefix program self _ _
  | construct absent directed owner options alternate scratch responses =>
      exact stdout_send_prefix program self _ _
  | use renderer present calls => exact stdout_send_prefix program self _ _
  | _ => exact List.prefix_refl _

omit [DecidableEq Id] in
theorem Restores.of_prefix (restores : next.Restores) (grows : program.stdout <+: next.stdout) :
    program.Restores :=
  fun call member => restores call ((grows.map Written.call).subset member)

/-- What holds in the middle of a command as well as between two. -/
structure Kept (base : List ControlHandler) (busy : Option Id) (start : Vt.Terminal)
    (found : ConsoleModes) (program : Program Id) : Prop where
  sound : Sound base busy program
  follows : program.Restores → Follows start program
  undisturbed : Undisturbed found program

theorem Piece.kept (piece : Piece host self program next)
    (kept : Kept base (some self) start found program) : Kept base (some self) start found next where
  sound := piece.sound kept.sound
  follows := fun restores =>
    piece.follows kept.sound (kept.follows (restores.of_prefix piece.grows)) restores
  undisturbed := piece.undisturbed kept.sound kept.undisturbed

theorem Chain.kept (chain : Chain host self program next)
    (kept : Kept base (some self) start found program) :
    Kept base (some self) start found next := by
  induction chain with
  | refl => exact kept
  | tail _ piece inductionHypothesis => exact piece.kept inductionHypothesis

theorem Kept.perform (kept : Kept base none start found program) {command : Command Id}
    (engine : command.engine.isSome = true) :
    Kept base none start found (program.perform host command) := by
  obtain ⟨self, own⟩ := Option.isSome_iff_exists.mp engine
  have course : Course host self program (program.perform host command) :=
    course_perform program kept.sound.process command own
  have after := Chain.kept course.chain ⟨kept.sound.enter self, kept.follows, kept.undisturbed⟩
  exact ⟨kept.sound.course course, after.follows, after.undisturbed⟩

theorem Kept.run {commands : List (Command Id)} (kept : Kept base none start found program)
    (engines : ∀ command ∈ commands, command.engine.isSome = true) :
    Kept base none start found (program.run host commands) := by
  induction commands generalizing program with
  | nil => exact kept
  | cons command rest inductionHypothesis =>
      exact inductionHypothesis (kept.perform (engines command List.mem_cons_self))
        fun later member => engines later (List.mem_cons_of_mem command member)

omit [DecidableEq Id] in
theorem kept_initial (outputMode : UInt32) (stdoutMode : TranslationMode)
    (handlers : List ControlHandler) (ready : ShellReady start) :
    Kept handlers none start ⟨outputMode, stdoutMode⟩
      (initial outputMode stdoutMode handlers : Program Id) where
  sound := sound_initial outputMode stdoutMode handlers
  follows := fun _ => ⟨fun _ => ready, fun _ _ found => by cases found⟩
  undisturbed :=
    ⟨⟨fun _ => rfl, fun _ _ held => by cases held⟩, fun _ owns => (by cases owns),
      fun _ member => absurd member List.not_mem_nil⟩

/-- Whatever the engines of a program are called to do, and whatever fails on the way: while no
engine is initialized for the console, the terminal and the console are as the program found
them; and at any other time between two calls a control event brings them there. -/
theorem terminal_restored (host : Host) (outputMode : UInt32) (stdoutMode : TranslationMode)
    (handlers : List ControlHandler) (start : Vt.Terminal) (ready : ShellReady start)
    (commands : List (Command Id)) (engines : ∀ command ∈ commands, command.engine.isSome = true) :
    let program := (initial outputMode stdoutMode handlers).run host commands
    program.Restores →
      ((∀ self, ¬ program.OnConsole self) →
        ShellReady (terminal start program.calls) ∧
          program.process.console.modes = ⟨outputMode, stdoutMode⟩ ∧
          program.process.console.handlers = handlers) ∧
      ∀ self, program.OnConsole self →
        .restoreOnControlEvent ∈ program.process.console.handlers ∧
          ∀ event, (∀ number, event ≠ .unlisted number) →
            ShellReady ((terminal start program.calls).feed
                (ascii (restoreOnControlEvent event program.process.console).1)) ∧
              (restoreOnControlEvent event program.process.console).2.outputMode = outputMode := by
  intro program restores
  have kept : Kept handlers none start ⟨outputMode, stdoutMode⟩ program :=
    (kept_initial outputMode stdoutMode handlers ready).run engines
  have follows := kept.follows restores
  constructor
  · intro nobody
    have free : program.process.activeOwner = none := by
      cases owner : program.process.activeOwner with
      | none => rfl
      | some self =>
          exact absurd (kept.sound.owns_iff.mp (kept.sound.process.owns_iff.mpr owner))
            (nobody self)
    refine ⟨follows.free fun own shows => ?_, kept.undisturbed.lease.free ?_, ?_⟩
    · have owner := kept.sound.presents own shows
      rw [free] at owner
      cases owner
    · simp only [Process.lease, free, Option.map_none]
    · rw [kept.sound.process.handlers, free]
      rfl
  · intro self on
    have owner := kept.sound.process.owns_iff.mp (kept.sound.owns_iff.mpr on)
    have holding := kept.sound.process.holding self owner
    have finished := kept.sound.finished self (by simp)
    obtain ⟨renderer, present⟩ :=
      Option.isSome_iff_exists.mp (finished.initialized.symm.trans on.1)
    obtain ⟨earlier, continued⟩ := follows.presented self renderer present on.2
    refine ⟨?_, fun event listed => ⟨?_, ?_⟩⟩
    · rw [kept.sound.process.handlers, owner]
      exact List.mem_cons_self
    · rw [continued.reached, terminal_append]
      apply shellReady_controlEvent continued.ready continued.atRest _ _ listed
      · rw [holding.activeHandle]
        exact holding.opened
      · rw [(kept.undisturbed.passes self owner).2, continued.alternate]
    · have back := kept.sound.process.controlEvent_of_owner owner listed
      have registered : .restoreOnControlEvent ∈ program.process.console.handlers := by
        rw [kept.sound.process.handlers, owner]
        exact List.mem_cons_self
      simp only [Process.perform, if_pos registered] at back
      rw [back]
      have gives := kept.undisturbed.lease.held self (program.process.sessions self).found (by
        simp only [Process.lease, owner, Option.map_some])
      rw [gives]

/-- Two engines take turns on the console: one is refused it, one writes to an output of its own,
one cannot prepare the terminal, and one ends with a recovery sequence refused once. -/
def twoEngines : List (Command Bool) :=
  let around : Surroundings := { console := Process.obliging, responses := fun call => call ≠ 15 }
  [.initializeEngine false { useAlternateScreen := true } around,
    .render false (some ⟨0, 0, 79, 24⟩) none (.indexed .stripes),
    .initializeEngine true {} around,
    .initializeEngine true { customOutput := true } around,
    .render true none none (.indexed .stripes),
    .clear false,
    .shutdown false,
    .initializeEngine true {} { around with responses := fun call => call ≠ 0 },
    .initializeEngine false {} around,
    .render false none none (.indexed .stripes),
    .initializeEngine false {} { around with thrown := some (.construction, .badAlloc) }]

/-- A console of which nothing is known but that its cursor is shown. -/
def shell : Vt.Terminal := { modes := fun mode => mode = 25 }

theorem shellReady_shell : ShellReady shell := ⟨⟨rfl, rfl, rfl⟩, rfl, rfl⟩

theorem terminal_restored_twoEngines :
    let program := (initial 3 .text [] : Program Bool).run Host.plain twoEngines
    ShellReady (terminal shell program.calls) ∧ program.process.console.modes = ⟨3, .text⟩ ∧
      program.process.console.handlers = [] := by
  intro program
  exact (terminal_restored Host.plain 3 .text [] shell shellReady_shell twoEngines
    (by simp [twoEngines, Command.engine]) (by decide +kernel)).1 (by decide +kernel)

/-- Every byte on stdout was sent by the engine that owned the terminal then, to a console that
passes bytes unchanged and acts on control sequences. -/
theorem stdout_passes (host : Host) (outputMode : UInt32) (stdoutMode : TranslationMode)
    (handlers : List ControlHandler) (commands : List (Command Id))
    (engines : ∀ command ∈ commands, command.engine.isSome = true) :
    ∀ entry ∈ ((initial outputMode stdoutMode handlers).run host commands).stdout,
      entry.owner = some entry.writer ∧ entry.modes.PassesSequences := by
  have kept : Kept handlers none shell ⟨outputMode, stdoutMode⟩
      ((initial outputMode stdoutMode handlers).run host commands) :=
    (kept_initial outputMode stdoutMode handlers shellReady_shell).run engines
  exact fun entry member => ⟨kept.sound.written entry member, kept.undisturbed.written entry member⟩

theorem stdout_passes_twoEngines :
    let program := (initial 3 .text [] : Program Bool).run Host.plain twoEngines
    program.stdout.length = 43 ∧
      ∀ entry ∈ program.stdout,
        entry.owner = some entry.writer ∧ entry.modes.PassesSequences := by
  intro program
  exact ⟨by decide +kernel, stdout_passes Host.plain 3 .text [] twoEngines
    (by simp [twoEngines, Command.engine])⟩

end Program

end Rasterm
