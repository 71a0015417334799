import Rasterm.Engine.Redraw
import Rasterm.Presenter.Worker

/-!
Contract: `invalidate()` against the worker. A reset that was asked for is executed
before the next frame is handed over, unless it was asked for while the worker sat in
its rate limit.

Owns the order of requests, resets and hand-overs in the log of a run, the exact
condition under which every hand-over has its reset before it, and what that means for
the frames presented; here the engine is the modelled one.
-/

set_option autoImplicit false

universe u v

namespace Rasterm

open History

/-! ### The order of events -/

/-- A reset has been asked for and has not begun. -/
def resetOwed : Entry → Option Bool
  | .invalidated => some true
  | .resetStarted => some false
  | _ => none

/-- The worker is inside a reset. -/
def resetRunning : Entry → Option Bool
  | .resetStarted => some true
  | .resetExecuted => some false
  | _ => none

/-- The worker holds a frame. -/
def frameHeld : Entry → Option Bool
  | .handed _ => some true
  | .finished _ => some false
  | .resetExecuted => some false
  | _ => none

/-- No frame has been presented since the last reset. -/
def fullAwaited : Entry → Option Bool
  | .resetExecuted => some true
  | .finished stats => if stats.rendered then some false else none
  | _ => none

/-- No frame is handed over before a reset that began after the last request has been
executed. -/
def ResetBefore (entry : Entry) (older : List Entry) : Prop :=
  match entry with
  | .handed _ =>
      ∀ since earlier, older = since ++ .invalidated :: earlier →
        ∃ last middle first,
          since = last ++ .resetExecuted :: (middle ++ .resetStarted :: first)
  | _ => True

/-- No frame both handed over and concluded in this part of the log was presented. -/
def NonePresented (since : List Entry) : Prop :=
  ∀ later stats first, since = later ++ .finished stats :: first →
    (∃ handed, .handed handed ∈ first) → stats.rendered = false

/-- The first frame handed over after a request and presented is a full redraw. -/
def RedrawnSince (entry : Entry) (older : List Entry) : Prop :=
  match entry with
  | .finished stats =>
      stats.rendered = true → ∀ since earlier, older = since ++ .invalidated :: earlier →
        (∃ handed, .handed handed ∈ since) → NonePresented since → stats.fullFrame = true
  | _ => True

/-- Only a frame the worker holds is concluded. -/
def FinishesHeld (entry : Entry) (older : List Entry) : Prop :=
  match entry with
  | .finished _ => flag frameHeld older = true
  | _ => True

/-- The first frame presented after a reset is presented in full. -/
def FullWhenAwaited (entry : Entry) (older : List Entry) : Prop :=
  match entry with
  | .finished stats =>
      flag fullAwaited older = true → stats.rendered = true → stats.fullFrame = true
  | _ => True

section Order

variable {log : List Entry}

theorem finished_of_lowers {entry : Entry} (lowers : fullAwaited entry = some false) :
    ∃ stats, entry = .finished stats ∧ stats.rendered = true := by
  cases entry with
  | finished stats =>
      refine ⟨stats, rfl, ?_⟩
      by_contra unpresented
      rw [fullAwaited, if_neg unpresented] at lowers
      cases lowers
  | _ => cases lowers

theorem handed_of_raises {entry : Entry} (raises : frameHeld entry = some true) :
    ∃ handed, entry = .handed handed := by
  cases entry with
  | handed handed => exact ⟨handed, rfl⟩
  | _ => cases raises

/-- With no reset owed and none running, every request has had its reset. -/
theorem resetBefore_of_settled (handed : Handed) (owed : flag resetOwed log = false)
    (resting : flag resetRunning log = false) : ResetBefore (.handed handed) log := by
  intro since earlier split
  rw [split] at owed
  obtain ⟨later, started, first, sinceEq, lowers⟩ := lowered_since owed rfl
  obtain rfl : started = .resetStarted := by
    cases started <;> first
      | rfl
      | cases lowers
  rw [split, sinceEq, List.append_assoc, List.cons_append] at resting
  obtain ⟨last, executed, middle, laterEq, ends⟩ := lowered_since resting rfl
  obtain rfl : executed = .resetExecuted := by
    cases executed <;> first
      | rfl
      | cases ends
  refine ⟨last, middle, first, ?_⟩
  rw [sinceEq, laterEq, List.append_assoc, List.cons_append]

/-- A hand-over with a reset owed comes too early. -/
theorem not_resetBefore_of_owed (handed : Handed) (owed : flag resetOwed log = true) :
    ¬ ResetBefore (.handed handed) log := by
  intro ordered
  obtain ⟨since, asked, earlier, split, raises, still⟩ := raised_of_flag owed
  obtain rfl : asked = .invalidated := by
    cases asked <;> first
      | rfl
      | cases raises
  obtain ⟨last, middle, first, sinceEq⟩ := ordered since earlier split
  have moved : resetOwed .resetStarted = none := still _ (by simp [sinceEq])
  cases moved

/-- After a hand-over that had its reset, a full redraw is awaited until a frame is
presented. -/
theorem fullAwaited_of_nonePresented (before : Everywhere ResetBefore log)
    (held : Everywhere FinishesHeld log) {since earlier : List Entry}
    (split : log = since ++ .invalidated :: earlier)
    (handed : ∃ frame, .handed frame ∈ since) (none : NonePresented since) :
    flag fullAwaited log = true := by
  induction since generalizing log with
  | nil =>
      obtain ⟨frame, member⟩ := handed
      cases member
  | cons newest rest inductionHypothesis =>
      rw [List.cons_append] at split
      subst split
      obtain ⟨here, earlierBefore⟩ := everywhere_cons.mp before
      obtain ⟨-, earlierHeld⟩ := everywhere_cons.mp held
      have fewer : NonePresented rest := by
        intro later stats first restEq
        exact none (newest :: later) stats first (by rw [restEq, List.cons_append])
      have onwards : (∃ frame, .handed frame ∈ rest) →
          flag fullAwaited (rest ++ .invalidated :: earlier) = true :=
        fun some => inductionHypothesis earlierBefore earlierHeld rfl some fewer
      have through : (∀ frame, newest ≠ .handed frame) → ∃ frame, .handed frame ∈ rest := by
        intro other
        obtain ⟨frame, member⟩ := handed
        rcases List.mem_cons.mp member with same | later
        · exact absurd same.symm (other frame)
        · exact ⟨frame, later⟩
      cases newest with
      | handed frame =>
          obtain ⟨last, middle, first, restEq⟩ := here rest earlier rfl
          change flag fullAwaited (rest ++ .invalidated :: earlier) = true
          by_contra lowered
          rw [Bool.not_eq_true, restEq, List.append_assoc, List.cons_append] at lowered
          obtain ⟨later, concluded, sooner, lastEq, lowers⟩ := lowered_since lowered rfl
          obtain ⟨stats, rfl, presented⟩ := finished_of_lowers lowers
          have split : rest ++ .invalidated :: earlier = later ++ .finished stats ::
              (sooner ++ .resetExecuted ::
                (middle ++ .resetStarted :: first ++ .invalidated :: earlier)) := by
            simp [restEq, lastEq]
          have holding : flag frameHeld (sooner ++ .resetExecuted ::
              (middle ++ .resetStarted :: first ++ .invalidated :: earlier)) = true :=
            earlierHeld later _ _ split
          obtain ⟨entry, member, raises⟩ := raised_since holding rfl
          obtain ⟨other, rfl⟩ := handed_of_raises raises
          -- So that frame was handed over and presented since the request as well.
          have unpresented := fewer later stats
            (sooner ++ .resetExecuted :: (middle ++ .resetStarted :: first))
            (by simp [restEq, lastEq]) ⟨other, List.mem_append_left _ member⟩
          rw [presented] at unpresented
          cases unpresented
      | finished stats =>
          have inRest := through fun _ same => by cases same
          have unpresented := none [] stats rest rfl inRest
          have awaited := onwards inRest
          simp only [flag, fullAwaited, unpresented, Bool.false_eq_true, if_false,
            Option.getD_none]
          exact awaited
      | accepted submission => exact onwards (through fun _ same => by cases same)
      | cancelled => exact onwards (through fun _ same => by cases same)
      | invalidated => exact onwards (through fun _ same => by cases same)
      | resetStarted => exact onwards (through fun _ same => by cases same)
      | resetExecuted => rfl
      | drained completed => exact onwards (through fun _ same => by cases same)

end Order

/-! ### The worker and the log -/

/-- What the worker relies on in its engine: after a reset it presents nothing but a full
frame, however often it fails before. -/
structure EngineCalls.Redraws {Device : Type u} {Input : Type v}
    (calls : EngineCalls Device Input) (Valid Forgotten : Device → Prop) : Prop where
  valid_reset : ∀ {device}, Valid device → Valid (calls.reset device)
  valid_present : ∀ {device}, Valid device → ∀ input handed,
    Valid (calls.present input handed device).1
  forgotten_reset : ∀ {device}, Valid device → Forgotten (calls.reset device)
  full_present : ∀ {device}, Valid device → Forgotten device → ∀ input handed,
    (calls.present input handed device).2.rendered = true →
      (calls.present input handed device).2.fullFrame = true
  forgotten_present : ∀ {device}, Valid device → Forgotten device → ∀ input handed,
    (calls.present input handed device).2.rendered = false →
      Forgotten (calls.present input handed device).1

def Phase.isResetting : Phase → Bool
  | resetting => true
  | _ => false

namespace System

variable {Device : Type u} {Input : Type v} {calls : EngineCalls Device Input}
  {Valid Forgotten : Device → Prop} {system next : System Device} {label : Label Input}

/-- The flags of the log are those of the state. -/
structure Ordered (system : System Device) : Prop where
  consistent : system.Consistent
  owed : system.presenter.running = true →
    flag resetOwed system.log = system.presenter.resetRequested
  resting : flag resetRunning system.log = system.phase.isResetting
  held : flag frameHeld system.log = system.phase.holdsFrame
  finishes : Everywhere FinishesHeld system.log

theorem ordered_start (started : Started system) : system.Ordered := by
  have consistent := consistent_start started
  cases started with
  | intro before options device succeeded =>
      refine ⟨consistent, fun _ => ?_, rfl, rfl, everywhere_nil⟩
      rw [Presenter.initializeWith_of_succeeded succeeded]
      rfl

theorem Ordered.handOver (ordered : system.Ordered) (next : system.handOver.Consistent)
    (resting : system.phase.isResetting = false) : system.handOver.Ordered where
  consistent := next
  owed := ordered.owed
  resting := ordered.resting.trans resting
  held := rfl
  finishes := everywhere_cons.mpr ⟨trivial, ordered.finishes⟩

theorem ordered_move (move : Move calls system label next) (ordered : system.Ordered) :
    next.Ordered := by
  have consistent := consistent_move move ordered.consistent
  have owed := ordered.owed
  have resting := ordered.resting
  have held := ordered.held
  have finishes := ordered.finishes
  cases move with
  | @accepted heap submission after entered accepted =>
      refine ⟨consistent, ?_, resting, held, everywhere_cons.mpr ⟨trivial, finishes⟩⟩
      intro running
      change after.running = true at running
      change flag resetOwed system.log = after.resetRequested
      rw [accepted.running] at running
      rw [accepted.resetRequested]
      exact owed running
  | interrupted failed interrupted =>
      refine ⟨consistent, ?_, resting, held, finishes⟩
      rw [interrupted.rest]
      exact owed
  | noted noted =>
      obtain ⟨rejected, status, rfl⟩ := noted
      exact ⟨consistent, owed, resting, held, finishes⟩
  | emitted found => exact ⟨consistent, owed, resting, held, finishes⟩
  | invalidated running going =>
      exact ⟨consistent, fun _ => rfl, resting, held, everywhere_cons.mpr ⟨trivial, finishes⟩⟩
  | waits running going => exact ⟨consistent, owed, resting, held, finishes⟩
  | drained =>
      exact ⟨consistent, owed, resting, held, everywhere_cons.mpr ⟨trivial, finishes⟩⟩
  | refusedShutdown inside => exact ⟨consistent, owed, resting, held, finishes⟩
  | cancelled outside running occupied =>
      exact ⟨consistent, owed, resting, held, everywhere_cons.mpr ⟨trivial, finishes⟩⟩
  | stopped outside running empty => exact ⟨consistent, owed, resting, held, finishes⟩
  | stoppedAgain outside gone => exact ⟨consistent, owed, resting, held, finishes⟩
  | joined exited asked =>
      exact ⟨consistent, (fun running => by cases running), resting, held, finishes⟩
  | exited sleeping stopping =>
      refine ⟨consistent, owed, ?_, ?_, finishes⟩
      · rcases sleeping with sleeping | sleeping <;> rw [sleeping] at resting <;> exact resting
      · rcases sleeping with sleeping | sleeping <;> rw [sleeping] at held <;> exact held
  | resetStarted sleeping going requested =>
      rw [sleeping] at held
      exact ⟨consistent, fun _ => rfl, rfl, held, everywhere_cons.mpr ⟨trivial, finishes⟩⟩
  | limited sleeping going fresh occupied =>
      rw [sleeping] at resting held
      exact ⟨consistent, owed, resting, held, finishes⟩
  | handed sleeping going fresh occupied =>
      exact ordered.handOver consistent (by rw [sleeping]; rfl)
  | handedLate sleeping going => exact ordered.handOver consistent (by rw [sleeping]; rfl)
  | reset resetting =>
      exact ⟨consistent, owed, rfl, rfl, everywhere_cons.mpr ⟨trivial, finishes⟩⟩
  | rendered rendering =>
      rw [rendering] at resting held
      exact ⟨consistent, owed, resting, held, finishes⟩
  | finished rendered =>
      rw [rendered] at resting held
      refine ⟨consistent, ?_, resting, rfl, everywhere_cons.mpr ⟨held, finishes⟩⟩
      rw [Presenter.finish_eq]
      exact owed

/-- The worker's own hand-over has its reset, unless one was asked for in between. -/
theorem resetBefore_move (ordered : system.Ordered) (move : Move calls system label next)
    (unasked : label = .elapsed → system.presenter.stopping = false →
      system.presenter.resetRequested = false)
    (earlier : Everywhere ResetBefore system.log) : Everywhere ResetBefore next.log := by
  have handing : system.phase.isExited = false → system.phase.isResetting = false →
      system.presenter.resetRequested = false → Everywhere ResetBefore system.handOver.log := by
    intro present resting fresh
    have running := ordered.consistent.running_of_present present
    apply everywhere_cons.mpr ⟨resetBefore_of_settled _ _ _, earlier⟩
    · exact (ordered.owed running).trans fresh
    · exact ordered.resting.trans resting
  cases move with
  | accepted entered accepted => exact everywhere_cons.mpr ⟨trivial, earlier⟩
  | interrupted failed interrupted => exact earlier
  | noted noted => exact earlier
  | emitted found => exact earlier
  | invalidated running going => exact everywhere_cons.mpr ⟨trivial, earlier⟩
  | waits running going => exact earlier
  | drained => exact everywhere_cons.mpr ⟨trivial, earlier⟩
  | refusedShutdown inside => exact earlier
  | cancelled outside running occupied => exact everywhere_cons.mpr ⟨trivial, earlier⟩
  | stopped outside running empty => exact earlier
  | stoppedAgain outside gone => exact earlier
  | joined exited asked => exact earlier
  | exited sleeping stopping => exact earlier
  | resetStarted sleeping going requested => exact everywhere_cons.mpr ⟨trivial, earlier⟩
  | limited sleeping going fresh occupied => exact earlier
  | handed sleeping going fresh occupied =>
      exact handing (by rw [sleeping]; rfl) (by rw [sleeping]; rfl) fresh
  | handedLate sleeping going =>
      exact handing (by rw [sleeping]; rfl) (by rw [sleeping]; rfl) (unasked rfl going)
  | reset resetting => exact everywhere_cons.mpr ⟨trivial, earlier⟩
  | rendered rendering => exact earlier
  | finished rendered => exact everywhere_cons.mpr ⟨trivial, earlier⟩

/-! ### What is presented -/

/-- The engine remembers nothing until a frame has been presented after a reset. -/
structure Redrawn (Valid Forgotten : Device → Prop) (system : System Device) : Prop where
  valid : Valid system.device
  awaited : flag fullAwaited system.log = true →
    match system.phase with
    | .rendered stats =>
        (stats.rendered = true → stats.fullFrame = true) ∧
          (stats.rendered = false → Forgotten system.device)
    | _ => Forgotten system.device
  presented : Everywhere FullWhenAwaited system.log

theorem redrawn_move (redraws : calls.Redraws Valid Forgotten)
    (move : Move calls system label next) (redrawn : system.Redrawn Valid Forgotten) :
    next.Redrawn Valid Forgotten := by
  have valid := redrawn.valid
  have awaited := redrawn.awaited
  have presented := redrawn.presented
  have handing : system.phase = .waiting ∨ system.phase = .rateLimited →
      system.handOver.Redrawn Valid Forgotten := by
    intro sleeping
    refine ⟨valid, ?_, everywhere_cons.mpr ⟨trivial, presented⟩⟩
    rcases sleeping with sleeping | sleeping <;> rw [sleeping] at awaited <;> exact awaited
  cases move with
  | accepted entered accepted =>
      exact ⟨valid, awaited, everywhere_cons.mpr ⟨trivial, presented⟩⟩
  | interrupted failed interrupted => exact ⟨valid, awaited, presented⟩
  | noted noted => exact ⟨valid, awaited, presented⟩
  | emitted found => exact ⟨valid, awaited, presented⟩
  | invalidated running going =>
      exact ⟨valid, awaited, everywhere_cons.mpr ⟨trivial, presented⟩⟩
  | waits running going => exact ⟨valid, awaited, presented⟩
  | drained => exact ⟨valid, awaited, everywhere_cons.mpr ⟨trivial, presented⟩⟩
  | refusedShutdown inside => exact ⟨valid, awaited, presented⟩
  | cancelled outside running occupied =>
      exact ⟨valid, awaited, everywhere_cons.mpr ⟨trivial, presented⟩⟩
  | stopped outside running empty => exact ⟨valid, awaited, presented⟩
  | stoppedAgain outside gone => exact ⟨valid, awaited, presented⟩
  | joined exited asked => exact ⟨valid, awaited, presented⟩
  | exited sleeping stopping =>
      refine ⟨valid, ?_, presented⟩
      rcases sleeping with sleeping | sleeping <;> rw [sleeping] at awaited <;> exact awaited
  | resetStarted sleeping going requested =>
      rw [sleeping] at awaited
      exact ⟨valid, awaited, everywhere_cons.mpr ⟨trivial, presented⟩⟩
  | limited sleeping going fresh occupied =>
      rw [sleeping] at awaited
      exact ⟨valid, awaited, presented⟩
  | handed sleeping going fresh occupied => exact handing (Or.inl sleeping)
  | handedLate sleeping going => exact handing (Or.inr sleeping)
  | reset resetting =>
      exact ⟨redraws.valid_reset valid, fun _ => redraws.forgotten_reset valid,
        everywhere_cons.mpr ⟨trivial, presented⟩⟩
  | @rendered input handed rendering =>
      rw [rendering] at awaited
      refine ⟨redraws.valid_present valid input handed, fun up => ?_, presented⟩
      exact ⟨redraws.full_present valid (awaited up) input handed,
        redraws.forgotten_present valid (awaited up) input handed⟩
  | @finished stats rendered =>
      rw [rendered] at awaited
      refine ⟨valid, fun up => ?_, everywhere_cons.mpr ⟨?_, presented⟩⟩
      · change ((if stats.rendered then some false else none).getD
          (flag fullAwaited system.log)) = true at up
        cases shown : stats.rendered with
        | true =>
            rw [shown] at up
            cases up
        | false =>
            rw [shown] at up
            exact (awaited up).2 shown
      · exact fun up => (awaited up).1

/-- With its reset before every hand-over, the first frame presented is redrawn in full. -/
theorem redrawnSince_of_resetBefore (ordered : system.Ordered)
    (redrawn : system.Redrawn Valid Forgotten) (before : Everywhere ResetBefore system.log) :
    Everywhere RedrawnSince system.log := by
  intro newer entry older split
  cases entry with
  | finished stats =>
      intro presented since earlier olderEq handed none
      have olderBefore : Everywhere ResetBefore older :=
        (everywhere_cons.mp (Everywhere.of_append (split ▸ before))).2
      have olderHeld : Everywhere FinishesHeld older :=
        (everywhere_cons.mp (Everywhere.of_append (split ▸ ordered.finishes))).2
      have awaited := fullAwaited_of_nonePresented olderBefore olderHeld olderEq handed none
      exact redrawn.presented newer _ older split awaited presented
  | _ => trivial

/-! ### Runs -/

variable {start final : System Device} {labels : List (Label Input)}

theorem log_of_run (run : Transition.Run (step calls) start labels final) :
    ∃ newer, final.log = newer ++ start.log := by
  induction run with
  | nil state => exact ⟨[], rfl⟩
  | @cons state next final label labels head tail inductionHypothesis =>
      obtain ⟨newer, extended⟩ := inductionHypothesis
      obtain ⟨newest, grown⟩ := log_move (move_of_step label head)
      exact ⟨newer ++ newest, by rw [extended, grown, List.append_assoc]⟩

/-- A rate limit that ends with a hand-over finds no reset requested. -/
def Unasked (label : Label Input) (system : System Device) : Prop :=
  label = .elapsed → system.presenter.stopping = false → system.presenter.resetRequested = false

theorem ordered_of_run (started : Started start)
    (run : Transition.Run (step calls) start labels final) : final.Ordered :=
  run.invariant (fun label _ _ taken => ordered_move (move_of_step label taken))
    (ordered_start started)

theorem log_start (started : Started start) : start.log = [] := by
  cases started with
  | intro before options device succeeded => rfl

theorem resetBefore_of_run (started : Started start)
    (run : Transition.Run (step calls) start labels final)
    (unasked : ∀ before label after state, labels = before ++ label :: after →
      Transition.Run (step calls) start before state → Unasked label state) :
    Everywhere ResetBefore final.log := by
  have kept : final.Ordered ∧ Everywhere ResetBefore final.log := by
    apply run.invariant_of_allowed _ unasked
    · refine ⟨ordered_start started, ?_⟩
      rw [log_start started]
      exact everywhere_nil
    · rintro label system next taken allowed ⟨ordered, earlier⟩
      have move := move_of_step label taken
      exact ⟨ordered_move move ordered, resetBefore_move ordered move allowed earlier⟩
  exact kept.2

/-- A hand-over at the end of a rate limit during which a reset was asked for. -/
theorem not_resetBefore_of_elapsed (ordered : system.Ordered)
    (taken : step calls .elapsed system = some next)
    (going : system.presenter.stopping = false)
    (requested : system.presenter.resetRequested = true) :
    ¬ Everywhere ResetBefore next.log := by
  simp only [step] at taken
  split at taken
  · rename_i sleeping
    rw [if_neg (ne_true_of_eq_false going)] at taken
    rw [← Option.some.inj taken]
    have running := ordered.consistent.running_of_present (by rw [sleeping]; rfl)
    have owed := ordered.owed running
    rw [requested] at owed
    exact fun everywhere =>
      not_resetBefore_of_owed _ owed (everywhere_cons.mp everywhere).1
  · cases taken

theorem unasked_of_resetBefore (started : Started start)
    (run : Transition.Run (step calls) start labels final)
    (everywhere : Everywhere ResetBefore final.log) {before after : List (Label Input)}
    {label : Label Input} {state : System Device} (split : labels = before ++ label :: after)
    (head : Transition.Run (step calls) start before state) : Unasked label state := by
  rintro rfl going
  by_contra asked
  rw [Bool.not_eq_false] at asked
  subst split
  cases run.rest head with
  | cons taken tail =>
      obtain ⟨newer, extended⟩ := log_of_run tail
      rw [extended] at everywhere
      exact not_resetBefore_of_elapsed (ordered_of_run started head) taken going asked
        everywhere.of_append

theorem redrawn_start (started : Started start) (valid : Valid start.device) :
    start.Redrawn Valid Forgotten := by
  cases started with
  | intro before options device succeeded =>
      exact ⟨valid, (fun up => by cases up), everywhere_nil⟩

theorem redrawn_of_run (redraws : calls.Redraws Valid Forgotten) (started : Started start)
    (valid : Valid start.device) (run : Transition.Run (step calls) start labels final) :
    final.Redrawn Valid Forgotten :=
  run.invariant (fun label _ _ taken => redrawn_move redraws (move_of_step label taken))
    (redrawn_start started valid)

end System

/-! ### With the engine -/

/-- The calls of the worker into an `Engine`; each render learns the geometry that the
console reports. -/
def Engine.calls (host : Host) : EngineCalls Engine TerminalGeometry where
  renderFrame := fun observed frame engine => engine.renderFrame host observed frame
  renderValidatedIndexedFrame := fun observed frame engine =>
    engine.renderValidatedIndexedFrame host observed frame
  reset := Engine.reset
  status := Engine.latestStatus

/-- What a successful `initialize` leaves. -/
inductive Engine.Initialized (host : Host) : Engine → Prop where
  | intro (engine : Engine) (options : RendererOptions) (positive : options.cellPixels.Positive)
      (scratch : Scratch) (sink : OutputSink) :
      Initialized host { engine with renderer := Renderer.create host options scratch sink }

theorem Engine.Initialized.sound {host : Host} {engine : Engine}
    (initialized : engine.Initialized host) : engine.renderer.Sound host := by
  cases initialized with
  | intro engine options positive scratch sink => exact .create host positive scratch sink

theorem Engine.redraws_present {host : Host} {engine : Engine}
    (sound : engine.renderer.Sound host) (observed : TerminalGeometry) (handed : Handed) :
    engine.Redraws host ((Engine.calls host).present observed handed engine) := by
  unfold EngineCalls.present
  split
  · rename_i view _
    exact @Engine.redraws_renderFrame host engine observed sound (.packed view)
  · rename_i view _
    split_ifs
    · exact @Engine.redraws_renderValidatedIndexedFrame host engine observed sound view
    · exact @Engine.redraws_renderFrame host engine observed sound (.indexed view)

theorem Engine.redraws_calls (host : Host) :
    (Engine.calls host).Redraws (·.renderer.Sound host) (·.renderer.Forgotten) where
  valid_reset := fun sound => sound.reset
  valid_present := fun sound input handed => (Engine.redraws_present sound input handed).sound
  forgotten_reset := fun _ => Renderer.forgotten_reset _
  full_present := fun sound forgotten input handed =>
    (Engine.redraws_present sound input handed).full forgotten
  forgotten_present := fun sound forgotten input handed =>
    (Engine.redraws_present sound input handed).forgotten forgotten

namespace System

variable {host : Host} {start final : System Engine} {labels : List (Label TerminalGeometry)}

/-- In every run, whatever the rate limit: each frame handed over after an `invalidate()`
has a reset between them that began after the request, and the first one presented is
redrawn in full, if and only if no rate limit ends with a reset requested. -/
theorem reset_first_iff (started : Started start) (initialized : start.device.Initialized host)
    (run : Transition.Run (step (Engine.calls host)) start labels final) :
    (Everywhere ResetBefore final.log ∧ Everywhere RedrawnSince final.log) ↔
      ∀ before label after state, labels = before ++ label :: after →
        Transition.Run (step (Engine.calls host)) start before state → Unasked label state := by
  constructor
  · rintro ⟨everywhere, -⟩ before label after state split head
    exact unasked_of_resetBefore started run everywhere split head
  · intro unasked
    have before := resetBefore_of_run started run unasked
    have redrawn := redrawn_of_run (Engine.redraws_calls host) started initialized.sound run
    exact ⟨before, redrawnSince_of_resetBefore (ordered_of_run started run) redrawn before⟩

/-! ### A rate limit -/

/-- A Presenter with the given rate limit on a sink that takes everything. -/
def limited (rate : FloatValue) : System Engine where
  presenter :=
    (({} : Presenter).endShutdown.initializeWith { maximumFramesPerSecond := rate } {} {}).1
  device :=
    { options := { customOutput := true }
      renderer := Renderer.create Host.plain {} {} { responses := fun _ => true } }

theorem started_limited : Started (limited (.finite 60)) :=
  .intro {} { maximumFramesPerSecond := .finite 60 } _ (by decide +kernel)

theorem initialized_limited (rate : FloatValue) :
    (limited rate).device.Initialized Host.plain :=
  .intro
    { options := { customOutput := true }
      renderer := Renderer.create Host.plain {} {} { responses := fun _ => true } }
    {} ⟨by decide, by decide⟩ {} { responses := fun _ => true }

/-- A reset is asked for and executed, then a frame is presented. -/
def askedInTime : List (Label TerminalGeometry) :=
  [.invalidate, .wake, .reset, .submit {} (twoPixels 1), .wake, .elapsed, .render {}, .finish]

def afterAskedInTime : System Engine :=
  (Transition.exec (step (Engine.calls Host.plain)) askedInTime (limited (.finite 60))).get
    (by decide +kernel)

theorem run_askedInTime :
    Transition.Run (step (Engine.calls Host.plain)) (limited (.finite 60)) askedInTime
      afterAskedInTime :=
  Transition.run_iff_exec.mpr (Option.some_get _).symm

theorem unasked_askedInTime {before after : List (Label TerminalGeometry)}
    {label : Label TerminalGeometry} {state : System Engine}
    (split : askedInTime = before ++ label :: after)
    (head : Transition.Run (step (Engine.calls Host.plain)) (limited (.finite 60)) before state) :
    Unasked label state := by
  rintro rfl -
  have spot : askedInTime[before.length]? = some .elapsed := by
    rw [split, List.getElem?_append_right (Nat.le_refl _), Nat.sub_self]
    rfl
  have length : before.length = 5 := by
    clear split
    generalize before.length = index at spot
    rcases index with _ | _ | _ | _ | _ | _ | _ | _ | index <;> simp_all [askedInTime]
  have fifth : before = askedInTime.take 5 := by
    rw [split, ← length, List.take_left]
  rw [fifth, Transition.run_iff_exec] at head
  have settled : (Transition.exec (step (Engine.calls Host.plain)) (askedInTime.take 5)
      (limited (.finite 60))).all (!·.presenter.resetRequested) = true := by decide +kernel
  rw [head] at settled
  simpa using settled

theorem reset_first_iff_askedInTime :
    Everywhere ResetBefore afterAskedInTime.log ∧ Everywhere RedrawnSince afterAskedInTime.log :=
  (reset_first_iff started_limited (initialized_limited _) run_askedInTime).mpr
    fun _ _ _ _ split head => unasked_askedInTime split head

def askedWhileLimited : System Engine :=
  (Transition.exec (step (Engine.calls Host.plain))
    [.submit {} (twoPixels 1), .wake, .invalidate] (limited (.finite 60))).get (by decide +kernel)

def handedAfterLimit : System Engine :=
  (step (Engine.calls Host.plain) .elapsed askedWhileLimited).get (by decide +kernel)

/-- At 60 frames per second: the worker waits with a frame for its turn, a reset is asked
for, and the worker hands the frame over without it. -/
theorem handed_without_reset :
    Started (limited (.finite 60)) ∧
      Transition.Run (step (Engine.calls Host.plain)) (limited (.finite 60))
        [.submit {} (twoPixels 1), .wake, .invalidate, .elapsed] handedAfterLimit ∧
      ¬ Everywhere ResetBefore handedAfterLimit.log := by
  have head : Transition.Run (step (Engine.calls Host.plain)) (limited (.finite 60))
      [.submit {} (twoPixels 1), .wake, .invalidate] askedWhileLimited :=
    Transition.run_iff_exec.mpr (Option.some_get _).symm
  have last : step (Engine.calls Host.plain) .elapsed askedWhileLimited =
      some handedAfterLimit := (Option.some_get _).symm
  refine ⟨started_limited, head.snoc last, ?_⟩
  exact not_resetBefore_of_elapsed (ordered_of_run started_limited head) last
    (by decide +kernel) (by decide +kernel)

end System

end Rasterm
