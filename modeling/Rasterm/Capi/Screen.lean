import Rasterm.Capi.Mixing
import Rasterm.Presenter.Screen

/-!
Contract: from a submission of the C interface to the screen.

Owns the frame a C caller means, the simulation of the accepted calls by the submissions that
the Presenter accepts, as long as no call's lists are copied over before it submits, and what
the screen shows for them.

Does not own frames whose lists were copied over, colour conversion and persistent registers.
-/

set_option autoImplicit false

universe u v

namespace Rasterm.Capi

open History ScreenEvent
open Rasterm (System)

/-! ### What a caller means -/

/-- The metadata, damage aside. -/
def RastermFrameMetadata.undamaged (metadata : RastermFrameMetadata) : FrameMetadata where
  frameId := metadata.frameId
  timestampNanoseconds := metadata.timestampNanoseconds
  color := Capi.color metadata.color
  sourceColor := Capi.color metadata.sourceColor

/-- The damage as the caller's pointer and count denote it. -/
def RastermFrameMetadata.damage (metadata : RastermFrameMetadata) : DamageView where
  rectangles := metadata.damageRects
  count := metadata.damageCount
  supplied := metadata.damageSupplied != 0

/-- The frame as the call passes it, without the handle's vectors. -/
def CallFrame.frame : CallFrame → Frame
  | packed frame =>
      .packed
        { data := frame.data
          width := frame.width
          height := frame.height
          stride := frame.stride
          format := pixelFormat frame.format
          metadata := { frame.metadata.undamaged with damage := frame.metadata.damage } }
  | indexed frame =>
      .indexed
        { indices := frame.indices
          width := frame.width
          height := frame.height
          stride := frame.stride
          palette := PaletteView.ofList frame.colors
          metadata := { frame.metadata.undamaged with damage := frame.metadata.damage } }

theorem CallFrame.damage_frame (frame : CallFrame) :
    frame.frame.metadata.damage = frame.metadata.damage := by
  cases frame with
  | packed frame => rfl
  | indexed frame => rfl

theorem CallFrame.rects_frame (frame : CallFrame) :
    frame.frame.metadata.damage.rects = frame.rects := by
  rw [frame.damage_frame]
  rfl

/-- The calls accepted so far, newest first. -/
def acceptedFrames : List Entry → List CallFrame
  | [] => []
  | .accepted _ frame _ _ :: older => frame :: acceptedFrames older
  | _ :: older => acceptedFrames older

/-- The submission is the frame of a call that passed the checks, its damage kept elsewhere. -/
structure Means (frame : CallFrame) (submission : Submission) : Prop where
  checked : validMetadata frame.metadata = true
  passed : ∃ damage : DamageView, submission.frame = frame.frame.withDamage damage ∧
    damage.supplied = frame.frame.metadata.damage.supplied ∧
    damage.rects = frame.frame.metadata.damage.rects

/-! ### What a call has staged besides its lists -/

/-- Metadata that passed the check, converted. -/
structure Converted (frame : CallFrame) (staged : StagedMetadata) : Prop where
  valid : validMetadata frame.metadata = true
  metadata : staged.metadata = frame.metadata.undamaged

section Begin

variable {Device : Type u} {handle : RastermPresenter Device} {frame : CallFrame}
  {staged : StagedMetadata}

theorem converted_begin {full : Bool} {begun : CallFrame}
    (held : (begin handle full begun).2.staged = some (frame, staged)) :
    Converted frame staged := by
  unfold begin at held
  unfold copyMetadata at held
  split_ifs at held with invalid failed
  · cases held
  · cases held
  · obtain ⟨rfl, rfl⟩ := Prod.mk.inj (Option.some.inj held)
    exact ⟨by simpa using invalid, rfl⟩

/-- With the lists of its own call in the vectors, the Presenter is passed the frame that the
caller means. -/
theorem means_of_ready {stray : Nat → DamageRect} {stage : Stage} {passed : Submission}
    (ready : submission handle stray stage = some (frame, passed))
    (held : stage.staged = some (frame, staged)) (converted : Converted frame staged)
    (supplied : staged.supplied = (frame.metadata.damageSupplied != 0))
    (palette : ∀ view, frame = .indexed view → handle.palette.elements = view.colors)
    (rects : (staged.view handle.damage stray).damage.rects = frame.rects) :
    Means frame passed := by
  refine ⟨converted.valid, (staged.view handle.damage stray).damage, ?_, ?_, ?_⟩
  · have metadata := converted.metadata
    cases stage with
    | damageCopied copied other =>
        cases copied with
        | packed view =>
            obtain ⟨rfl, rfl⟩ := Prod.mk.inj (Option.some.inj ready)
            obtain ⟨-, rfl⟩ := Prod.mk.inj (Option.some.inj held)
            simp only [CallFrame.frame, Frame.withDamage, StagedMetadata.view, metadata]
            rfl
        | indexed view => cases ready
    | paletteCopied view other =>
        obtain ⟨rfl, rfl⟩ := Prod.mk.inj (Option.some.inj ready)
        obtain ⟨-, rfl⟩ := Prod.mk.inj (Option.some.inj held)
        simp only [CallFrame.frame, Frame.withDamage, StagedMetadata.view, metadata,
          palette view rfl]
        rfl
    | submitted copied accepted => cases ready
    | returned answer => cases ready
  · rw [frame.damage_frame]
    exact supplied
  · rw [rects, frame.rects_frame]

end Begin

/-! ### The simulation -/

/-- Until an accepted call submitted, no other call has copied its lists over those of the call. -/
def Undisturbed (entry : Entry) (older : List Entry) : Prop :=
  PaletteKept entry older ∧ DamageKept entry older

section Presenter

variable {Device : Type u} {Input : Type v} {calls : EngineCalls Device Input}
  {system after : System Device}

/-- Only a submission puts something into the mailbox. -/
theorem puts_of_step {label : Rasterm.Label Input} (taken : system.step calls label = some after)
    (other : ∀ heap submission, label ≠ .submit heap submission) :
    Mailbox.puts (mailboxHistory after.log) = Mailbox.puts (mailboxHistory system.log) := by
  have move := System.move_of_step label taken
  cases move with
  | accepted entered accepted => exact absurd rfl (other _ _)
  | interrupted failed interrupted => exact absurd rfl (other _ _)
  | noted noted => rfl
  | emitted found => rfl
  | invalidated running going => rfl
  | waits running going => rfl
  | drained => rfl
  | refusedShutdown inside => rfl
  | cancelled outside running occupied => rfl
  | stopped outside running empty => rfl
  | stoppedAgain outside gone => rfl
  | joined exited asked => rfl
  | exited sleeping stopping => rfl
  | resetStarted sleeping going requested => rfl
  | limited sleeping going fresh occupied => rfl
  | handed sleeping going fresh occupied => rfl
  | handedLate sleeping going => rfl
  | reset resetting => rfl
  | rendered rendering => rfl
  | finished rendered => rfl

theorem puts_of_submit {heap : Heap} {passed : Submission}
    (taken : system.step calls (.submit heap passed) = some after) :
    Mailbox.puts (mailboxHistory after.log) =
      if (system.presenter.submit heap passed).2.isAccepted then
        passed :: Mailbox.puts (mailboxHistory system.log)
      else Mailbox.puts (mailboxHistory system.log) := by
  simp only [System.step] at taken
  split at taken
  · rename_i dropped answered
    rw [← Option.some.inj taken, answered]
    rfl
  · rename_i refused
    have unaccepted : (system.presenter.submit heap passed).2.isAccepted = false := by
      cases answer : (system.presenter.submit heap passed).2 with
      | accepted dropped => exact absurd answer (refused dropped)
      | _ => rfl
    rw [← Option.some.inj taken, unaccepted]
    rfl

end Presenter

namespace Threads

variable {Device : Type u} {Input : Type v} {calls : EngineCalls Device Input}
  {threads next : Threads Device} {label : Label Input}

/-- Every call past its first copy carries checked and converted metadata. -/
def AllConverted (threads : Threads Device) : Prop :=
  ∀ (call : Nat) (stage : Stage) (frame : CallFrame) (staged : StagedMetadata),
    threads.calls[call]? = some stage → stage.staged = some (frame, staged) →
      Converted frame staged

theorem allConverted_step (taken : step calls label threads = some next)
    (converted : threads.AllConverted) : next.AllConverted := by
  cases label with
  | copyDamage request full =>
      simp only [step] at taken
      split at taken
      · rename_i answer refused
        rw [← Option.some.inj taken]
        intro call stage frame staged found held
        rcases found_append found with found | ⟨-, rfl⟩
        · exact converted call stage frame staged found held
        · cases held
      · rename_i begun passed
        rw [← Option.some.inj taken]
        intro call stage frame staged found held
        rcases found_append found with found | ⟨-, rfl⟩
        · exact converted call stage frame staged found held
        · exact converted_begin held
  | copyPalette moved full =>
      simp only [step] at taken
      split at taken
      · rename_i copied staging reached
        rw [← Option.some.inj taken]
        intro call stage frame staged found held
        rcases found_set found with found | ⟨-, rfl⟩
        · exact converted call stage frame staged found held
        · split_ifs at held
          · exact converted moved _ frame staged reached held
          · cases held
      · cases taken
  | submit moved heap stray =>
      simp only [step] at taken
      split at taken
      · obtain ⟨after, -, same⟩ := Option.map_eq_some_iff.mp taken
        rw [← same]
        intro call stage frame staged found held
        rcases found_set found with found | ⟨-, rfl⟩
        · exact converted call stage frame staged found held
        · cases held
      · cases taken
  | conclude moved =>
      simp only [step] at taken
      split at taken
      · rw [← Option.some.inj taken]
        intro call stage frame staged found held
        rcases found_set found with found | ⟨-, rfl⟩
        · exact converted call stage frame staged found held
        · cases held
      · cases taken
  | present label =>
      cases label with
      | submit heap submission => cases taken
      | _ =>
          simp only [step] at taken
          obtain ⟨after, -, same⟩ := Option.map_eq_some_iff.mp taken
          rw [← same]
          exact converted

/-- The accepted calls and the accepted submissions, one for one. -/
def Simulates (threads : Threads Device) : Prop :=
  Everywhere Undisturbed threads.log →
    List.Forall₂ Means (acceptedFrames threads.log)
      (Mailbox.puts (mailboxHistory threads.handle.presenter.log))

theorem simulates_submit {call : Nat} {heap : Heap} {stray : Nat → DamageRect}
    (staged : threads.Staged) (converted : threads.AllConverted)
    (taken : step calls (.submit call heap stray) threads = some next)
    (simulates : threads.Simulates) : next.Simulates := by
  simp only [step] at taken
  split at taken
  · rename_i frame passed ready
    obtain ⟨stage, found, ready⟩ := Option.bind_eq_some_iff.mp ready
    obtain ⟨after, submitted, same⟩ := Option.map_eq_some_iff.mp taken
    have puts := puts_of_submit submitted
    by_cases returned :
        (threads.handle.presenter.presenter.submit heap passed).2.isAccepted = true
    · rw [if_pos returned] at puts
      rw [if_pos returned] at same
      rw [← same]
      intro undisturbed
      obtain ⟨⟨paletteKept, damageKept⟩, earlier⟩ := everywhere_cons.mp undisturbed
      dsimp only
      rw [puts]
      refine .cons ?_ (simulates earlier)
      obtain ⟨staging, held, -, -⟩ := staged_of_ready ready
      have kept := staged.damage call stage frame staging found held
      apply means_of_ready ready held (converted call stage frame staging found held)
        kept.supplied
      · intro view indexed
        rw [indexed] at paletteKept
        rw [staged.palette]
        exact paletteKept
      · apply rects_view kept.count stray
        rcases damageKept with empty | only
        · exact Or.inl empty
        · obtain ⟨since, earlier, split, holds⟩ := kept.since
          exact Or.inr (holds (only since earlier split))
    · rw [if_neg returned] at puts
      rw [if_neg returned] at same
      rw [← same]
      intro undisturbed
      dsimp only
      rw [puts]
      exact simulates undisturbed
  · cases taken

theorem simulates_step (staged : threads.Staged) (converted : threads.AllConverted)
    (taken : step calls label threads = some next) (simulates : threads.Simulates) :
    next.Simulates := by
  cases label with
  | copyDamage request full =>
      simp only [step] at taken
      split at taken
      · rw [← Option.some.inj taken]
        exact simulates
      · rename_i frame passed
        rw [← Option.some.inj taken]
        intro undisturbed
        dsimp only at undisturbed ⊢
        split_ifs at undisturbed ⊢
        · exact simulates (everywhere_cons.mp undisturbed).2
        · exact simulates undisturbed
  | copyPalette call full =>
      simp only [step] at taken
      split at taken
      · rw [← Option.some.inj taken]
        exact fun undisturbed => simulates (everywhere_cons.mp undisturbed).2
      · cases taken
  | submit call heap stray => exact simulates_submit staged converted taken simulates
  | conclude call =>
      simp only [step] at taken
      split at taken
      · rename_i frame accepted found
        rw [← Option.some.inj taken]
        cases accepted with
        | false => exact simulates
        | true => exact simulates
      · cases taken
  | present label =>
      cases label with
      | submit heap submission => cases taken
      | _ =>
          simp only [step] at taken
          obtain ⟨after, stepped, same⟩ := Option.map_eq_some_iff.mp taken
          have puts := puts_of_step stepped (by simp)
          rw [← same]
          intro undisturbed
          dsimp only
          rw [puts]
          exact simulates undisturbed

end Threads

/-! ### Promises -/

section Promises

variable {host : Host} {options : SixelOptions} {settings : ColorOptions}

/-- Damage supplied with a frame covers what changed since the frame before it. -/
def TrueDamage (look : Texel → Sixel.Percent) (frame : Frame) (older : List Frame) : Prop :=
  frame.metadata.damage.supplied = true → ∀ previous ∈ older.head?,
    CoversChanges look frame.metadata.damage.rects previous frame

/-- What is promised of the calls accepted so far: their lists were not copied over, their damage
is true, and their frames need no conversion. -/
structure Promised (host : Host) (options : SixelOptions) (settings : ColorOptions)
    (log : List Entry) : Prop where
  undisturbed : Everywhere Undisturbed log
  truly : Everywhere (TrueDamage (texelColor host options))
    ((acceptedFrames log).map CallFrame.frame)
  plain : ∀ frame ∈ acceptedFrames log, Plain options frame.frame
  kept : ∀ frame ∈ acceptedFrames log, frame.frame.isIndexed = false →
    ColorConverter.bypasses settings frame.frame.metadata.color = true

end Promises

/-! ### Runs -/

/-- No allocation of the Presenter fails; those of the handle's vectors may. -/
def Label.Serves {Input : Type v} : Label Input → Prop
  | .submit _ heap _ => ∀ allocation, heap.fails allocation = false
  | _ => True

namespace Threads

section Presenter

variable {Device : Type u} {Input : Type v} {calls : EngineCalls Device Input}
  {threads next : Threads Device} {label : Label Input}

/-- A step leaves the Presenter as it is, or is a step of the Presenter. -/
theorem presenter_step (taken : step calls label threads = some next) (served : label.Serves) :
    next.handle.presenter = threads.handle.presenter ∨
      ∃ inner : Rasterm.Label Input, inner.Serves ∧
        threads.handle.presenter.step calls inner = some next.handle.presenter := by
  cases label with
  | copyDamage request full =>
      left
      simp only [step] at taken
      split at taken
      · rw [← Option.some.inj taken]
      · rw [← Option.some.inj taken]
        rfl
  | copyPalette call full =>
      left
      simp only [step] at taken
      split at taken
      · rw [← Option.some.inj taken]
      · cases taken
  | submit call heap stray =>
      right
      simp only [step] at taken
      split at taken
      · rename_i frame passed ready
        obtain ⟨after, submitted, same⟩ := Option.map_eq_some_iff.mp taken
        rw [← same]
        exact ⟨.submit heap passed, served, submitted⟩
      · cases taken
  | conclude call =>
      left
      simp only [step] at taken
      split at taken
      · rename_i frame accepted found
        rw [← Option.some.inj taken]
        cases accepted with
        | false => rfl
        | true => rfl
      · cases taken
  | present label =>
      right
      cases label with
      | submit heap submission => cases taken
      | _ =>
          simp only [step] at taken
          obtain ⟨after, stepped, same⟩ := Option.map_eq_some_iff.mp taken
          rw [← same]
          refine ⟨_, ?_, stepped⟩
          exact trivial

end Presenter

variable {host : Host} {options : RendererOptions} {begun : Screen}
  {final : Threads Engine} {labels : List (Label TerminalGeometry)}

/-- The invariant of every run without failing allocations of the Presenter. -/
structure Sound (host : Host) (options : RendererOptions) (begun : Screen)
    (settings : EngineOptions) (threads : Threads Engine) : Prop where
  staged : threads.Staged
  converted : threads.AllConverted
  simulates : threads.Simulates
  keeps : threads.handle.presenter.Keeps host options begun settings

theorem sound_of_run {sink : OutputSink} {scratch : Scratch} {engine : Engine}
    {start : System Engine} {lastError : String} (positive : options.cellPixels.Positive)
    (tracks : options.enableDirtyRegions = true)
    (persists : options.sixel.persistPaletteRegisters = false) (started : System.Started start)
    (device : start.device =
      { engine with renderer := Renderer.create host options scratch sink })
    (served : ∀ label ∈ labels, label.Serves)
    (run : Transition.Run (step (Engine.calls host)) (opened start lastError) labels final)
    (sameCells : begun.cells = options.cellPixels) :
    Sound host options begun engine.options final := by
  apply run.invariant_of_labels _ served
  · have empty := System.log_start started
    refine ⟨staged_opened start lastError, (fun _ _ _ _ found => by cases found), fun _ => ?_,
      System.keeps_start started positive tracks sameCells device⟩
    change List.Forall₂ Means [] (Mailbox.puts (mailboxHistory start.log))
    rw [empty]
    exact .nil
  · intro label threads next taken serves sound
    refine ⟨staged_move (move_of_step label taken) sound.staged,
      allConverted_step taken sound.converted,
      simulates_step sound.staged sound.converted taken sound.simulates, ?_⟩
    rcases presenter_step taken serves with same | ⟨inner, innerServes, stepped⟩
    · rw [same]
      exact sound.keeps
    · exact System.keeps_step persists innerServes stepped sound.keeps

end Threads

end Rasterm.Capi
