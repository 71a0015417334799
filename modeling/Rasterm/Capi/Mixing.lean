import Rasterm.Capi.Presenter

/-!
Contract: what the frames of concurrent C submissions carry. The staging vectors belong to
the handle, so a frame carries the lists that were copied last, by whichever call.

Owns everything a step can do to the vectors, the calls and the log, the invariant that
ties a staged call to what was copied since, and the condition under which an accepted
frame carries the lists of its own call.

Does not own what the Presenter makes of a submission.
-/

set_option autoImplicit false

universe u v

namespace Rasterm.Capi

open History
open Rasterm (System)

/-! ### What is asked -/

/-- The palette copied last, by any call. -/
def newestPalette : List Entry → List RgbColor
  | [] => []
  | .paletteCopied _ colors :: _ => colors
  | _ :: older => newestPalette older

/-- Nothing but this list has been copied as damage. -/
def OnlyRects (rects : List DamageRect) (since : List Entry) : Prop :=
  ∀ call other, .damageCopied call other ∈ since → other = rects

/-- The palette copied last is that of the call. -/
def PaletteKept (entry : Entry) (older : List Entry) : Prop :=
  match entry with
  | .accepted _ (.indexed frame) _ _ => newestPalette older = frame.colors
  | _ => True

/-- Since the call copied its damage, no other list of rectangles has been copied; an
empty list cannot be overwritten. -/
def DamageKept (entry : Entry) (older : List Entry) : Prop :=
  match entry with
  | .accepted call frame _ _ =>
      frame.rects = [] ∨
        ∀ since earlier, older = since ++ .damageCopied call frame.rects :: earlier →
          OnlyRects frame.rects since
  | _ => True

/-- The frame that waits has the palette of the call. -/
def CarriesPalette (entry : Entry) : Prop :=
  match entry with
  | .accepted _ frame _ after => after.consume.2.frame.paletteEntries = frame.colors
  | _ => True

/-- The frame that waits has the damage of the call, behind that of the frame it replaces
if damage is kept over the replacement. -/
def CarriesDamage (entry : Entry) : Prop :=
  match entry with
  | .accepted _ frame before after =>
      let carried := after.consume.2.frame.metadata.damage
      (before.waiting = false → carried.supplied = (frame.metadata.damageSupplied != 0)) ∧
        (carried.supplied = true → carried.rects =
          (if before.waiting then before.consume.2.frame.metadata.damage.rects else []) ++
            frame.rects)
  | _ => True

instance (entry : Entry) : Decidable (CarriesPalette entry) := by
  unfold CarriesPalette
  split <;> infer_instance

/-! ### What a step can do -/

/-- What a call past its first copy has staged. -/
def Stage.staged : Stage → Option (CallFrame × StagedMetadata)
  | damageCopied frame staged => some (frame, staged)
  | paletteCopied frame staged => some (.indexed frame, staged)
  | _ => none

namespace Threads

variable {Device : Type u} {Input : Type v}

inductive Move (calls : EngineCalls Device Input) (threads : Threads Device) :
    Label Input → Threads Device → Prop where
  /-- The call ends before it copies anything. -/
  | refused {request : Request} {full : Bool} (answer : Answer) :
      Move calls threads (.copyDamage request full)
        { threads with calls := threads.calls ++ [.returned answer] }
  | damageCopied {request : Request} {full : Bool} {frame : CallFrame} {staged : StagedMetadata}
      (storage : staged.storage = (threads.handle.damage.fill frame.rects).storage)
      (count : staged.count = frame.rects.length)
      (supplied : staged.supplied = (frame.metadata.damageSupplied != 0)) :
      Move calls threads (.copyDamage request full)
        { handle := { threads.handle with damage := threads.handle.damage.fill frame.rects }
          calls := threads.calls ++ [.damageCopied frame staged]
          log := .damageCopied threads.calls.length frame.rects :: threads.log }
  | damageCleared {request : Request} {full : Bool} (answer : Answer) :
      Move calls threads (.copyDamage request full)
        { handle := { threads.handle with damage := threads.handle.damage.clear }
          calls := threads.calls ++ [.returned answer]
          log := .damageCopied threads.calls.length [] :: threads.log }
  | paletteCopied {call : Nat} {full : Bool} {frame : RastermIndexedFrame}
      {staged : StagedMetadata}
      (found : threads.calls[call]? = some (.damageCopied (.indexed frame) staged)) :
      Move calls threads (.copyPalette call full)
        { handle := { threads.handle with palette := threads.handle.palette.fill frame.colors }
          calls := threads.calls.set call (.paletteCopied frame staged)
          log := .paletteCopied call frame.colors :: threads.log }
  | paletteCleared {call : Nat} {full : Bool} (answer : Answer) :
      Move calls threads (.copyPalette call full)
        { handle := { threads.handle with palette := threads.handle.palette.clear }
          calls := threads.calls.set call (.returned answer)
          log := .paletteCopied call [] :: threads.log }
  | accepted {call : Nat} {heap : Heap} {stray : Nat → DamageRect} {stage : Stage}
      {frame : CallFrame} {passed : Submission} {next : System Device}
      (found : threads.calls[call]? = some stage)
      (ready : submission threads.handle stray stage = some (frame, passed))
      (accepted : threads.handle.presenter.presenter.Accepted passed next.presenter) :
      Move calls threads (.submit call heap stray)
        { handle := { threads.handle with presenter := next }
          calls := threads.calls.set call (.submitted frame true)
          log :=
            .accepted call frame threads.handle.presenter.presenter next.presenter ::
              threads.log }
  | unaccepted {call : Nat} {heap : Heap} {stray : Nat → DamageRect} {frame : CallFrame}
      {next : System Device} :
      Move calls threads (.submit call heap stray)
        { threads with
          handle.presenter := next
          calls := threads.calls.set call (.submitted frame false) }
  | concluded {call : Nat} (answer : Answer) (lastError : String) :
      Move calls threads (.conclude call)
        { threads with
          handle.lastError := lastError
          calls := threads.calls.set call (.returned answer) }
  | presented {label : Rasterm.Label Input} {next : System Device} :
      Move calls threads (.present label) { threads with handle.presenter := next }

variable {calls : EngineCalls Device Input} {threads next : Threads Device} {label : Label Input}

theorem presenter_submit {system after : System Device} {heap : Heap} {passed : Submission}
    (taken : system.step calls (.submit heap passed) = some after) :
    after.presenter = (system.presenter.submit heap passed).1 := by
  simp only [System.step] at taken
  split at taken <;> rw [← Option.some.inj taken]

theorem move_copyDamage {request : Request} {full : Bool}
    (taken : step calls (.copyDamage request full) threads = some next) :
    Move calls threads (.copyDamage request full) next := by
  simp only [step] at taken
  split at taken
  · rename_i answer refused
    rw [← Option.some.inj taken]
    exact .refused answer
  · rename_i frame passed
    rw [← Option.some.inj taken]
    by_cases valid : validMetadata frame.metadata = true
    · rw [if_pos valid]
      by_cases failed : (full && !threads.handle.damage.hasRoom frame.metadata.damageCount) = true
      · have copied : copyMetadata threads.handle.damage full frame.metadata =
            (threads.handle.damage.clear, .threw) := by
          rw [copyMetadata, if_neg (by simp [valid]), if_pos failed]
        rw [begin, copied]
        exact .damageCleared frame.outOfMemory
      · have copied : copyMetadata threads.handle.damage full frame.metadata =
            (threads.handle.damage.fill frame.rects,
              .copied (.filled (threads.handle.damage.fill frame.rects) frame.metadata)) := by
          rw [copyMetadata, if_neg (by simp [valid]), if_neg failed]
          rfl
        rw [begin, copied]
        exact .damageCopied rfl rfl rfl
    · have copied : copyMetadata threads.handle.damage full frame.metadata =
          (threads.handle.damage, .refused) := by
        rw [copyMetadata, if_pos (by simp [valid])]
      rw [if_neg valid, begin, copied]
      exact .refused frame.invalidMetadata

theorem move_copyPalette {call : Nat} {full : Bool}
    (taken : step calls (.copyPalette call full) threads = some next) :
    Move calls threads (.copyPalette call full) next := by
  simp only [step] at taken
  split at taken
  · rename_i frame staged found
    rw [← Option.some.inj taken]
    by_cases failed : (full && !threads.handle.palette.hasRoom frame.paletteSize) = true
    · rw [copyPalette, if_pos failed]
      exact .paletteCleared (CallFrame.indexed frame).outOfMemory
    · rw [copyPalette, if_neg failed]
      exact .paletteCopied found
  · cases taken

theorem move_submit {call : Nat} {heap : Heap} {stray : Nat → DamageRect}
    (taken : step calls (.submit call heap stray) threads = some next) :
    Move calls threads (.submit call heap stray) next := by
  simp only [step] at taken
  split at taken
  · rename_i frame passed ready
    obtain ⟨stage, found, ready⟩ := Option.bind_eq_some_iff.mp ready
    obtain ⟨after, submitted, same⟩ := Option.map_eq_some_iff.mp taken
    rw [← same]
    have left := presenter_submit submitted
    by_cases returned :
        (threads.handle.presenter.presenter.submit heap passed).2.isAccepted = true
    · have accepted := Presenter.accepted_of_isAccepted returned
      rw [← left] at accepted
      rw [returned]
      exact .accepted found ready accepted
    · rw [Bool.not_eq_true] at returned
      rw [returned]
      exact .unaccepted
  · cases taken

theorem move_of_step (label : Label Input) (taken : step calls label threads = some next) :
    Move calls threads label next := by
  cases label with
  | copyDamage request full => exact move_copyDamage taken
  | copyPalette call full => exact move_copyPalette taken
  | submit call heap stray => exact move_submit taken
  | conclude call =>
      simp only [step] at taken
      split at taken
      · rename_i frame accepted found
        rw [← Option.some.inj taken]
        cases accepted with
        | false => exact .concluded _ _
        | true => exact .concluded _ _
      · cases taken
  | present label =>
      cases label with
      | submit heap submission => cases taken
      | _ =>
          simp only [step] at taken
          obtain ⟨after, -, same⟩ := Option.map_eq_some_iff.mp taken
          rw [← same]
          exact .presented

/-! ### What the vectors hold -/

/-- What a call has staged, in view of what the calls have copied since. -/
structure Kept (damage : Staging DamageRect) (log : List Entry) (call : Nat) (frame : CallFrame)
    (staged : StagedMetadata) : Prop where
  count : staged.count = frame.rects.length
  supplied : staged.supplied = (frame.metadata.damageSupplied != 0)
  since : ∃ since earlier, log = since ++ .damageCopied call frame.rects :: earlier ∧
    (OnlyRects frame.rects since → damage.Holds staged.storage frame.rects)

variable {damage after : Staging DamageRect} {log : List Entry} {call : Nat} {frame : CallFrame}
  {staged : StagedMetadata}

/-- Only another list of rectangles disturbs it. -/
theorem Kept.cons (kept : Kept damage log call frame staged) (entry : Entry)
    (holds : OnlyRects frame.rects [entry] → damage.Holds staged.storage frame.rects →
      after.Holds staged.storage frame.rects) : Kept after (entry :: log) call frame staged := by
  obtain ⟨since, earlier, split, held⟩ := kept.since
  refine ⟨kept.count, kept.supplied, entry :: since, earlier, ?_, ?_⟩
  · rw [split, List.cons_append]
  · intro only
    apply holds
    · intro other rects member
      rw [List.mem_singleton] at member
      exact only other rects (member ▸ List.mem_cons_self)
    · exact held fun other rects member => only other rects (List.mem_cons_of_mem entry member)

/-- The vectors, and what every call has staged in them. -/
structure Staged (threads : Threads Device) : Prop where
  palette : threads.handle.palette.elements = newestPalette threads.log
  damage : ∀ call stage frame staged, threads.calls[call]? = some stage →
    stage.staged = some (frame, staged) →
      Kept threads.handle.damage threads.log call frame staged

theorem staged_opened (presenter : System Device) (lastError : String) :
    (opened presenter lastError).Staged where
  palette := rfl
  damage := fun _ _ _ _ found _ => by cases found

/-- The calls after a new one. -/
theorem found_append {stages : List Stage} {begun stage : Stage} {call : Nat}
    (found : (stages ++ [begun])[call]? = some stage) :
    stages[call]? = some stage ∨ call = stages.length ∧ stage = begun := by
  rcases Nat.lt_or_ge call stages.length with inside | outside
  · rw [List.getElem?_append_left inside] at found
    exact Or.inl found
  · rw [List.getElem?_append_right outside, List.getElem?_singleton] at found
    split_ifs at found with last
    exact Or.inr ⟨by omega, (Option.some.inj found).symm⟩

/-- The calls after one of them got on. -/
theorem found_set {stages : List Stage} {reached stage : Stage} {moved call : Nat}
    (found : (stages.set moved reached)[call]? = some stage) :
    stages[call]? = some stage ∨ call = moved ∧ stage = reached := by
  by_cases same : moved = call
  · rw [List.getElem?_set, if_pos same] at found
    split_ifs at found
    exact Or.inr ⟨same.symm, (Option.some.inj found).symm⟩
  · rw [List.getElem?_set_ne same] at found
    exact Or.inl found

theorem holds_of_onlyRects {call : Nat} {rects other : List DamageRect} {storage : Nat}
    (only : OnlyRects rects [.damageCopied call other]) (holds : damage.Holds storage rects) :
    (damage.fill other).Holds storage rects := by
  rw [only call other List.mem_cons_self]
  exact holds.fill

theorem staged_move (move : Move calls threads label next) (staged : threads.Staged) :
    next.Staged := by
  have palette := staged.palette
  have earlier := staged.damage
  cases move with
  | refused answer =>
      refine ⟨palette, fun call stage frame metadata found held => ?_⟩
      rcases found_append found with found | ⟨-, rfl⟩
      · exact earlier call stage frame metadata found held
      · cases held
  | @damageCopied request full begun staging storage count supplied =>
      refine ⟨palette, fun call stage frame metadata found held => ?_⟩
      rcases found_append found with found | ⟨rfl, rfl⟩
      · exact (earlier call stage frame metadata found held).cons _ holds_of_onlyRects
      · obtain ⟨rfl, rfl⟩ := Prod.mk.inj (Option.some.inj held)
        refine ⟨count, supplied, [], threads.log, rfl, fun _ => ?_⟩
        rw [storage]
        exact threads.handle.damage.holds_fill _
  | damageCleared answer =>
      refine ⟨palette, fun call stage frame metadata found held => ?_⟩
      rcases found_append found with found | ⟨-, rfl⟩
      · apply (earlier call stage frame metadata found held).cons
        intro only holds
        have empty := only _ _ List.mem_cons_self
        exact ⟨holds.1, empty⟩
      · cases held
  | @paletteCopied moved full copied staging found =>
      refine ⟨rfl, fun call stage frame metadata found' held => ?_⟩
      rcases found_set found' with found' | ⟨rfl, rfl⟩
      · exact (earlier call stage frame metadata found' held).cons _ fun _ holds => holds
      · exact (earlier call _ frame metadata found held).cons _ fun _ holds => holds
  | paletteCleared answer =>
      refine ⟨rfl, fun call stage frame metadata found held => ?_⟩
      rcases found_set found with found | ⟨-, rfl⟩
      · exact (earlier call stage frame metadata found held).cons _ fun _ holds => holds
      · cases held
  | accepted found ready accepted =>
      refine ⟨palette, fun call stage frame metadata found held => ?_⟩
      rcases found_set found with found | ⟨-, rfl⟩
      · exact (earlier call stage frame metadata found held).cons _ fun _ holds => holds
      · cases held
  | unaccepted =>
      refine ⟨palette, fun call stage frame metadata found held => ?_⟩
      rcases found_set found with found | ⟨-, rfl⟩
      · exact earlier call stage frame metadata found held
      · cases held
  | concluded answer lastError =>
      refine ⟨palette, fun call stage frame metadata found held => ?_⟩
      rcases found_set found with found | ⟨-, rfl⟩
      · exact earlier call stage frame metadata found held
      · cases held
  | presented => exact ⟨palette, earlier⟩

/-! ### What a frame carries -/

/-- The Presenter is passed what the pointers of the call read now. -/
theorem staged_of_ready {handle : RastermPresenter Device} {stray : Nat → DamageRect}
    {stage : Stage} {passed : Submission}
    (ready : submission handle stray stage = some (frame, passed)) :
    ∃ staged, stage.staged = some (frame, staged) ∧
      passed.frame.metadata = staged.view handle.damage stray ∧
      passed.frame.paletteEntries =
        (match frame with
        | .packed _ => []
        | .indexed _ => handle.palette.elements) := by
  cases stage with
  | damageCopied copied staged =>
      cases copied with
      | packed view =>
          obtain ⟨rfl, rfl⟩ := Prod.mk.inj (Option.some.inj ready)
          exact ⟨staged, rfl, rfl, rfl⟩
      | indexed view => cases ready
  | paletteCopied view staged =>
      obtain ⟨rfl, rfl⟩ := Prod.mk.inj (Option.some.inj ready)
      exact ⟨staged, rfl, rfl, PaletteView.entries_ofList _⟩
  | submitted copied accepted => cases ready
  | returned answer => cases ready

/-- While the vector holds the list, or there is none, the call's own rectangles are read. -/
theorem rects_view (count : staged.count = frame.rects.length) (stray : Nat → DamageRect)
    (holds : frame.rects = [] ∨ damage.Holds staged.storage frame.rects) :
    (staged.view damage stray).damage.rects = frame.rects := by
  unfold StagedMetadata.view DamageView.rects
  rcases holds with empty | holds
  · rw [count, empty]
    rfl
  · by_cases none : staged.count = 0
    · rw [if_pos none]
      exact (List.length_eq_zero_iff.mp (count.symm.trans none)).symm
    · rw [if_neg none]
      simp only [count]
      exact holds.read stray

/-- What an accepted submission adds to the damage that waits. -/
theorem carriesDamage_of_accepted {before after : Presenter} {passed : Submission}
    (accepted : before.Accepted passed after)
    (supplied : passed.frame.metadata.damage.supplied = (frame.metadata.damageSupplied != 0))
    (rects : passed.frame.metadata.damage.rects = frame.rects) (call : Nat) :
    CarriesDamage (.accepted call frame before after) := by
  simp only [CarriesDamage, Presenter.damage_consume, DamageView.rects_ofList,
    DamageView.supplied_ofList]
  rw [accepted.supplied, accepted.damage]
  constructor
  · intro empty
    rw [(Presenter.damageBefore_of_empty passed empty).2, supplied]
  · intro given
    rw [Presenter.damageAfter_of_supplied given, rects]
    cases occupied : before.waiting with
    | false =>
        rw [(Presenter.damageBefore_of_empty passed occupied).1]
        rfl
    | true =>
        rw [(Presenter.damageBefore_of_waiting occupied given).1]
        rfl

/-- An accepted frame carries the palette copied last, and the damage of its call if no
other list has taken its place. -/
def Carried (entry : Entry) (older : List Entry) : Prop :=
  (CarriesPalette entry ↔ PaletteKept entry older) ∧
    (DamageKept entry older → CarriesDamage entry)

theorem carried_of_other {entry : Entry} {older : List Entry}
    (other : ∀ call frame before after, entry ≠ .accepted call frame before after) :
    Carried entry older := by
  cases entry with
  | damageCopied call rects => exact ⟨Iff.rfl, fun _ => trivial⟩
  | paletteCopied call colors => exact ⟨Iff.rfl, fun _ => trivial⟩
  | accepted call frame before after => exact absurd rfl (other call frame before after)

theorem carried_of_accepted (invariant : threads.Staged) {stage : Stage} {after : Presenter}
    {passed : Submission} {stray : Nat → DamageRect} (found : threads.calls[call]? = some stage)
    (ready : submission threads.handle stray stage = some (frame, passed))
    (accepted : threads.handle.presenter.presenter.Accepted passed after) :
    Carried (.accepted call frame threads.handle.presenter.presenter after) threads.log := by
  obtain ⟨staged, held, metadata, palette⟩ := staged_of_ready ready
  have kept := invariant.damage call stage frame staged found held
  have copied : after.consume.2.frame.paletteEntries = passed.frame.paletteEntries :=
    accepted.carried.copies.palette
  constructor
  · simp only [CarriesPalette, PaletteKept]
    rw [copied, palette]
    cases frame with
    | packed view => exact iff_of_true rfl trivial
    | indexed view =>
        simp only [invariant.palette]
        exact Iff.rfl
  · intro undisturbed
    have holds : frame.rects = [] ∨
        threads.handle.damage.Holds staged.storage frame.rects := by
      rcases undisturbed with empty | undisturbed
      · exact Or.inl empty
      · obtain ⟨since, earlier, split, held⟩ := kept.since
        exact Or.inr (held (undisturbed since earlier split))
    apply carriesDamage_of_accepted accepted
    · rw [metadata]
      exact kept.supplied
    · rw [metadata]
      exact rects_view kept.count stray holds

theorem carried_move (move : Move calls threads label next) (invariant : threads.Staged)
    (earlier : Everywhere Carried threads.log) : Everywhere Carried next.log := by
  have copies : ∀ entry : Entry, (∀ call frame before after,
      entry ≠ .accepted call frame before after) → Everywhere Carried (entry :: threads.log) :=
    fun entry other => everywhere_cons.mpr ⟨carried_of_other other, earlier⟩
  cases move with
  | refused answer => exact earlier
  | damageCopied storage count supplied => exact copies _ fun _ _ _ _ same => by cases same
  | damageCleared answer => exact copies _ fun _ _ _ _ same => by cases same
  | paletteCopied found => exact copies _ fun _ _ _ _ same => by cases same
  | paletteCleared answer => exact copies _ fun _ _ _ _ same => by cases same
  | accepted found ready accepted =>
      exact everywhere_cons.mpr ⟨carried_of_accepted invariant found ready accepted, earlier⟩
  | unaccepted => exact earlier
  | concluded answer lastError => exact earlier
  | presented => exact earlier

/-! ### Runs -/

/-- Whatever the order of the steps of any number of calls: each accepted frame carries the
palette of its call if and only if no other palette has been copied last, and its damage if
no other damage list has been copied in between. -/
theorem lists_carried {presenter : System Device} {lastError : String}
    {labels : List (Label Input)} {final : Threads Device}
    (run : Transition.Run (step calls) (opened presenter lastError) labels final) :
    Everywhere Carried final.log := by
  have kept : final.Staged ∧ Everywhere Carried final.log := by
    apply run.invariant _ ⟨staged_opened presenter lastError, everywhere_nil⟩
    rintro label threads next taken ⟨invariant, earlier⟩
    have move := move_of_step label taken
    exact ⟨staged_move move invariant, carried_move move invariant earlier⟩
  exact kept.2

/-- One pixel in one colour. -/
def onePixel (color : RgbColor) : Request :=
  .indexed
    (some
      { indices := dataOf false [0]
        width := 1
        height := 1
        stride := 1
        palette := some fun _ => color
        paletteSize := 1 })

def noStray : Nat → DamageRect := fun _ => {}

/-- A red pixel and a blue one, submitted one after the other. -/
def inTurn : List (Label Unit) :=
  [.copyDamage (onePixel ⟨255, 0, 0⟩) false, .copyPalette 0 false, .submit 0 {} noStray,
    .conclude 0, .copyDamage (onePixel ⟨0, 0, 255⟩) false, .copyPalette 1 false,
    .submit 1 {} noStray, .conclude 1]

/-- The second call copies its palette before the first one submits. -/
def interleaved : List (Label Unit) :=
  [.copyDamage (onePixel ⟨255, 0, 0⟩) false, .copyPalette 0 false,
    .copyDamage (onePixel ⟨0, 0, 255⟩) false, .copyPalette 1 false, .submit 0 {} noStray]

def afterInTurn : Threads Unit :=
  (Transition.exec (step System.presenting) inTurn (opened System.fresh "")).get
    (by decide +kernel)

def afterInterleaved : Threads Unit :=
  (Transition.exec (step System.presenting) interleaved (opened System.fresh "")).get
    (by decide +kernel)

theorem lists_carried_inTurn :
    Everywhere Carried afterInTurn.log ∧ ∀ entry ∈ afterInTurn.log, CarriesPalette entry :=
  ⟨@lists_carried Unit Unit System.presenting System.fresh "" inTurn afterInTurn
    (Transition.run_iff_exec.mpr (Option.some_get _).symm), by decide +kernel⟩

/-- The red pixel waits with the palette of the blue one. -/
theorem palette_of_other_call :
    Transition.Run (step System.presenting) (opened System.fresh "") interleaved
        afterInterleaved ∧
      ¬ ∀ entry ∈ afterInterleaved.log, CarriesPalette entry ∧ CarriesDamage entry := by
  refine ⟨Transition.run_iff_exec.mpr (Option.some_get _).symm, fun carried => ?_⟩
  have palettes : ¬ ∀ entry ∈ afterInterleaved.log, CarriesPalette entry := by decide +kernel
  exact palettes fun entry member => (carried entry member).1

end Threads

end Rasterm.Capi
