import Rasterm.Presenter.Worker

/-!
Contract: the Presenter is a mailbox for one frame. What waits under the mutex is the
submission accepted last, whatever the buffers held before, and the worker is handed
exactly that.

Owns the simulation of the one-item mailbox by the Presenter's fields, the damage
that accumulates over replaced frames, and what every frame handed to the engine is.

Does not own the counters.
-/

set_option autoImplicit false

universe u v w

namespace Rasterm

open History

variable {Device : Type u} {Input : Type v} {calls : EngineCalls Device Input}
  {system next : System Device} {label : Label Input}

namespace System

/-! ### Simulation -/

/-- The mailbox holds a submission when the worker would be handed that very frame. -/
def Holds (system : System Device) : Prop :=
  Option.Rel Submission.Carried (Mailbox.slot (mailboxHistory system.log)) system.presenter.next

theorem Holds.slot (holds : system.Holds) (occupied : system.presenter.waiting = true) :
    ∃ submission, Mailbox.slot (mailboxHistory system.log) = some submission ∧
      submission.Carried system.presenter.consume.2 := by
  unfold Holds Presenter.next at holds
  rw [if_pos occupied] at holds
  generalize Mailbox.slot (mailboxHistory system.log) = held at holds ⊢
  cases holds with
  | some carried => exact ⟨_, rfl, carried⟩

theorem Holds.slot_eq_none (holds : system.Holds) (empty : system.presenter.waiting = false) :
    Mailbox.slot (mailboxHistory system.log) = none := by
  unfold Holds Presenter.next at holds
  rw [if_neg (ne_true_of_eq_false empty)] at holds
  generalize Mailbox.slot (mailboxHistory system.log) = held at holds ⊢
  cases holds with
  | none => rfl

theorem holds_of_empty (slot : Mailbox.slot (mailboxHistory system.log) = none)
    (empty : system.presenter.waiting = false) : system.Holds := by
  unfold Holds Presenter.next
  rw [slot, if_neg (ne_true_of_eq_false empty)]
  exact .none

theorem holds_start (started : Started system) : system.Holds := by
  cases started with
  | intro before options device succeeded =>
      apply holds_of_empty rfl
      simp only
      rw [Presenter.initializeWith_of_succeeded succeeded]
      rfl

theorem holds_handOver (system : System Device) : system.handOver.Holds :=
  holds_of_empty rfl (bne_self_eq_false _)

/-- Every step but an allocation that fails keeps the two mailboxes alike. -/
theorem holds_move (served : label.Serves) (consistent : system.Consistent)
    (move : Move calls system label next) (holds : system.Holds) : next.Holds := by
  cases move with
  | @accepted heap submission after entered accepted =>
      have occupied : after.waiting = true := by
        have ordered := consistent.generations
        unfold Presenter.waiting
        rw [accepted.consumedGeneration, accepted.pendingGeneration, bne_iff_ne]
        omega
      unfold Holds Presenter.next
      simp only
      rw [if_pos occupied]
      exact .some accepted.carried
  | interrupted failed interrupted => exact absurd failed served.not_fails
  | noted noted =>
      obtain ⟨rejected, status, rfl⟩ := noted
      exact holds
  | emitted found => exact holds
  | invalidated running going => exact holds
  | waits running going => exact holds
  | drained => exact holds
  | refusedShutdown inside => exact holds
  | cancelled outside running occupied => exact holds_of_empty rfl (bne_self_eq_false _)
  | stopped outside running empty => exact holds
  | stoppedAgain outside gone => exact holds
  | joined exited asked =>
      have empty : system.presenter.waiting = false := by
        cases running : system.presenter.running with
        | false => exact (consistent.running running).2
        | true => exact (consistent.leaving asked running).2
      exact holds_of_empty (holds.slot_eq_none empty) rfl
  | exited sleeping stopping => exact holds
  | resetStarted sleeping going requested => exact holds
  | limited sleeping going fresh occupied => exact holds
  | handed sleeping going fresh occupied => exact system.holds_handOver
  | handedLate sleeping going => exact system.holds_handOver
  | reset resetting => exact holds
  | rendered rendering => exact holds
  | finished rendered =>
      unfold Holds
      simp only
      rw [Presenter.finish_eq]
      exact holds

/-! ### What is handed over -/

/-- A frame handed to the engine is the submission accepted last, which nothing has
taken before. -/
def HandedAsSubmitted (entry : Entry) (older : List Entry) : Prop :=
  match entry with
  | .handed handed =>
      ∃ submission, Mailbox.slot (mailboxHistory older) = some submission ∧
        submission.Carried handed
  | _ => True

theorem handedAsSubmitted_move (consistent : system.Consistent) (holds : system.Holds)
    (move : Move calls system label next)
    (earlier : Everywhere HandedAsSubmitted system.log) :
    Everywhere HandedAsSubmitted next.log := by
  have handing : system.presenter.waiting = true →
      Everywhere HandedAsSubmitted system.handOver.log := by
    intro occupied
    exact everywhere_cons.mpr ⟨holds.slot occupied, earlier⟩
  cases move with
  | accepted entered accepted => exact everywhere_cons.mpr ⟨trivial, earlier⟩
  | interrupted failed interrupted => exact earlier
  | noted noted => exact earlier
  | emitted found => exact earlier
  | invalidated running going => exact everywhere_cons.mpr ⟨trivial, earlier⟩
  | waits running going => exact earlier
  | drained => exact everywhere_cons.mpr ⟨trivial, earlier⟩
  | refusedShutdown inside => exact earlier
  | cancelled outside running occupied => exact everywhere_cons.mpr ⟨trivial, earlier⟩
  | stopped outside running empty => exact earlier
  | stoppedAgain outside gone => exact earlier
  | joined exited asked => exact earlier
  | exited sleeping stopping => exact earlier
  | resetStarted sleeping going requested => exact everywhere_cons.mpr ⟨trivial, earlier⟩
  | limited sleeping going fresh occupied => exact earlier
  | handed sleeping going fresh occupied => exact handing occupied
  | handedLate sleeping going =>
      exact handing (consistent.occupied (by rw [sleeping]; rfl) going)
  | reset resetting => exact everywhere_cons.mpr ⟨trivial, earlier⟩
  | rendered rendering => exact earlier
  | finished rendered => exact everywhere_cons.mpr ⟨trivial, earlier⟩

/-- The frames handed over, newest first. -/
def handedFrames (log : List Entry) : List Handed :=
  log.filterMap fun entry =>
    match entry with
    | .handed handed => some handed
    | _ => none

/-- One frame is handed over for each submission the mailbox gave away, in that order. -/
theorem handedFrames_carried {log : List Entry} (handed : Everywhere HandedAsSubmitted log) :
    List.Forall₂ Submission.Carried (Mailbox.taken (mailboxHistory log)) (handedFrames log) := by
  induction log with
  | nil => exact .nil
  | cons entry older inductionHypothesis =>
      obtain ⟨here, earlier⟩ := everywhere_cons.mp handed
      have rest := inductionHypothesis earlier
      cases entry with
      | accepted submission => exact rest
      | handed frame =>
          obtain ⟨submission, slot, carried⟩ := here
          change List.Forall₂ Submission.Carried
            ((Mailbox.slot (mailboxHistory older)).toList ++ Mailbox.taken (mailboxHistory older))
            (frame :: handedFrames older)
          rw [slot]
          exact .cons carried rest
      | finished stats => exact rest
      | cancelled => exact rest
      | invalidated => exact rest
      | resetStarted => exact rest
      | resetExecuted => exact rest
      | drained completed => exact rest

/-! ### Until the frame is rendered -/

/-- The buffers a frame was handed over with still hold it. -/
structure Lends (presenter : Presenter) (handed : Handed) : Prop where
  lifetime : handed.lifetime = presenter.renderingLifetime
  damage : handed.frame.metadata.damage = presenter.renderingView
  bytes : handed.lifetime = none →
    handed.frame.bytes = fun index => presenter.rendering.getD index 0
  palette : handed.lifetime = none → handed.frame.isIndexed = true →
    handed.frame.paletteEntries = presenter.renderingPalette

theorem lends_consume (presenter : Presenter) :
    Lends presenter.consume.1 presenter.consume.2 where
  lifetime := rfl
  damage := presenter.damage_consume
  bytes := by
    intro copied
    change presenter.pendingLifetime = none at copied
    unfold Presenter.consume Presenter.handedFrame Presenter.swapBuffers
    cases presenter.pendingKind <;>
      simp [copied, Frame.bytes, FrameView.bytes, IndexedFrameView.bytes]
  palette := by
    intro copied indexed
    change presenter.pendingLifetime = none at copied
    unfold Presenter.consume Presenter.handedFrame Presenter.swapBuffers at indexed ⊢
    cases kind : presenter.pendingKind with
    | packed =>
        rw [kind] at indexed
        cases indexed
    | indexed => simp [copied, Frame.paletteEntries]

/-- Nobody but the worker writes what it is rendering from. -/
theorem lends_move (move : Move calls system label next)
    (intact : ∀ handed, system.phase = .rendering handed → Lends system.presenter handed) :
    ∀ handed, next.phase = .rendering handed → Lends next.presenter handed := by
  have handing : ∀ handed, system.handOver.phase = .rendering handed →
      Lends system.handOver.presenter handed := by
    intro handed rendering
    obtain rfl : system.presenter.consume.2 = handed := Phase.rendering.inj rendering
    exact lends_consume system.presenter
  intro handed rendering
  cases move with
  | @accepted heap submission after entered accepted =>
      have lends := intact handed rendering
      change Lends after handed
      rw [accepted.rest]
      exact ⟨lends.lifetime, lends.damage, lends.bytes, lends.palette⟩
  | @interrupted heap submission left failed interrupted =>
      have lends := intact handed rendering
      change Lends left handed
      rw [interrupted.rest]
      exact ⟨lends.lifetime, lends.damage, lends.bytes, lends.palette⟩
  | noted noted =>
      obtain ⟨rejected, status, rfl⟩ := noted
      have lends := intact handed rendering
      exact ⟨lends.lifetime, lends.damage, lends.bytes, lends.palette⟩
  | emitted found => exact intact handed rendering
  | invalidated running going =>
      have lends := intact handed rendering
      exact ⟨lends.lifetime, lends.damage, lends.bytes, lends.palette⟩
  | waits running going => exact intact handed rendering
  | drained =>
      have lends := intact handed rendering
      exact ⟨lends.lifetime, lends.damage, lends.bytes, lends.palette⟩
  | refusedShutdown inside =>
      have lends := intact handed rendering
      exact ⟨lends.lifetime, lends.damage, lends.bytes, lends.palette⟩
  | cancelled outside running occupied =>
      have lends := intact handed rendering
      exact ⟨lends.lifetime, lends.damage, lends.bytes, lends.palette⟩
  | stopped outside running empty =>
      have lends := intact handed rendering
      exact ⟨lends.lifetime, lends.damage, lends.bytes, lends.palette⟩
  | stoppedAgain outside gone => exact intact handed rendering
  | joined exited asked =>
      change system.phase = .rendering handed at rendering
      rw [exited] at rendering
      cases rendering
  | exited sleeping stopping => cases rendering
  | resetStarted sleeping going requested => cases rendering
  | limited sleeping going fresh occupied => cases rendering
  | handed sleeping going fresh occupied => exact handing handed rendering
  | handedLate sleeping going => exact handing handed rendering
  | reset resetting => cases rendering
  | rendered held => cases rendering
  | finished rendered => cases rendering

end System

/-! ### Damage over replaced frames -/

section Damage

variable {Look : Type w} (look : Texel → Look)

/-- Every pixel in which two frames of one size look different is covered. -/
def CoversChanges (rects : List DamageRect) (previous frame : Frame) : Prop :=
  previous.width = frame.width → previous.height = frame.height →
    ∀ x < frame.width.toNat, ∀ y < frame.height.toNat,
      look (previous.texel x y) ≠ look (frame.texel x y) → Covers rects x y

variable {look} {first second : List DamageRect} {before middle after : Frame}

/-- What changed in two steps changed in one of them. -/
theorem CoversChanges.append (width : middle.width = after.width)
    (height : middle.height = after.height) (early : CoversChanges look first before middle)
    (late : CoversChanges look second middle after) :
    CoversChanges look (first ++ second) before after := by
  intro sameWidth sameHeight x xInside y yInside differs
  rw [covers_append]
  by_cases changed : look (before.texel x y) = look (middle.texel x y)
  · rw [changed] at differs
    exact Or.inr (late width height x xInside y yInside differs)
  · left
    apply early (sameWidth.trans width.symm) (sameHeight.trans height.symm) x _ y _ changed
    · rw [width]
      exact xInside
    · rw [height]
      exact yInside

theorem CoversChanges.copies {copyBefore copyAfter : Frame}
    (covers : CoversChanges look first before after) (left : copyBefore.Copies before)
    (right : copyAfter.Copies after) : CoversChanges look first copyBefore copyAfter := by
  intro sameWidth sameHeight x xInside y yInside differs
  rw [left.width, right.width] at sameWidth
  rw [left.height, right.height] at sameHeight
  rw [right.width] at xInside
  rw [right.height] at yInside
  apply covers sameWidth sameHeight x xInside y yInside
  rw [← right.texel x xInside y yInside,
    ← left.texel x (sameWidth ▸ xInside) y (sameHeight ▸ yInside)]
  exact differs

/-- The frame handed over last. -/
def lastHanded : List Entry → Option Handed
  | [] => none
  | .handed handed :: _ => some handed
  | _ :: older => lastHanded older

variable (look)

/-- Damage supplied with a submission covers what changed since the one before it. -/
def SuppliedTruly (entry : Entry) (older : List Entry) : Prop :=
  match entry with
  | .accepted submission =>
      submission.frame.metadata.damage.supplied = true →
        ∀ previous, (Mailbox.puts (mailboxHistory older)).head? = some previous →
          CoversChanges look submission.frame.metadata.damage.rects previous.frame
            submission.frame
  | _ => True

/-- Damage supplied to the engine covers what changed since the frame handed over before. -/
def HandedWithChanges (entry : Entry) (older : List Entry) : Prop :=
  match entry with
  | .handed handed =>
      handed.frame.metadata.damage.supplied = true →
        ∀ previous, lastHanded older = some previous →
          CoversChanges look handed.frame.metadata.damage.rects previous.frame handed.frame
  | _ => True

/-- What the mailbox keeps between two hand-overs. -/
structure Accumulates (system : System Device) : Prop where
  pending : ∀ submission, Mailbox.slot (mailboxHistory system.log) = some submission →
    system.presenter.pendingDamageSupplied = true →
      ∀ previous, lastHanded system.log = some previous →
        CoversChanges look system.presenter.pendingDamage previous.frame submission.frame
  last : system.presenter.running = true → system.presenter.stopping = false →
    Mailbox.slot (mailboxHistory system.log) = none →
      ∀ previous, lastHanded system.log = some previous →
        ∃ latest, (Mailbox.puts (mailboxHistory system.log)).head? = some latest ∧
          latest.Carried previous

variable {look}

theorem accumulates_start {start : System Device} (started : System.Started start) :
    Accumulates look start := by
  cases started with
  | intro before options device succeeded =>
      exact ⟨(fun _ held => by cases held), (fun _ _ _ _ held => by cases held)⟩

/-- A submission that is accepted adds what it changed. -/
theorem accumulates_accepted {submission : Submission} {accepted : Presenter}
    (holds : system.Holds) (running : system.presenter.running = true)
    (going : system.presenter.stopping = false)
    (accepts : system.presenter.Accepted submission accepted)
    (truly : SuppliedTruly look (.accepted submission) system.log)
    (accumulates : Accumulates look system) (dropping : List FrameMetadata) :
    Accumulates look
      { system with
        presenter := accepted
        dropping := dropping
        log := .accepted submission :: system.log } where
  pending := by
    intro latest held supplied previous handed
    obtain rfl : submission = latest := Option.some.inj held
    change lastHanded system.log = some previous at handed
    change accepted.pendingDamageSupplied = true at supplied
    change CoversChanges look accepted.pendingDamage previous.frame submission.frame
    rw [accepts.supplied] at supplied
    rw [accepts.damage, Presenter.damageAfter_of_supplied supplied]
    cases occupied : system.presenter.waiting with
    | false =>
        obtain ⟨none, given⟩ := Presenter.damageBefore_of_empty submission occupied
        rw [given] at supplied
        obtain ⟨earlier, first, carried⟩ :=
          accumulates.last running going (holds.slot_eq_none occupied) previous handed
        rw [none, List.nil_append]
        exact (truly supplied earlier first).copies carried.copies (Frame.Copies.refl _)
    | true =>
        obtain ⟨kept, before, given, width, height⟩ :=
          Presenter.damageBefore_of_waiting occupied supplied
        obtain ⟨waiting, slot, carried⟩ := holds.slot occupied
        rw [kept]
        apply CoversChanges.append _ _
          (accumulates.pending waiting slot before previous handed)
          (truly given waiting (Mailbox.head_puts slot))
        · rw [← width, ← Presenter.width_consume, carried.copies.width]
        · rw [← height, ← Presenter.height_consume, carried.copies.height]
  last := by
    intro _ _ empty
    cases empty

theorem accumulates_handOver (holds : system.Holds)
    (occupied : system.presenter.waiting = true) : Accumulates look system.handOver where
  pending := fun _ held => by cases held
  last := by
    intro _ _ _ previous handed
    obtain rfl : system.presenter.consume.2 = previous := Option.some.inj handed
    obtain ⟨submission, slot, carried⟩ := holds.slot occupied
    have latest := Mailbox.head_puts slot
    exact ⟨submission, latest, carried⟩

/-- The frame handed over brings the damage that has accumulated. -/
theorem handedWithChanges_handOver (holds : system.Holds)
    (occupied : system.presenter.waiting = true) (accumulates : Accumulates look system) :
    HandedWithChanges look (.handed system.presenter.consume.2) system.log := by
  intro supplied previous handed
  obtain ⟨submission, slot, carried⟩ := holds.slot occupied
  rw [Presenter.damage_consume, DamageView.supplied_ofList] at supplied
  rw [Presenter.damage_consume, DamageView.rects_ofList]
  have covers := accumulates.pending submission slot supplied previous handed
  exact covers.copies (Frame.Copies.refl _) carried.copies

/-- Every step but an allocation that fails keeps the account of changes. -/
theorem changes_move (served : label.Serves) (consistent : system.Consistent)
    (holds : system.Holds) (move : System.Move calls system label next)
    (truly : Everywhere (SuppliedTruly look) next.log)
    (earlier : Everywhere (HandedWithChanges look) system.log)
    (accumulates : Accumulates look system) :
    Everywhere (HandedWithChanges look) next.log ∧ Accumulates look next := by
  have pending := accumulates.pending
  have last := accumulates.last
  have handing : system.presenter.waiting = true →
      Everywhere (HandedWithChanges look) system.handOver.log ∧
        Accumulates look system.handOver := by
    intro occupied
    exact ⟨everywhere_cons.mpr ⟨handedWithChanges_handOver holds occupied accumulates, earlier⟩,
      accumulates_handOver holds occupied⟩
  cases move with
  | accepted entered accepted =>
      obtain ⟨running, going⟩ := Presenter.running_of_enters entered
      exact ⟨everywhere_cons.mpr ⟨trivial, earlier⟩,
        accumulates_accepted holds running going accepted (everywhere_cons.mp truly).1
          accumulates _⟩
  | interrupted failed interrupted => exact absurd failed served.not_fails
  | noted noted =>
      obtain ⟨rejected, status, rfl⟩ := noted
      exact ⟨earlier, pending, last⟩
  | emitted found => exact ⟨earlier, pending, last⟩
  | invalidated running going => exact ⟨everywhere_cons.mpr ⟨trivial, earlier⟩, pending, last⟩
  | waits running going => exact ⟨earlier, pending, last⟩
  | drained => exact ⟨everywhere_cons.mpr ⟨trivial, earlier⟩, pending, last⟩
  | refusedShutdown inside => exact ⟨earlier, pending, fun _ going => by cases going⟩
  | cancelled outside running occupied =>
      exact ⟨everywhere_cons.mpr ⟨trivial, earlier⟩, (fun _ held => by cases held),
        fun _ going => by cases going⟩
  | stopped outside running empty => exact ⟨earlier, pending, fun _ going => by cases going⟩
  | stoppedAgain outside gone => exact ⟨earlier, pending, last⟩
  | joined exited asked =>
      exact ⟨earlier, (fun _ _ supplied => by cases supplied), fun running => by cases running⟩
  | exited sleeping stopping => exact ⟨earlier, pending, last⟩
  | resetStarted sleeping going requested =>
      exact ⟨everywhere_cons.mpr ⟨trivial, earlier⟩, pending, last⟩
  | limited sleeping going fresh occupied => exact ⟨earlier, pending, last⟩
  | handed sleeping going fresh occupied => exact handing occupied
  | handedLate sleeping going =>
      exact handing (consistent.occupied (by rw [sleeping]; rfl) going)
  | reset resetting => exact ⟨everywhere_cons.mpr ⟨trivial, earlier⟩, pending, last⟩
  | rendered rendering => exact ⟨earlier, pending, last⟩
  | finished rendered =>
      rw [Presenter.finish_eq]
      exact ⟨everywhere_cons.mpr ⟨trivial, earlier⟩, pending, last⟩

end Damage

/-! ### Runs -/

namespace System

/-- The run is a mailbox: the invariant of every run without failing allocations. -/
structure Mailboxed (system : System Device) : Prop where
  consistent : system.Consistent
  holds : system.Holds
  handed : Everywhere HandedAsSubmitted system.log
  intact : ∀ handed, system.phase = .rendering handed → Lends system.presenter handed

variable {start final : System Device} {labels : List (Label Input)}

theorem mailboxed_start (started : Started start) : start.Mailboxed where
  consistent := consistent_start started
  holds := holds_start started
  handed := by
    cases started with
    | intro before options device succeeded => exact everywhere_nil
  intact := by
    cases started with
    | intro before options device succeeded => exact fun _ rendering => by cases rendering

theorem mailboxed_move (served : label.Serves) (move : Move calls system label next)
    (mailboxed : system.Mailboxed) : next.Mailboxed where
  consistent := consistent_move move mailboxed.consistent
  holds := holds_move served mailboxed.consistent move mailboxed.holds
  handed := handedAsSubmitted_move mailboxed.consistent mailboxed.holds move mailboxed.handed
  intact := lends_move move mailboxed.intact

theorem mailboxed_of_run (started : Started start) (served : ∀ label ∈ labels, label.Serves)
    (run : Transition.Run (step calls) start labels final) : final.Mailboxed :=
  run.invariant_of_labels
    (fun label _ _ taken serves => mailboxed_move serves (move_of_step label taken))
    served (mailboxed_start started)

/-- Damage supplied with true submissions is true of the frames handed over. -/
theorem handedWithChanges_of_run {Look : Type w} (look : Texel → Look) (started : Started start)
    (served : ∀ label ∈ labels, label.Serves)
    (run : Transition.Run (step calls) start labels final)
    (truly : Everywhere (SuppliedTruly look) final.log) :
    Everywhere (HandedWithChanges look) final.log := by
  have kept : final.Mailboxed ∧ (Everywhere (SuppliedTruly look) final.log →
      Everywhere (HandedWithChanges look) final.log ∧ Accumulates look final) := by
    apply run.invariant_of_labels _ served
    · refine ⟨mailboxed_start started, fun _ => ⟨?_, accumulates_start started⟩⟩
      cases started with
      | intro before options device succeeded => exact everywhere_nil
    · rintro label system next taken serves ⟨mailboxed, changes⟩
      have move := move_of_step label taken
      refine ⟨mailboxed_move serves move mailboxed, fun supplied => ?_⟩
      obtain ⟨newer, extended⟩ := log_move move
      obtain ⟨earlier, accumulates⟩ := changes (Everywhere.of_append (extended ▸ supplied))
      exact changes_move serves mailboxed.consistent mailboxed.holds move supplied earlier
        accumulates
  exact (kept.2 truly).1

/-- Whatever the order of the steps, the worker is handed the submission accepted last,
as it was submitted and from buffers that nobody else writes; submissions are handed over
in their order, each at most once; and damage that is supplied with a frame covers what
changed since the frame handed over before, if that is so of the submissions. -/
theorem handed_as_submitted (started : Started start) (served : ∀ label ∈ labels, label.Serves)
    (run : Transition.Run (step calls) start labels final) :
    Everywhere HandedAsSubmitted final.log ∧
      (Mailbox.taken (mailboxHistory final.log)).Sublist
        (Mailbox.puts (mailboxHistory final.log)) ∧
      List.Forall₂ Submission.Carried (Mailbox.taken (mailboxHistory final.log))
        (handedFrames final.log) ∧
      (∀ handed, final.phase = .rendering handed → Lends final.presenter handed) ∧
      ∀ {Look : Type w} (look : Texel → Look), Everywhere (SuppliedTruly look) final.log →
        Everywhere (HandedWithChanges look) final.log := by
  have mailboxed := mailboxed_of_run started served run
  have order := Mailbox.taken_sublist (mailboxHistory final.log)
  exact ⟨mailboxed.handed, (List.sublist_append_right _ _).trans order,
    handedFrames_carried mailboxed.handed, mailboxed.intact,
    fun look truly => handedWithChanges_of_run look started served run truly⟩

/-- The damage supplied with `twoPixels` is true of any two of them. -/
theorem coversChanges_twoPixels (first second : UInt8) :
    CoversChanges id (twoPixels second).frame.metadata.damage.rects (twoPixels first).frame
      (twoPixels second).frame := by
  intro _ _ x xInside y yInside differs
  have width : (twoPixels second).frame.width.toNat = 2 := rfl
  have height : (twoPixels second).frame.height.toNat = 1 := rfl
  obtain rfl : y = 0 := by omega
  obtain rfl | rfl : x = 0 ∨ x = 1 := by omega
  · exact absurd rfl differs
  · exact ⟨⟨1, 0, 1, 1⟩, List.mem_singleton_self _, by decide⟩

theorem suppliedTruly_twoPixels {log : List Entry} {seconds : List UInt8}
    (submitted : Mailbox.puts (mailboxHistory log) = seconds.map twoPixels) :
    Everywhere (SuppliedTruly id) log := by
  induction log generalizing seconds with
  | nil => exact everywhere_nil
  | cons entry older inductionHypothesis =>
      cases entry with
      | accepted submission =>
          cases seconds with
          | nil => cases submitted
          | cons second earlier =>
              obtain rfl : submission = twoPixels second := (List.cons.inj submitted).1
              have rest : Mailbox.puts (mailboxHistory older) = earlier.map twoPixels :=
                (List.cons.inj submitted).2
              refine everywhere_cons.mpr ⟨?_, inductionHypothesis rest⟩
              intro _ previous before
              rw [rest] at before
              cases earlier with
              | nil => cases before
              | cons first _ =>
                  obtain rfl := Option.some.inj before
                  exact coversChanges_twoPixels first second
      | _ => exact everywhere_cons.mpr ⟨trivial, inductionHypothesis submitted⟩

/-- The frame handed over second carries the damage of the one it replaced. -/
theorem handed_as_submitted_threeFrames :
    Everywhere HandedAsSubmitted afterThreeFrames.log ∧
      Everywhere (HandedWithChanges id) afterThreeFrames.log ∧
      (handedFrames afterThreeFrames.log).map
          (fun handed => handed.frame.metadata.damage.rects.length) = [2, 1] :=
  ⟨(handed_as_submitted.{0, 0, 0} started_fresh serves_threeFrames run_threeFrames).1,
    (handed_as_submitted started_fresh serves_threeFrames run_threeFrames).2.2.2.2 id
      (@suppliedTruly_twoPixels _ [3, 2, 1] rfl),
    by decide +kernel⟩

end System

end Rasterm
