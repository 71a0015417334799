import Rasterm.Encoder.Table
import Rasterm.Presenter.Mailbox

/-!
Contract: what a Presenter accepts, its engine accepts.

Owns: that the descriptor of an accepted frame, rebuilt over the Presenter's own storage and
with the merged damage of the frames it replaced, is a valid frame again; the invariant of the
damage that waits; and what of the engine's validation is left to fail, the colour metadata.

Does not own what the engine makes of a frame it accepts.
-/

set_option autoImplicit false

universe u v

namespace Rasterm

open History Rows

/-! ### Damage that fits a frame -/

/-- The list fits frames of this size, and is empty unless it was supplied. -/
structure DamageFits (rects : List DamageRect) (supplied : Bool) (width height : Int) : Prop where
  inside : ∀ rectangle ∈ rects, rectangle.Inside width height
  empty : supplied = false → rects = []

theorem DamageFits.isValidFor {rects : List DamageRect} {supplied : Bool} {width height : Int}
    (fits : DamageFits rects supplied width height) (widthPos : 0 < width)
    (heightPos : 0 < height) :
    (DamageView.ofList rects supplied).isValidFor width height = true := by
  have extent : ¬ (decide (width ≤ 0) || decide (height ≤ 0)) = true := by
    simp only [Bool.or_eq_true, decide_eq_true_eq]
    omega
  unfold DamageView.isValidFor
  rw [if_neg extent]
  cases given : supplied with
  | false =>
      rw [fits.empty given]
      rfl
  | true =>
      have present : ¬ (decide ((DamageView.ofList rects true).count > 0) &&
          (DamageView.ofList rects true).rectangles.isNone) = true := by
        cases rects <;> simp [DamageView.ofList]
      simp only [DamageView.supplied_ofList, Bool.not_true, Bool.false_eq_true, if_false]
      rw [if_neg present, DamageView.rects_ofList, List.all_eq_true]
      intro rectangle member
      exact DamageView.rectangleIsValidFor_iff.mpr (fits.inside rectangle member)

/-- What the engine asks of the damage beside its rectangles. -/
theorem wellFormed_of_isValidFor {damage : DamageView} {width height : Int}
    (valid : damage.isValidFor width height = true) :
    ((damage.count == 0 || damage.rectangles.isSome) &&
      (damage.supplied || (damage.count == 0 && damage.rectangles.isNone))) = true := by
  unfold DamageView.isValidFor at valid
  cases given : damage.supplied <;> cases pointer : damage.rectangles <;>
    simp_all [Nat.pos_iff_ne_zero]

/-- Of a frame that passed `isValid` the engine refuses nothing but the colour metadata. -/
theorem validMetadata_of_isValid {frame : Frame} (valid : frame.isValid = true) :
    validMetadata frame.metadata =
      (validColorMetadata frame.metadata.color &&
        validColorMetadata frame.metadata.sourceColor) := by
  have formed := wellFormed_of_isValidFor (Frame.geometry_of_isValid valid).damage_valid
  rw [Bool.and_eq_true] at formed
  rw [validMetadata, formed.1, formed.2, Bool.and_true, Bool.and_true]

/-! ### Descriptors over the Presenter's storage -/

namespace Frame

/-- A valid frame with other damage. -/
theorem isValid_withDamage {frame : Frame} (valid : frame.isValid = true) {damage : DamageView}
    (fits : damage.isValidFor frame.width frame.height = true) :
    (frame.withDamage damage).isValid = true := by
  cases frame with
  | packed view =>
      simp only [isValid, withDamage, FrameView.isValid, width, height] at valid fits ⊢
      split_ifs at valid ⊢
      rw [Bool.and_eq_true] at valid ⊢
      exact ⟨valid.1, fits⟩
  | indexed view =>
      simp only [isValid, withDamage, IndexedFrameView.isValid, width, height] at valid fits ⊢
      split_ifs at valid ⊢
      rw [Bool.and_eq_true] at valid ⊢
      exact ⟨valid.1, fits⟩

/-- Frames whose pixels are readable wherever a copy of them is valid. -/
theorem Copies.isReadable {frame original : Frame} (copies : frame.Copies original)
    (readable : original.isReadable = true) (valid : frame.isValid = true) :
    frame.isReadable = true := by
  cases frame with
  | packed view => exact valid
  | indexed view =>
      cases original with
      | packed other => cases copies.kind
      | indexed other =>
          have otherValid := isValid_of_isReadable readable
          have sizes : view.palette.size = other.palette.size := by
            have here := (IndexedFrameView.geometry_of_isValid valid).palette_valid
            have there := (IndexedFrameView.geometry_of_isValid otherValid).palette_valid
            rw [← PaletteView.length_entries here, ← PaletteView.length_entries there]
            exact congrArg List.length copies.palette
          have width : view.width = other.width := copies.width
          have height : view.height = other.height := copies.height
          change view.hasValidIndices = true
          simp only [IndexedFrameView.hasValidIndices, Bool.and_eq_true, List.all_eq_true,
            List.mem_range, decide_eq_true_eq]
          refine ⟨valid, fun row rowInside column columnInside => ?_⟩
          rw [height] at rowInside
          rw [width] at columnInside
          have same := copies.texel column columnInside row rowInside
          simp only [Frame.texel, Texel.indexed.injEq] at same
          rw [same.1, sizes]
          exact IndexedFrameView.index_lt readable columnInside rowInside

end Frame

theorem isSome_dataOf {storage : List UInt8} (length : 0 < storage.length) :
    (dataOf false storage).isNone = false := by
  cases storage with
  | nil => cases length
  | cons head tail => rfl

theorem length_packRows (source : Memory) (stride rowLength rows : Nat) :
    (packRows source stride rowLength rows).length = rows * rowLength :=
  length_layRows _ _ _

/-- Rows laid end to end need no more room than the frame they come from. -/
theorem isValid_packedCopy {view : FrameView} (valid : view.isValid = true) {damage : DamageView}
    (fits : damage.isValidFor view.width view.height = true) :
    FrameView.isValid
      { data := dataOf false (packRows view.bytes view.stride.toNat
          (view.width.toNat * bytesPerPixel view.format) view.height.toNat)
        width := view.width
        height := view.height
        stride := ((view.width.toNat * bytesPerPixel view.format : Nat) : Int)
        format := view.format
        metadata := { view.metadata with damage := damage } } = true := by
  have geometry := FrameView.geometry_of_isValid valid
  have widthPos := geometry.width_pos
  have heightPos := geometry.height_pos
  have bytesPos : 0 < bytesPerPixel view.format := Nat.pos_of_ne_zero geometry.format_listed
  have row : ((view.width.toNat * bytesPerPixel view.format : Nat) : Int) =
      view.width * bytesPerPixel view.format := by
    rw [Int.natCast_mul, Int.toNat_of_nonneg widthPos.le]
  have rowPos : 0 < view.width * bytesPerPixel view.format :=
    mul_pos widthPos (Int.natCast_pos.mpr bytesPos)
  have present : (dataOf false (packRows view.bytes view.stride.toNat
      (view.width.toNat * bytesPerPixel view.format) view.height.toNat)).isNone = false := by
    apply isSome_dataOf
    rw [length_packRows]
    exact Nat.mul_pos (by omega) (Nat.mul_pos (by omega) bytesPos)
  simp only [FrameView.isValid, row] at valid ⊢
  split_ifs at valid with basic area bytes stride
  simp only [Bool.or_eq_true, decide_eq_true_eq, not_or, not_lt, Bool.and_eq_true,
    not_and, beq_iff_eq] at basic stride
  simp only [Bool.and_eq_true] at valid
  rw [if_neg, if_neg area, if_neg bytes, if_neg, Bool.and_eq_true]
  · exact ⟨valid.1, fits⟩
  · simp only [Bool.or_eq_true, decide_eq_true_eq, not_or, not_lt, Bool.and_eq_true, not_and]
    refine ⟨le_refl _, fun tall => ?_⟩
    exact stride.1.trans (stride.2 tall)
  · simp only [present, Bool.or_eq_true, decide_eq_true_eq, beq_iff_eq, not_or]
    exact ⟨⟨⟨⟨Bool.false_ne_true, basic.1.1.1.2⟩, basic.1.1.2⟩, basic.1.2⟩, not_le.mpr rowPos⟩

theorem isValid_indexedCopy {view : IndexedFrameView} (valid : view.isValid = true)
    {damage : DamageView} (fits : damage.isValidFor view.width view.height = true) :
    IndexedFrameView.isValid
      { indices := dataOf false (packRows view.bytes view.stride.toNat view.width.toNat
          view.height.toNat)
        width := view.width
        height := view.height
        stride := (view.width.toNat : Int)
        palette := PaletteView.ofList view.palette.entries
        metadata := { view.metadata with damage := damage } } = true := by
  have geometry := IndexedFrameView.geometry_of_isValid valid
  have widthPos := geometry.width_pos
  have heightPos := geometry.height_pos
  have row : (view.width.toNat : Int) = view.width := Int.toNat_of_nonneg widthPos.le
  have present : (dataOf false (packRows view.bytes view.stride.toNat view.width.toNat
      view.height.toNat)).isNone = false := by
    apply isSome_dataOf
    rw [length_packRows]
    exact Nat.mul_pos (by omega) (by omega)
  have palette : (PaletteView.ofList view.palette.entries).isValid = true := by
    have size := PaletteView.length_entries geometry.palette_valid
    have given := geometry.palette_valid
    simp only [PaletteView.isValid, Bool.and_eq_true] at given ⊢
    simp only [PaletteView.ofList, Option.isSome_some, size, true_and]
    exact ⟨given.1.2, given.2⟩
  simp only [IndexedFrameView.isValid, row] at valid ⊢
  split_ifs at valid with basic area stride
  simp only [Bool.or_eq_true, decide_eq_true_eq, not_or] at basic
  simp only [decide_eq_true_eq, Bool.and_eq_true, not_and, not_lt] at stride
  simp only [Bool.and_eq_true] at valid
  rw [if_neg, if_neg area, if_neg, Bool.and_eq_true]
  · exact ⟨valid.1, fits⟩
  · simp only [decide_eq_true_eq, Bool.and_eq_true, not_and, not_lt]
    exact fun tall => geometry.row_le.trans (stride tall)
  · simp only [present, palette, Bool.or_eq_true, decide_eq_true_eq, not_or]
    exact ⟨⟨⟨⟨⟨Bool.false_ne_true, basic.1.1.1.1.2⟩, basic.1.1.1.2⟩, not_le.mpr widthPos⟩,
      lt_irrefl _⟩, Bool.false_ne_true⟩

/-! ### What waits -/

namespace Presenter

variable {presenter after : Presenter} {heap : Heap} {submission : Submission}

/-- The damage that waits fits the frame that waits. -/
def DamageKept (presenter : Presenter) : Prop :=
  presenter.waiting = true →
    DamageFits presenter.pendingDamage presenter.pendingDamageSupplied
      presenter.waitingFrame.width presenter.waitingFrame.height

theorem fits_damageAfter (valid : submission.isValid = true) (kept : presenter.DamageKept) :
    DamageFits (presenter.damageAfter submission)
      (presenter.damageBefore submission).pendingDamageSupplied submission.frame.width
      submission.frame.height := by
  have damage := (Frame.geometry_of_isValid (Submission.isValid_frame valid)).damage_valid
  have given := DamageView.inside_of_isValidFor damage
  by_cases supplied : (presenter.damageBefore submission).pendingDamageSupplied = true
  · rw [damageAfter_of_supplied supplied]
    refine ⟨?_, fun refused => absurd (supplied.symm.trans refused) (by decide)⟩
    intro rectangle member
    rcases List.mem_append.mp member with earlier | added
    · cases occupied : presenter.waiting with
      | false =>
          rw [(damageBefore_of_empty submission occupied).1] at earlier
          cases earlier
      | true =>
          obtain ⟨same, -, -, width, height⟩ := damageBefore_of_waiting occupied supplied
          rw [same] at earlier
          rw [← width, ← height]
          exact (kept occupied).inside rectangle earlier
    · exact given rectangle added
  · have unsupplied : presenter.extendsDamage submission = false := by
      rw [extendsDamage, Bool.eq_false_iff.mpr supplied, Bool.false_and]
    have none : (presenter.damageBefore submission).pendingDamage = [] := by
      revert supplied
      unfold damageBefore startDamage
      split_ifs with fresh other
      · exact fun _ => rfl
      · exact fun _ => rfl
      · simp only [Bool.or_eq_true, Bool.not_eq_true', not_or, Bool.not_eq_false] at other
        exact fun refused => absurd other.1.2 refused
    rw [damageAfter, unsupplied, if_neg Bool.false_ne_true, none]
    exact ⟨(fun _ member => absurd member List.not_mem_nil), fun _ => rfl⟩

theorem DamageKept.accepted (kept : presenter.DamageKept)
    (valid : submission.isValid = true) (accepted : presenter.Accepted submission after) :
    after.DamageKept := by
  intro _
  have fits := fits_damageAfter valid kept
  rw [accepted.damage, accepted.supplied, ← width_consume, ← height_consume,
    accepted.carried.copies.width, accepted.carried.copies.height]
  exact fits

/-- A call that returns true has run its region to the end. -/
theorem region_of_accepted {dropped : Option FrameMetadata}
    (returned : presenter.submit heap submission = (after, .accepted dropped)) :
    presenter.region heap submission = .ok after := by
  have entered : ∀ {region : Region} {thrown : Presenter → Presenter × Outcome},
      (∀ left, (thrown left).2.isAccepted = false) →
        presenter.enter region thrown = (after, .accepted dropped) → region = .ok after := by
    intro region thrown leaves same
    unfold enter at same
    split_ifs at same
    · cases same
    · cases region with
      | error left =>
          have refused := leaves left
          simp only at same
          rw [same] at refused
          cases refused
      | ok next =>
          simp only [Prod.mk.injEq] at same
          rw [same.1]
  cases submission with
  | packed frame =>
      change presenter.submitPacked heap frame = _ at returned
      unfold submitPacked at returned
      split_ifs at returned
      · cases returned
      · exact entered (fun _ => rfl) returned
  | indexed frame =>
      change presenter.submitIndexed heap frame = _ at returned
      unfold submitIndexed at returned
      split_ifs at returned
      · cases returned
      · exact entered (fun _ => rfl) returned
  | owned frame =>
      change presenter.submitOwned heap frame = _ at returned
      unfold submitOwned submitShared at returned
      split_ifs at returned
      · cases returned
      · cases returned
      · cases returned
      · rw [caught_enter] at returned
        exact entered (fun _ => rfl) returned
  | ownedIndexed frame =>
      change presenter.submitOwnedIndexed heap frame = _ at returned
      unfold submitOwnedIndexed submitSharedIndexed at returned
      simp only at returned
      split_ifs at returned
      · cases returned
      · cases returned
      · cases returned
      · rw [caught_enter] at returned
        exact entered (fun _ => rfl) returned
  | shared shared =>
      change presenter.submitShared heap shared = _ at returned
      unfold submitShared at returned
      split_ifs at returned
      · cases returned
      · exact entered (fun _ => rfl) returned
  | sharedIndexed shared =>
      change presenter.submitSharedIndexed heap shared false = _ at returned
      unfold submitSharedIndexed at returned
      simp only [Bool.false_eq_true, if_false] at returned
      split_ifs at returned
      · cases returned
      · exact entered (fun _ => rfl) returned

/-- What a region that merged its damage leaves. -/
theorem ended_of_merge {described : Presenter} {complete : Presenter → Presenter}
    (ended : (described.mergePendingDamage heap submission.frame.metadata.damage presenter.waiting
        (presenter.compatibleDamage submission.frame.width submission.frame.height) >>=
      fun merged => pure (acceptLocked (complete merged))) = .ok after)
    (damage : described.pendingDamage = presenter.pendingDamage)
    (supplied : described.pendingDamageSupplied = presenter.pendingDamageSupplied) :
    ∃ rects given, after = acceptLocked
      (complete { described with pendingDamage := rects, pendingDamageSupplied := given }) := by
  rw [mergePendingDamage_eq damage supplied] at ended
  split_ifs at ended
  · cases ended
  · exact ⟨_, _, (Except.ok.inj ended).symm⟩

/-- A region that copies leaves the rows laid end to end. -/
theorem copied_of_region (copies : submission.isCopied = true)
    (ended : presenter.region heap submission = .ok after)
    (valid : submission.frame.isValid = true)
    (fits : (DamageView.ofList after.pendingDamage after.pendingDamageSupplied).isValidFor
      submission.frame.width submission.frame.height = true) :
    after.consume.2.frame.isValid = true := by
  cases submission with
  | packed frame =>
      cases pixels : heap.fails .pixels with
      | true => simp [region, copyPacked, storePixels, pixels, bind, Except.bind] at ended
      | false =>
          simp only [region, copyPacked, storePixels, pixels, Bool.false_eq_true, if_false] at ended
          obtain ⟨rects, given, rfl⟩ :=
            @ended_of_merge presenter after heap (.packed frame) _
              (fun merged =>
                { merged with
                  pendingFrame.metadata.damage := merged.mergedDamage
                  pendingKind := .packed
                  pendingPalette := []
                  pendingLifetime := none })
              ended presenter.countReplaced_pendingDamage
              presenter.countReplaced_pendingDamageSupplied
          exact isValid_packedCopy valid fits
  | indexed frame =>
      cases pixels : heap.fails .pixels with
      | true => simp [region, copyIndexed, storePixels, pixels, bind, Except.bind] at ended
      | false =>
          cases palette : heap.fails .palette with
          | true =>
              simp [region, copyIndexed, storePixels, assignPalette, pixels, palette, bind,
                Except.bind] at ended
          | false =>
              simp only [region, copyIndexed, storePixels, assignPalette, pixels, palette,
                Bool.false_eq_true, if_false] at ended
              obtain ⟨rects, given, rfl⟩ :=
                @ended_of_merge presenter after heap (.indexed frame) _
                  (fun merged =>
                    { merged with
                      pendingIndexedFrame.metadata.damage := merged.mergedDamage
                      pendingKind := .indexed
                      pendingIndexedTrusted := true
                      pendingLifetime := none })
                  ended presenter.countReplaced_pendingDamage
                  presenter.countReplaced_pendingDamageSupplied
              exact isValid_indexedCopy valid fits
  | owned frame => cases copies
  | ownedIndexed frame => cases copies
  | shared shared => cases copies
  | sharedIndexed shared => cases copies

/-- The frame that waits after an accepted submission is a valid frame. -/
theorem isReadable_of_accepted {dropped : Option FrameMetadata}
    (returned : presenter.submit heap submission = (after, .accepted dropped))
    (valid : submission.isValid = true) (kept : presenter.DamageKept)
    (accepted : presenter.Accepted submission after) :
    after.consume.2.frame.isReadable = true := by
  have frameValid := Submission.isValid_frame valid
  have geometry := Frame.geometry_of_isValid frameValid
  have fits := fits_damageAfter valid kept
  rw [← accepted.damage, ← accepted.supplied] at fits
  have damage := fits.isValidFor geometry.width_pos geometry.height_pos
  have waits : after.consume.2.frame.isValid = true := by
    cases copies : submission.isCopied with
    | true => exact copied_of_region copies (region_of_accepted returned) frameValid damage
    | false =>
        rw [accepted.carried.same copies, damage_consume]
        exact Frame.isValid_withDamage frameValid damage
  apply accepted.carried.copies.isReadable _ waits
  cases submission with
  | packed frame => exact valid
  | indexed frame => exact valid
  | owned frame => exact frameValid
  | ownedIndexed frame => exact OwnedIndexedFrame.hasValidIndices_view valid
  | shared shared => exact frameValid
  | sharedIndexed shared =>
      simp only [Submission.isValid, SharedIndexedFrameView.isValid, Bool.and_eq_true] at valid
      exact valid.2

end Presenter

/-! ### Runs -/

namespace System

variable {Device : Type u} {Input : Type v} {calls : EngineCalls Device Input}
  {system next start final : System Device} {label : Label Input} {labels : List (Label Input)}

/-- What waits and what has been handed over are frames that can be read. -/
structure Delivers (system : System Device) : Prop where
  kept : system.presenter.DamageKept
  waits : ∀ handed, system.presenter.next = some handed → handed.frame.isReadable = true
  handed : ∀ handed ∈ handedFrames system.log, handed.frame.isReadable = true

/-- Nothing is asked of an empty mailbox. -/
theorem delivers_of_empty (empty : system.presenter.waiting = false)
    (handed : ∀ handed ∈ handedFrames system.log, handed.frame.isReadable = true) :
    system.Delivers where
  kept := by
    intro occupied
    rw [empty] at occupied
    cases occupied
  waits := by
    intro next held
    rw [Presenter.next, empty] at held
    cases held
  handed := handed

theorem delivers_start (started : Started start) : start.Delivers := by
  cases started with
  | intro before options device succeeded =>
      apply delivers_of_empty
      · rw [Presenter.initializeWith_of_succeeded succeeded]
        rfl
      · exact fun _ member => absurd member List.not_mem_nil

theorem Delivers.handOver (delivers : system.Delivers)
    (occupied : system.presenter.waiting = true) : system.handOver.Delivers := by
  apply delivers_of_empty
  · exact bne_self_eq_false _
  · intro handed member
    rcases List.mem_cons.mp member with rfl | earlier
    · exact delivers.waits _ (if_pos occupied)
    · exact delivers.handed handed earlier

/-- The submission a step accepts, with the answer of its call. -/
theorem submit_of_accepted {heap : Heap} {submission : Submission} {after : Presenter}
    (taken : step calls (.submit heap submission) system =
      some
        { system with
          presenter := after
          dropping := system.dropping ++ system.presenter.dropped.toList
          log := .accepted submission :: system.log }) :
    ∃ dropped, system.presenter.submit heap submission = (after, .accepted dropped) := by
  simp only [step] at taken
  generalize system.presenter.submit heap submission = answer at taken ⊢
  obtain ⟨left, outcome⟩ := answer
  cases outcome with
  | accepted dropped =>
      simp only [Option.some.injEq, System.mk.injEq] at taken
      exact ⟨dropped, by rw [taken.1]⟩
  | refused =>
      simp only [Option.some.injEq, System.mk.injEq] at taken
      exact absurd taken.2.2.2.2.2.2.2.symm (List.cons_ne_self _ _)
  | threw =>
      simp only [Option.some.injEq, System.mk.injEq] at taken
      exact absurd taken.2.2.2.2.2.2.2.symm (List.cons_ne_self _ _)

theorem delivers_step (served : label.Serves) (consistent : system.Consistent)
    (taken : step calls label system = some next) (delivers : system.Delivers) :
    next.Delivers := by
  have move := move_of_step label taken
  have kept := delivers.kept
  have waits := delivers.waits
  have handed := delivers.handed
  cases move with
  | @accepted heap submission after entered accepted =>
      obtain ⟨dropped, returned⟩ := submit_of_accepted taken
      have valid : submission.isValid = true := by
        simp only [Presenter.enters, Bool.and_eq_true] at entered
        exact entered.1.1.1
      refine ⟨kept.accepted valid accepted, ?_, handed⟩
      intro next held
      unfold Presenter.next at held
      split_ifs at held
      rw [← Option.some.inj held]
      exact Presenter.isReadable_of_accepted returned valid kept accepted
  | interrupted failed interrupted => exact absurd failed served.not_fails
  | noted noted =>
      obtain ⟨rejected, status, rfl⟩ := noted
      exact ⟨kept, waits, handed⟩
  | emitted found => exact ⟨kept, waits, handed⟩
  | invalidated running going => exact ⟨kept, waits, handed⟩
  | waits running going => exact ⟨kept, waits, handed⟩
  | drained => exact ⟨kept, waits, handed⟩
  | refusedShutdown inside => exact ⟨kept, waits, handed⟩
  | cancelled outside running occupied =>
      refine delivers_of_empty ?_ handed
      exact bne_self_eq_false _
  | stopped outside running empty => exact ⟨kept, waits, handed⟩
  | stoppedAgain outside gone => exact ⟨kept, waits, handed⟩
  | joined exited asked => exact delivers_of_empty rfl handed
  | exited sleeping stopping => exact ⟨kept, waits, handed⟩
  | resetStarted sleeping going requested => exact ⟨kept, waits, handed⟩
  | limited sleeping going fresh occupied => exact ⟨kept, waits, handed⟩
  | handed sleeping going fresh occupied => exact delivers.handOver occupied
  | handedLate sleeping going =>
      exact delivers.handOver (consistent.occupied (by rw [sleeping]; rfl) going)
  | reset resetting => exact ⟨kept, waits, handed⟩
  | rendered rendering => exact ⟨kept, waits, handed⟩
  | finished rendered =>
      rw [Presenter.finish_eq]
      exact ⟨kept, waits, handed⟩

theorem delivers_of_run (started : Started start) (served : ∀ label ∈ labels, label.Serves)
    (run : Transition.Run (step calls) start labels final) : final.Delivers := by
  have both : final.Consistent ∧ final.Delivers := by
    apply run.invariant_of_labels _ served
    · exact ⟨consistent_start started, delivers_start started⟩
    · rintro label system next taken serves ⟨consistent, delivers⟩
      exact ⟨consistent_move (move_of_step label taken) consistent,
        delivers_step serves consistent taken delivers⟩
  exact both.2

/-- A frame that was handed over came from a submission. -/
theorem submitted_of_handed {log : List Entry} (handedAs : Everywhere HandedAsSubmitted log) :
    ∀ handed ∈ handedFrames log, ∃ submission ∈ Mailbox.puts (mailboxHistory log),
      submission.Carried handed := by
  intro handed member
  have pairs := handedFrames_carried handedAs
  obtain ⟨submission, taken, carried⟩ : ∃ submission ∈ Mailbox.taken (mailboxHistory log),
      submission.Carried handed := by
    clear handedAs
    generalize Mailbox.taken (mailboxHistory log) = submissions at pairs ⊢
    generalize handedFrames log = frames at pairs member
    induction pairs with
    | nil => cases member
    | @cons submission first submissions rest carried _ inductionHypothesis =>
        rcases List.mem_cons.mp member with rfl | later
        · exact ⟨submission, List.mem_cons_self, carried⟩
        · obtain ⟨other, inside, held⟩ := inductionHypothesis later
          exact ⟨other, List.mem_cons_of_mem _ inside, held⟩
  have order := Mailbox.taken_sublist (mailboxHistory log)
  exact ⟨submission, order.subset (List.mem_append_right _ taken), carried⟩

/-- Every frame that is handed over comes from a submission, and the engine's own validation
refuses it only for the colour metadata it was submitted with: the copy into the Presenter's
storage and the damage merged from replaced frames are always in order. -/
theorem handed_accepted_by_engine (started : Started start)
    (served : ∀ label ∈ labels, label.Serves)
    (run : Transition.Run (step calls) start labels final) :
    ∀ handed ∈ handedFrames final.log, ∃ submission ∈ Mailbox.puts (mailboxHistory final.log),
      submission.Carried handed ∧
        Engine.accepts handed.frame =
          (validColorMetadata submission.frame.metadata.color &&
            validColorMetadata submission.frame.metadata.sourceColor) := by
  intro handed member
  obtain ⟨submission, accepted, carried⟩ :=
    submitted_of_handed (mailboxed_of_run started served run).handed handed member
  have readable := (delivers_of_run started served run).handed handed member
  have metadata := validMetadata_of_isValid (Frame.isValid_of_isReadable readable)
  have color := congrArg FrameMetadata.color carried.copies.metadata
  have source := congrArg FrameMetadata.sourceColor carried.copies.metadata
  simp only at color source
  refine ⟨submission, accepted, carried, ?_⟩
  rw [← color, ← source, ← metadata]
  cases place : handed.frame with
  | packed view =>
      rw [place] at readable
      have valid : view.isValid = true := readable
      rw [Engine.accepts, valid, Bool.true_and]
      rfl
  | indexed view =>
      rw [place] at readable
      have valid : view.hasValidIndices = true := readable
      rw [Engine.accepts, valid, Bool.true_and]
      rfl

theorem handed_accepted_by_engine_threeFrames :
    (handedFrames afterThreeFrames.log).length = 2 ∧
      ∀ handed ∈ handedFrames afterThreeFrames.log,
        ∃ submission ∈ Mailbox.puts (mailboxHistory afterThreeFrames.log),
          submission.Carried handed ∧
            Engine.accepts handed.frame =
              (validColorMetadata submission.frame.metadata.color &&
                validColorMetadata submission.frame.metadata.sourceColor) :=
  ⟨by decide +kernel, handed_accepted_by_engine started_fresh serves_threeFrames run_threeFrames⟩

end System

end Rasterm
