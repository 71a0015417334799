import Rasterm.Presenter.Presenter

/-!
Contract: what one `submit` call does, whichever of the six ways it goes.

Owns what a submission is (its frame, its lifetime, its validation), what the worker
would be handed next, the allocations of a call, and the two ends of its region: an
accepted submission as a relation between the states around it, and what a failed
allocation leaves.
-/

set_option autoImplicit false

namespace Rasterm

open Rows

/-! ### Submissions as frames -/

namespace Submission

/-- The frame as the caller sees it when it submits. -/
def frame : Submission → Frame
  | packed view => .packed view
  | indexed view => .indexed view
  | owned source => .packed source.view
  | ownedIndexed source => .indexed source.view
  | shared source => .packed source.frame
  | sharedIndexed source => .indexed source.frame

/-- What keeps the storage of the frame alive; a copy is the Presenter's own. -/
def lifetime : Submission → Option Lifetime
  | packed _ | indexed _ => none
  | owned source => some (.owned source)
  | ownedIndexed source => some (.ownedIndexed source)
  | shared source => source.lifetime
  | sharedIndexed source => source.lifetime

def isCopied : Submission → Bool
  | packed _ | indexed _ => true
  | _ => false

/-- The buffers a copy needs room in. -/
def copyAllocations : Submission → List Allocation
  | packed _ => [.pixels]
  | indexed _ => [.pixels, .palette]
  | _ => []

def isOwned : Submission → Bool
  | owned _ | ownedIndexed _ => true
  | _ => false

def isValid : Submission → Bool
  | packed view => view.isValid
  | indexed view => view.hasValidIndices
  | owned source => source.isValid
  | ownedIndexed source => source.isValid
  | shared source => source.isValid
  | sharedIndexed source => source.isValid

/-- Every index of the frame names a palette entry. -/
def indicesChecked (submission : Submission) : Prop :=
  ∃ view, submission.frame = .indexed view ∧ view.hasValidIndices = true

theorem isValid_frame {submission : Submission} (valid : submission.isValid = true) :
    submission.frame.isValid = true := by
  cases submission with
  | packed view => exact valid
  | indexed view => exact IndexedFrameView.isValid_of_hasValidIndices valid
  | owned source => exact OwnedFrame.isValid_view valid
  | ownedIndexed source =>
      exact IndexedFrameView.isValid_of_hasValidIndices
        (OwnedIndexedFrame.hasValidIndices_view valid)
  | shared source =>
      simp only [isValid, SharedFrameView.isValid, Bool.and_eq_true] at valid
      exact valid.2
  | sharedIndexed source =>
      simp only [isValid, SharedIndexedFrameView.isValid, Bool.and_eq_true] at valid
      exact IndexedFrameView.isValid_of_hasValidIndices valid.2

end Submission

/-! ### Frames that are copies of each other -/

/-- What a frame holds at one pixel. -/
inductive Texel where
  | packed (format : PixelFormat) (bytes : List UInt8)
  | indexed (index : UInt8) (palette : List RgbColor)
deriving DecidableEq, Repr

namespace Frame

def texel (frame : Frame) (x y : Nat) : Texel :=
  match frame with
  | packed view =>
      .packed view.format ((List.range (Rasterm.bytesPerPixel view.format)).map (view.pixel x y))
  | indexed view => .indexed (view.index x y) view.palette.entries

def withDamage (frame : Frame) (damage : DamageView) : Frame :=
  match frame with
  | packed view => packed { view with metadata := { view.metadata with damage := damage } }
  | indexed view => indexed { view with metadata := { view.metadata with damage := damage } }

/-- The same frame, damage aside, wherever its bytes are kept. -/
structure Copies (frame original : Frame) : Prop where
  kind : frame.isIndexed = original.isIndexed
  width : frame.width = original.width
  height : frame.height = original.height
  formatTag : frame.formatTag = original.formatTag
  palette : frame.paletteEntries = original.paletteEntries
  texel : ∀ x < original.width.toNat, ∀ y < original.height.toNat,
    frame.texel x y = original.texel x y
  metadata : { frame.metadata with damage := {} } = { original.metadata with damage := {} }

theorem Copies.refl (frame : Frame) : frame.Copies frame :=
  ⟨rfl, rfl, rfl, rfl, rfl, fun _ _ _ _ => rfl, rfl⟩

theorem copies_withDamage (frame : Frame) (damage : DamageView) :
    (frame.withDamage damage).Copies frame := by
  cases frame with
  | packed view => exact ⟨rfl, rfl, rfl, rfl, rfl, fun _ _ _ _ => rfl, rfl⟩
  | indexed view => exact ⟨rfl, rfl, rfl, rfl, rfl, fun _ _ _ _ => rfl, rfl⟩

end Frame

/-- The worker is handed what was submitted: the same frame, kept alive by the same owner,
in the same place unless it was copied. -/
structure Submission.Carried (submission : Submission) (handed : Handed) : Prop where
  copies : handed.frame.Copies submission.frame
  lifetime : handed.lifetime = submission.lifetime
  same : submission.isCopied = false →
    handed.frame = submission.frame.withDamage handed.frame.metadata.damage
  /-- The indices are taken on trust only after a check, and only in storage of the
  Presenter's. -/
  trusted : handed.trusted = true →
    (submission.isCopied = true ∨ submission.isOwned = true) ∧ submission.indicesChecked

theorem Submission.carried_of_withDamage {submission : Submission} {handed : Handed}
    (damage : DamageView) (frame : handed.frame = submission.frame.withDamage damage)
    (lifetime : handed.lifetime = submission.lifetime)
    (trusted : handed.trusted = true →
      (submission.isCopied = true ∨ submission.isOwned = true) ∧ submission.indicesChecked) :
    submission.Carried handed where
  copies := by
    rw [frame]
    exact Frame.copies_withDamage _ _
  lifetime := lifetime
  same := by
    intro _
    rw [frame]
    cases submission.frame <;> rfl
  trusted := trusted

namespace Presenter

/-! ### What waits -/

/-- The descriptor of the frame that waits. -/
def waitingFrame (presenter : Presenter) : Frame :=
  match presenter.pendingKind with
  | .packed => .packed presenter.pendingFrame
  | .indexed => .indexed presenter.pendingIndexedFrame

theorem compatibleDamage_eq (presenter : Presenter) (width height : Int) :
    presenter.compatibleDamage width height =
      (!presenter.waiting ||
        presenter.waitingFrame.width == width && presenter.waitingFrame.height == height) := by
  unfold compatibleDamage waitingFrame
  cases presenter.pendingKind <;> rfl

/-- The frame the worker would render next. -/
def next (presenter : Presenter) : Option Handed :=
  if presenter.waiting then some presenter.consume.2 else none

@[simp] theorem damage_consume (presenter : Presenter) :
    presenter.consume.2.frame.metadata.damage =
      DamageView.ofList presenter.pendingDamage presenter.pendingDamageSupplied := by
  unfold consume handedFrame swapBuffers
  cases presenter.pendingKind <;> rfl

theorem width_consume (presenter : Presenter) :
    presenter.consume.2.frame.width = presenter.waitingFrame.width := by
  unfold consume handedFrame swapBuffers waitingFrame
  cases presenter.pendingKind <;> rfl

theorem height_consume (presenter : Presenter) :
    presenter.consume.2.frame.height = presenter.waitingFrame.height := by
  unfold consume handedFrame swapBuffers waitingFrame
  cases presenter.pendingKind <;> rfl

theorem metadata_consume (presenter : Presenter) :
    { presenter.consume.2.frame.metadata with damage := {} } =
      { presenter.waitingMetadata with damage := {} } := by
  unfold consume handedFrame swapBuffers waitingMetadata
  cases presenter.pendingKind <;> rfl

/-! ### The region of a call -/

/-- The region a call runs once it is past validation. -/
def region (presenter : Presenter) (heap : Heap) : Submission → Region
  | .packed frame => presenter.copyPacked heap frame
  | .indexed frame => presenter.copyIndexed heap frame
  | .owned frame => presenter.sharePacked heap ⟨frame.view, some (.owned frame)⟩
  | .ownedIndexed frame =>
      presenter.shareIndexed heap ⟨frame.view, some (.ownedIndexed frame)⟩ true
  | .shared shared => presenter.sharePacked heap shared
  | .sharedIndexed shared => presenter.shareIndexed heap shared false

/-- The damage a submission is merged into. -/
def damageBefore (presenter : Presenter) (submission : Submission) : Presenter :=
  presenter.startDamage submission.frame.metadata.damage presenter.waiting
    (presenter.compatibleDamage submission.frame.width submission.frame.height)

def extendsDamage (presenter : Presenter) (submission : Submission) : Bool :=
  (presenter.damageBefore submission).pendingDamageSupplied &&
    submission.frame.metadata.damage.count > 0

def damageAfter (presenter : Presenter) (submission : Submission) : List DamageRect :=
  if presenter.extendsDamage submission then
    (presenter.damageBefore submission).pendingDamage ++
      submission.frame.metadata.damage.rects
  else (presenter.damageBefore submission).pendingDamage

/-- The allocations a call makes while it holds the mutex. -/
def allocations (presenter : Presenter) (submission : Submission) : List Allocation :=
  submission.copyAllocations ++
    if presenter.extendsDamage submission then [.damage] else []

/-- The call reaches its region. -/
def enters (presenter : Presenter) (heap : Heap) (submission : Submission) : Bool :=
  submission.isValid && presenter.running && !presenter.stopping &&
    !(submission.isOwned && heap.fails .owner)

/-- What an accepted submission does: nothing outside the waiting side of the mailbox
and the counters. -/
structure Accepted (before : Presenter) (submission : Submission) (after : Presenter) :
    Prop where
  rest : after =
    { before with
      pending := after.pending
      pendingPalette := after.pendingPalette
      pendingDamage := after.pendingDamage
      pendingDamageSupplied := after.pendingDamageSupplied
      pendingLifetime := after.pendingLifetime
      pendingFrame := after.pendingFrame
      pendingIndexedFrame := after.pendingIndexedFrame
      pendingKind := after.pendingKind
      pendingIndexedTrusted := after.pendingIndexedTrusted
      pendingGeneration := before.pendingGeneration + 1
      statistics :=
        { before.countReplaced.statistics with
          submittedFrames := before.statistics.submittedFrames + 1 }
      latestStatus := {} }
  damage : after.pendingDamage = before.damageAfter submission
  supplied : after.pendingDamageSupplied = (before.damageBefore submission).pendingDamageSupplied
  carried : submission.Carried after.consume.2

section Accepted

variable {before after : Presenter} {submission : Submission}

theorem Accepted.running (accepted : before.Accepted submission after) :
    after.running = before.running := by
  rw [accepted.rest]

theorem Accepted.stopping (accepted : before.Accepted submission after) :
    after.stopping = before.stopping := by
  rw [accepted.rest]

theorem Accepted.renderingActive (accepted : before.Accepted submission after) :
    after.renderingActive = before.renderingActive := by
  rw [accepted.rest]

theorem Accepted.resetRequested (accepted : before.Accepted submission after) :
    after.resetRequested = before.resetRequested := by
  rw [accepted.rest]

theorem Accepted.pendingGeneration (accepted : before.Accepted submission after) :
    after.pendingGeneration = before.pendingGeneration + 1 := by
  rw [accepted.rest]

theorem Accepted.consumedGeneration (accepted : before.Accepted submission after) :
    after.consumedGeneration = before.consumedGeneration := by
  rw [accepted.rest]

theorem Accepted.statistics (accepted : before.Accepted submission after) :
    after.statistics =
      { before.countReplaced.statistics with
        submittedFrames := before.statistics.submittedFrames + 1 } := by
  rw [accepted.rest]

end Accepted

/-- What is left when an allocation fails inside the region. -/
structure Interrupted (before left : Presenter) : Prop where
  rest : left =
    { before with
      pending := left.pending
      pendingPalette := left.pendingPalette
      pendingDamage := left.pendingDamage
      pendingDamageSupplied := left.pendingDamageSupplied
      pendingFrame := left.pendingFrame
      pendingIndexedFrame := left.pendingIndexedFrame
      statistics := left.statistics
      latestStatus := left.latestStatus }
  submitted : left.statistics.submittedFrames = before.statistics.submittedFrames
  replaced : left.statistics.replacedFrames = before.countReplaced.statistics.replacedFrames

section Region

variable {presenter described left after : Presenter} {heap : Heap} {submission : Submission}

/-- Merging looks at the damage that waits, and touches nothing else. -/
theorem mergePendingDamage_eq (damage : described.pendingDamage = presenter.pendingDamage)
    (supplied : described.pendingDamageSupplied = presenter.pendingDamageSupplied) :
    described.mergePendingDamage heap submission.frame.metadata.damage presenter.waiting
        (presenter.compatibleDamage submission.frame.width submission.frame.height) =
      if presenter.extendsDamage submission && heap.fails .damage then
        .error
          { described with
            pendingDamage := (presenter.damageBefore submission).pendingDamage
            pendingDamageSupplied := (presenter.damageBefore submission).pendingDamageSupplied }
      else
        .ok
          { described with
            pendingDamage := presenter.damageAfter submission
            pendingDamageSupplied :=
              (presenter.damageBefore submission).pendingDamageSupplied } := by
  have started : described.startDamage submission.frame.metadata.damage presenter.waiting
      (presenter.compatibleDamage submission.frame.width submission.frame.height) =
      { described with
        pendingDamage := (presenter.damageBefore submission).pendingDamage
        pendingDamageSupplied := (presenter.damageBefore submission).pendingDamageSupplied } := by
    unfold damageBefore startDamage
    rw [supplied]
    split_ifs
    · rfl
    · rfl
    · rw [← damage, ← supplied]
  unfold mergePendingDamage damageAfter
  rw [started]
  change (if presenter.extendsDamage submission = true then _ else _) = _
  by_cases extended : presenter.extendsDamage submission = true
  · rw [if_pos extended, if_pos extended, extended, Bool.true_and]
  · rw [if_neg extended, if_neg extended, Bool.eq_false_iff.mpr extended, Bool.false_and]
    rfl

/-! ### Copies -/

/-- The rows of a packed frame, laid end to end, read as the frame did. -/
theorem copies_packed (view : FrameView) (damage : DamageView) :
    (Frame.packed
      { data := dataOf false (packRows view.bytes view.stride.toNat
          (view.width.toNat * bytesPerPixel view.format) view.height.toNat)
        width := view.width
        height := view.height
        stride := ((view.width.toNat * bytesPerPixel view.format : Nat) : Int)
        format := view.format
        metadata := { view.metadata with damage := damage } }).Copies (.packed view) where
  kind := rfl
  width := rfl
  height := rfl
  formatTag := rfl
  palette := rfl
  metadata := rfl
  texel := by
    intro x columnInside y rowInside
    simp only [Frame.width, Frame.height] at columnInside rowInside
    simp only [Frame.texel, FrameView.pixel, FrameView.bytes, getD_dataOf, Texel.packed.injEq,
      true_and, Int.toNat_natCast]
    apply List.map_congr_left
    intro offset member
    rw [List.mem_range] at member
    simp only [Memory.advance]
    have inside : x * bytesPerPixel view.format + offset <
        view.width.toNat * bytesPerPixel view.format :=
      calc x * bytesPerPixel view.format + offset
          < x * bytesPerPixel view.format + bytesPerPixel view.format := by omega
        _ = (x + 1) * bytesPerPixel view.format := by ring
        _ ≤ view.width.toNat * bytesPerPixel view.format := Nat.mul_le_mul_right _ columnInside
    rw [Nat.add_assoc, getD_packRows _ _ _ _ _ _ _ rowInside inside, Nat.add_assoc]

theorem copies_indexed (view : IndexedFrameView) (damage : DamageView) :
    (Frame.indexed
      { indices := dataOf false (packRows view.bytes view.stride.toNat view.width.toNat
          view.height.toNat)
        width := view.width
        height := view.height
        stride := (view.width.toNat : Int)
        palette := PaletteView.ofList view.palette.entries
        metadata := { view.metadata with damage := damage } }).Copies (.indexed view) where
  kind := rfl
  width := rfl
  height := rfl
  formatTag := rfl
  palette := PaletteView.entries_ofList _
  metadata := rfl
  texel := by
    intro x columnInside y rowInside
    simp only [Frame.width, Frame.height] at columnInside rowInside
    simp only [Frame.texel, IndexedFrameView.index, PaletteView.entries_ofList,
      Texel.indexed.injEq, and_true]
    rw [IndexedFrameView.bytes, getD_dataOf, Int.toNat_natCast]
    exact getD_packRows _ _ _ _ _ _ _ rowInside columnInside

/-! ### The ends of a region -/

@[simp] theorem countReplaced_pendingDamage (presenter : Presenter) :
    presenter.countReplaced.pendingDamage = presenter.pendingDamage := by
  unfold countReplaced
  split_ifs <;> rfl

@[simp] theorem countReplaced_pendingDamageSupplied (presenter : Presenter) :
    presenter.countReplaced.pendingDamageSupplied = presenter.pendingDamageSupplied := by
  unfold countReplaced
  split_ifs <;> rfl

theorem countReplaced_eq (presenter : Presenter) :
    presenter.countReplaced =
      { presenter with statistics := presenter.countReplaced.statistics } := by
  unfold countReplaced
  split_ifs <;> rfl

theorem countReplaced_submittedFrames (presenter : Presenter) :
    presenter.countReplaced.statistics.submittedFrames =
      presenter.statistics.submittedFrames := by
  unfold countReplaced
  split_ifs <;> rfl

/-- A region that an allocation stopped, or one that ran to its end. -/
inductive Ends (presenter : Presenter) (heap : Heap) (submission : Submission) : Prop where
  | stopped (left : Presenter)
      (failed : ∃ allocation ∈ presenter.allocations submission, heap.fails allocation = true)
      (ended : presenter.region heap submission = .error left)
      (interrupted : presenter.Interrupted left)
  | completed (after : Presenter)
      (served : ∀ allocation ∈ presenter.allocations submission, heap.fails allocation = false)
      (ended : presenter.region heap submission = .ok after)
      (accepted : submission.isValid = true → presenter.Accepted submission after)

/-- The regions differ in what they describe before the merge and complete after it. -/
theorem ends_of_merge {complete : Presenter → Presenter}
    (ended : presenter.region heap submission =
      described.mergePendingDamage heap submission.frame.metadata.damage presenter.waiting
          (presenter.compatibleDamage submission.frame.width submission.frame.height) >>=
        fun merged => pure (acceptLocked (complete merged)))
    (copied : ∀ allocation ∈ submission.copyAllocations, heap.fails allocation = false)
    (describes : described =
      { presenter with
        pending := described.pending
        pendingPalette := described.pendingPalette
        pendingFrame := described.pendingFrame
        pendingIndexedFrame := described.pendingIndexedFrame
        statistics := presenter.countReplaced.statistics })
    (completes : ∀ merged, complete merged =
      { merged with
        pendingPalette := (complete merged).pendingPalette
        pendingFrame := (complete merged).pendingFrame
        pendingIndexedFrame := (complete merged).pendingIndexedFrame
        pendingLifetime := (complete merged).pendingLifetime
        pendingKind := (complete merged).pendingKind
        pendingIndexedTrusted := (complete merged).pendingIndexedTrusted })
    (carried : submission.isValid = true → ∀ damage supplied, submission.Carried
      (complete { described with
        pendingDamage := damage
        pendingDamageSupplied := supplied }).consume.2) :
    presenter.Ends heap submission := by
  have damage : described.pendingDamage = presenter.pendingDamage := by rw [describes]
  have supplied : described.pendingDamageSupplied = presenter.pendingDamageSupplied := by
    rw [describes]
  rw [mergePendingDamage_eq damage supplied] at ended
  by_cases failed : (presenter.extendsDamage submission && heap.fails .damage) = true
  · rw [if_pos failed] at ended
    rw [Bool.and_eq_true] at failed
    apply Ends.stopped _ ⟨.damage, by simp [allocations, failed.1], failed.2⟩ ended
    rw [describes]
    exact ⟨rfl, presenter.countReplaced_submittedFrames, rfl⟩
  · rw [if_neg failed] at ended
    apply Ends.completed _ _ ended
    · intro valid
      have fills := completes
        { described with
          pendingDamage := presenter.damageAfter submission
          pendingDamageSupplied := (presenter.damageBefore submission).pendingDamageSupplied }
      constructor
      · unfold acceptLocked
        rw [fills]
        rw [describes]
        simp only [countReplaced_submittedFrames]
      · unfold acceptLocked
        rw [fills]
      · unfold acceptLocked
        rw [fills]
      · exact carried valid _ _
    · intro allocation member
      rcases List.mem_append.mp member with copying | extending
      · exact copied allocation copying
      · by_cases extended : presenter.extendsDamage submission = true
        · rw [if_pos extended, List.mem_singleton] at extending
          rw [extended, Bool.true_and, Bool.not_eq_true] at failed
          rw [extending]
          exact failed
        · rw [if_neg extended] at extending
          cases extending

/-- The first allocation fails when only the replacement has been counted. -/
theorem interrupted_countReplaced (presenter : Presenter) :
    presenter.Interrupted presenter.countReplaced where
  rest := by
    unfold countReplaced
    split_ifs <;> rfl
  submitted := presenter.countReplaced_submittedFrames
  replaced := rfl

/-! ### One lemma for each region -/

theorem ends_packed (presenter : Presenter) (heap : Heap) (frame : FrameView) :
    presenter.Ends heap (.packed frame) := by
  cases pixels : heap.fails .pixels with
  | true =>
      apply Ends.stopped presenter.countReplaced
        ⟨.pixels, by simp [allocations, Submission.copyAllocations], pixels⟩
      · simp [region, copyPacked, storePixels, pixels, bind, Except.bind]
      · exact presenter.interrupted_countReplaced
  | false =>
      apply @ends_of_merge presenter
        { presenter.countReplaced with
          pending := packRows frame.bytes frame.stride.toNat
            (frame.width.toNat * bytesPerPixel frame.format) frame.height.toNat
          pendingFrame :=
            { data := dataOf false (packRows frame.bytes frame.stride.toNat
                (frame.width.toNat * bytesPerPixel frame.format) frame.height.toNat)
              width := frame.width
              height := frame.height
              stride := ((frame.width.toNat * bytesPerPixel frame.format : Nat) : Int)
              format := frame.format
              metadata := frame.metadata } }
        heap (.packed frame)
        fun merged =>
          { merged with
            pendingFrame.metadata.damage := merged.mergedDamage
            pendingKind := .packed
            pendingPalette := []
            pendingLifetime := none }
      · simp only [region, copyPacked, storePixels, pixels, Bool.false_eq_true, if_false]
        rfl
      · intro allocation member
        rw [List.mem_singleton.mp member]
        exact pixels
      · rw [presenter.countReplaced_eq]
      · intro merged
        rfl
      · intro valid damage supplied
        exact ⟨copies_packed frame _, rfl, (fun copied => by cases copied),
          (fun trusted => by cases trusted)⟩

theorem ends_indexed (presenter : Presenter) (heap : Heap) (frame : IndexedFrameView) :
    presenter.Ends heap (.indexed frame) := by
  cases pixels : heap.fails .pixels with
  | true =>
      apply Ends.stopped presenter.countReplaced
        ⟨.pixels, by simp [allocations, Submission.copyAllocations], pixels⟩
      · simp [region, copyIndexed, storePixels, pixels, bind, Except.bind]
      · exact presenter.interrupted_countReplaced
  | false =>
      cases palette : heap.fails .palette with
      | true =>
          apply Ends.stopped
            { presenter.countReplaced with
              pending := packRows frame.bytes frame.stride.toNat frame.width.toNat
                frame.height.toNat
              pendingPalette := heap.leftPalette }
            ⟨.palette, by simp [allocations, Submission.copyAllocations], palette⟩
          · simp [region, copyIndexed, storePixels, assignPalette, pixels, palette, bind,
              Except.bind]
          · refine ⟨?_, presenter.countReplaced_submittedFrames, rfl⟩
            rw [presenter.countReplaced_eq]
      | false =>
          apply @ends_of_merge presenter
            { presenter.countReplaced with
              pending := packRows frame.bytes frame.stride.toNat frame.width.toNat
                frame.height.toNat
              pendingPalette := frame.palette.entries
              pendingIndexedFrame :=
                { indices := dataOf false (packRows frame.bytes frame.stride.toNat frame.width.toNat
                    frame.height.toNat)
                  width := frame.width
                  height := frame.height
                  stride := (frame.width.toNat : Int)
                  palette := PaletteView.ofList frame.palette.entries
                  metadata := frame.metadata } }
            heap (.indexed frame)
            fun merged =>
              { merged with
                pendingIndexedFrame.metadata.damage := merged.mergedDamage
                pendingKind := .indexed
                pendingIndexedTrusted := true
                pendingLifetime := none }
          · simp only [region, copyIndexed, storePixels, assignPalette, pixels, palette,
              Bool.false_eq_true, if_false]
            rfl
          · intro allocation member
            rcases List.mem_cons.mp member with first | second
            · rw [first]
              exact pixels
            · rw [List.mem_singleton.mp second]
              exact palette
          · rw [presenter.countReplaced_eq]
          · intro merged
            rfl
          · intro valid damage supplied
            exact ⟨copies_indexed frame _, rfl, (fun copied => by cases copied),
              fun _ => ⟨Or.inl rfl, frame, rfl, valid⟩⟩

/-- A shared packed frame, on the caller's behalf or on an owned frame's. -/
theorem ends_sharePacked (presenter : Presenter) (heap : Heap) (shared : SharedFrameView)
    (ended : presenter.region heap submission = presenter.sharePacked heap shared)
    (frame : submission.frame = .packed shared.frame)
    (lifetime : submission.lifetime = shared.lifetime)
    (shares : submission.copyAllocations = [])
    (alive : submission.isValid = true → shared.lifetime.isSome = true) :
    presenter.Ends heap submission := by
  apply @ends_of_merge presenter
    { presenter.countReplaced with
      pending := []
      pendingPalette := []
      pendingFrame := shared.frame }
    heap submission
    fun merged =>
      { merged with
        pendingFrame.metadata.damage := merged.mergedDamage
        pendingLifetime := shared.lifetime
        pendingKind := .packed }
  · rw [ended, frame]
    rfl
  · simp [shares]
  · rw [presenter.countReplaced_eq]
  · intro merged
    rfl
  · intro valid damage supplied
    have held : shared.lifetime.isNone = false := by
      rw [← Option.not_isSome, alive valid]
      rfl
    apply Submission.carried_of_withDamage (DamageView.ofList damage supplied)
    · rw [frame]
      simp [consume, swapBuffers, handedFrame, held, Frame.withDamage, mergedDamage,
        renderingView]
    · exact lifetime.symm
    · exact fun trusted => by cases trusted

theorem ends_shareIndexed (presenter : Presenter) (heap : Heap) (shared : SharedIndexedFrameView)
    (trusted : Bool)
    (ended : presenter.region heap submission = presenter.shareIndexed heap shared trusted)
    (frame : submission.frame = .indexed shared.frame)
    (lifetime : submission.lifetime = shared.lifetime)
    (shares : submission.copyAllocations = [])
    (alive : submission.isValid = true → shared.lifetime.isSome = true)
    (checked : submission.isValid = true → trusted = true →
      submission.isOwned = true ∧ shared.frame.hasValidIndices = true) :
    presenter.Ends heap submission := by
  apply @ends_of_merge presenter
    { presenter.countReplaced with
      pending := []
      pendingPalette := []
      pendingIndexedFrame := shared.frame }
    heap submission
    fun merged =>
      { merged with
        pendingIndexedFrame.metadata.damage := merged.mergedDamage
        pendingLifetime := shared.lifetime
        pendingKind := .indexed
        pendingIndexedTrusted := trusted }
  · rw [ended, frame]
    rfl
  · simp [shares]
  · rw [presenter.countReplaced_eq]
  · intro merged
    rfl
  · intro valid damage supplied
    have held : shared.lifetime.isNone = false := by
      rw [← Option.not_isSome, alive valid]
      rfl
    apply Submission.carried_of_withDamage (DamageView.ofList damage supplied)
    · rw [frame]
      simp [consume, swapBuffers, handedFrame, held, Frame.withDamage, mergedDamage,
        renderingView]
    · exact lifetime.symm
    · intro taken
      have flag : trusted = true := taken
      obtain ⟨owned, valid⟩ := checked valid flag
      exact ⟨Or.inr owned, shared.frame, frame, valid⟩

/-- Every call's region is stopped by an allocation that fails, or accepts the frame. -/
theorem ends_region (presenter : Presenter) (heap : Heap) (submission : Submission) :
    presenter.Ends heap submission := by
  cases submission with
  | packed frame => exact presenter.ends_packed heap frame
  | indexed frame => exact presenter.ends_indexed heap frame
  | owned frame =>
      exact presenter.ends_sharePacked heap ⟨frame.view, some (.owned frame)⟩ rfl rfl rfl rfl
        fun _ => rfl
  | ownedIndexed frame =>
      exact presenter.ends_shareIndexed heap ⟨frame.view, some (.ownedIndexed frame)⟩ true rfl
        rfl rfl rfl (fun _ => rfl)
        fun valid _ => ⟨rfl, OwnedIndexedFrame.hasValidIndices_view valid⟩
  | shared shared =>
      apply presenter.ends_sharePacked heap shared rfl rfl rfl rfl
      intro valid
      simp only [Submission.isValid, SharedFrameView.isValid, Bool.and_eq_true] at valid
      exact valid.1
  | sharedIndexed shared =>
      apply presenter.ends_shareIndexed heap shared false rfl rfl rfl rfl
      · intro valid
        simp only [Submission.isValid, SharedIndexedFrameView.isValid, Bool.and_eq_true] at valid
        exact valid.1
      · exact fun _ taken => by cases taken

/-! ### Whole calls -/

/-- The ends of a `submit` call: accepted, stopped by a failed allocation, or refused
before its region. -/
inductive Submits (presenter : Presenter) (heap : Heap) (submission : Submission) :
    Presenter × Outcome → Prop where
  | accepted {after : Presenter} (entered : presenter.enters heap submission = true)
      (served : ∀ allocation ∈ presenter.allocations submission, heap.fails allocation = false)
      (accepted : presenter.Accepted submission after) :
      Submits presenter heap submission (after, .accepted presenter.dropped)
  | interrupted {answer : Presenter × Outcome}
      (entered : presenter.enters heap submission = true)
      (failed : ∃ allocation ∈ presenter.allocations submission, heap.fails allocation = true)
      (interrupted : presenter.Interrupted answer.1) (reported : answer.2.isAccepted = false) :
      Submits presenter heap submission answer
  | rejected (code : ErrorCode) (message : String)
      (refused : presenter.enters heap submission = false) :
      Submits presenter heap submission (presenter.rejectLocked code message, .refused)

theorem submits_enter (submission : Submission) {thrown : Presenter → Presenter × Outcome}
    (passed : ¬ (!submission.isValid) = true)
    (owner : (submission.isOwned && heap.fails .owner) = false)
    (leaves : ∀ left, presenter.Interrupted left →
      presenter.Interrupted (thrown left).1 ∧ (thrown left).2.isAccepted = false) :
    presenter.Submits heap submission
      (presenter.enter (presenter.region heap submission) thrown) := by
  have valid : submission.isValid = true := by simpa using passed
  unfold enter
  by_cases stopped : (!presenter.running || presenter.stopping) = true
  · rw [if_pos stopped]
    apply Submits.rejected
    unfold enters
    rw [valid, owner]
    cases running : presenter.running <;> cases stopping : presenter.stopping <;>
      simp_all
  · rw [if_neg stopped]
    have entered : presenter.enters heap submission = true := by
      unfold enters
      rw [valid, owner]
      simpa using stopped
    rcases presenter.ends_region heap submission with
      ⟨left, failed, ended, interrupted⟩ | ⟨after, served, ended, accepted⟩
    · rw [ended]
      obtain ⟨state, reported⟩ := leaves left interrupted
      exact .interrupted entered failed state reported
    · rw [ended]
      exact .accepted entered served (accepted valid)

theorem caught_enter (region : Region) (thrown : Presenter → Presenter × Outcome) :
    caught (presenter.enter region thrown) =
      presenter.enter region fun left => caught (thrown left) := by
  unfold enter
  split_ifs
  · rfl
  · cases region <;> rfl

/-- The `catch` clauses count and report only. -/
theorem Interrupted.of_noted {noted : Presenter} (interrupted : presenter.Interrupted left)
    (same : noted =
      { left with statistics := noted.statistics, latestStatus := noted.latestStatus })
    (submitted : noted.statistics.submittedFrames = presenter.statistics.submittedFrames)
    (replaced : noted.statistics.replacedFrames =
      presenter.countReplaced.statistics.replacedFrames) : presenter.Interrupted noted where
  rest := by
    rw [same, interrupted.rest]
  submitted := submitted
  replaced := replaced

private theorem leaves_outOfMemory (interrupted : presenter.Interrupted left) :
    presenter.Interrupted (outOfMemory left).1 ∧ (outOfMemory left).2.isAccepted = false :=
  ⟨interrupted.of_noted rfl interrupted.submitted interrupted.replaced, rfl⟩

private theorem leaves_threw (interrupted : presenter.Interrupted left) :
    presenter.Interrupted (left, Outcome.threw).1 ∧ (left, Outcome.threw).2.isAccepted = false :=
  ⟨interrupted, rfl⟩

private theorem leaves_caught (interrupted : presenter.Interrupted left) :
    presenter.Interrupted (caught (left, Outcome.threw)).1 ∧
      (caught (left, Outcome.threw)).2.isAccepted = false :=
  ⟨interrupted.of_noted rfl interrupted.submitted interrupted.replaced, rfl⟩

private theorem rejected_of_invalid (code : ErrorCode) (message : String)
    (invalid : (!submission.isValid) = true) :
    presenter.Submits heap submission (presenter.rejectLocked code message, .refused) := by
  rw [Bool.not_eq_true'] at invalid
  apply Submits.rejected
  simp [enters, invalid]

private theorem rejected_of_owner (owned : submission.isOwned = true)
    (failed : heap.fails .owner = true) :
    presenter.Submits heap submission (presenter.allocationFailure, .refused) := by
  apply Submits.rejected
  simp [enters, owned, failed]

/-- What every call to `submit` or `submitShared` does. -/
theorem submits_submit (presenter : Presenter) (heap : Heap) (submission : Submission) :
    presenter.Submits heap submission (presenter.submit heap submission) := by
  cases submission with
  | packed frame =>
      show presenter.Submits heap (.packed frame) (presenter.submitPacked heap frame)
      unfold submitPacked
      split_ifs with invalid
      · exact rejected_of_invalid _ _ invalid
      · exact submits_enter (.packed frame) invalid rfl
          fun left => leaves_outOfMemory
  | indexed frame =>
      show presenter.Submits heap (.indexed frame) (presenter.submitIndexed heap frame)
      unfold submitIndexed
      split_ifs with invalid
      · exact rejected_of_invalid _ _ invalid
      · exact submits_enter (.indexed frame) invalid rfl
          fun left => leaves_outOfMemory
  | owned frame =>
      show presenter.Submits heap (.owned frame) (presenter.submitOwned heap frame)
      unfold submitOwned
      split_ifs with invalid failed
      · exact rejected_of_invalid _ _ invalid
      · exact rejected_of_owner rfl failed
      · have shared :
            ¬ (!SharedFrameView.isValid ⟨frame.view, some (.owned frame)⟩) = true := by
          simp only [Bool.not_eq_true', Bool.not_eq_false] at invalid ⊢
          exact OwnedFrame.isValid_view invalid
        unfold submitShared
        rw [if_neg shared, caught_enter]
        exact submits_enter (.owned frame) invalid (Bool.eq_false_iff.mpr failed)
          fun left => leaves_caught
  | ownedIndexed frame =>
      show presenter.Submits heap (.ownedIndexed frame) (presenter.submitOwnedIndexed heap frame)
      unfold submitOwnedIndexed
      split_ifs with invalid failed
      · exact rejected_of_invalid _ _ invalid
      · exact rejected_of_owner rfl failed
      · have shared : ¬ (!frame.view.isValid) = true := by
          simp only [Bool.not_eq_true', Bool.not_eq_false] at invalid ⊢
          exact IndexedFrameView.isValid_of_hasValidIndices
            (OwnedIndexedFrame.hasValidIndices_view invalid)
        unfold submitSharedIndexed
        simp only [if_true, Option.isSome_some, Bool.true_and]
        rw [if_neg shared, caught_enter]
        exact submits_enter (.ownedIndexed frame) invalid
          (Bool.eq_false_iff.mpr failed) fun left => leaves_caught
  | shared shared =>
      show presenter.Submits heap (.shared shared) (presenter.submitShared heap shared)
      unfold submitShared
      split_ifs with invalid
      · exact rejected_of_invalid _ _ invalid
      · exact submits_enter (.shared shared) invalid rfl fun left => leaves_threw
  | sharedIndexed shared =>
      show presenter.Submits heap (.sharedIndexed shared)
        (presenter.submitSharedIndexed heap shared false)
      unfold submitSharedIndexed
      simp only [Bool.false_eq_true, if_false]
      split_ifs with invalid
      · exact rejected_of_invalid _ _ invalid
      · exact submits_enter (.sharedIndexed shared) invalid rfl
          fun left => leaves_threw

end Region

/-- A call that returns true has accepted the frame. -/
theorem accepted_of_isAccepted {presenter : Presenter} {heap : Heap} {submission : Submission}
    (returned : (presenter.submit heap submission).2.isAccepted = true) :
    presenter.Accepted submission (presenter.submit heap submission).1 := by
  have call := presenter.submits_submit heap submission
  generalize presenter.submit heap submission = answer at call returned
  cases call with
  | accepted entered served accepted => exact accepted
  | interrupted entered failed interrupted reported =>
      rw [reported] at returned
      cases returned
  | rejected code message refused => cases returned

theorem running_of_enters {presenter : Presenter} {heap : Heap} {submission : Submission}
    (entered : presenter.enters heap submission = true) :
    presenter.running = true ∧ presenter.stopping = false := by
  simp only [enters, Bool.and_eq_true, Bool.not_eq_true'] at entered
  exact ⟨entered.1.1.2, entered.1.2⟩

/-- The worker's second region counts an outcome and lets go of the frame. -/
theorem finish_eq (presenter : Presenter) (rendered : RenderStats) (engineStatus : Status) :
    presenter.finish rendered engineStatus =
      { presenter with
        statistics := (presenter.finish rendered engineStatus).statistics
        latestStatus := (presenter.finish rendered engineStatus).latestStatus
        renderingActive := false } := by
  unfold finish
  simp only
  split_ifs <;> rfl

/-- What a run starts from. -/
theorem initializeWith_of_succeeded {presenter : Presenter} {options : PresenterOptions}
    (succeeded : (presenter.initializeWith options {} {}).2.code = .none) :
    (presenter.initializeWith options {} {}).1 =
      { presenter with
        options := options
        statistics := {}
        pendingGeneration := 0
        consumedGeneration := 0
        stopping := false
        running := true
        renderingActive := false
        resetRequested := false
        latestStatus := {} } := by
  unfold initializeWith at succeeded ⊢
  by_cases invalid : (!options.isValid) = true
  · rw [if_pos invalid] at succeeded
    cases succeeded
  · rw [if_neg invalid]
    rfl

/-! ### Damage over a replacement -/

section Damage

variable {presenter : Presenter} {submission : Submission}

/-- Into an empty mailbox a submission brings its own damage. -/
theorem damageBefore_of_empty (submission : Submission) (empty : presenter.waiting = false) :
    (presenter.damageBefore submission).pendingDamage = [] ∧
      (presenter.damageBefore submission).pendingDamageSupplied =
        submission.frame.metadata.damage.supplied := by
  unfold damageBefore startDamage
  rw [empty]
  exact ⟨rfl, rfl⟩

/-- Damage is kept over a replacement if both frames supply it, at the same size. -/
theorem damageBefore_of_waiting (occupied : presenter.waiting = true)
    (supplied : (presenter.damageBefore submission).pendingDamageSupplied = true) :
    (presenter.damageBefore submission).pendingDamage = presenter.pendingDamage ∧
      presenter.pendingDamageSupplied = true ∧
      submission.frame.metadata.damage.supplied = true ∧
      presenter.waitingFrame.width = submission.frame.width ∧
      presenter.waitingFrame.height = submission.frame.height := by
  unfold damageBefore startDamage at supplied ⊢
  rw [occupied] at supplied ⊢
  simp only [Bool.not_true, Bool.false_eq_true, if_false] at supplied ⊢
  split_ifs at supplied ⊢ with dropped
  simp only [Bool.or_eq_true, Bool.not_eq_true', not_or, Bool.not_eq_false] at dropped
  obtain ⟨⟨compatible, kept⟩, given⟩ := dropped
  rw [compatibleDamage_eq, occupied] at compatible
  simp only [Bool.not_true, Bool.false_or, Bool.and_eq_true, beq_iff_eq] at compatible
  exact ⟨rfl, kept, given, compatible.1, compatible.2⟩

theorem damageAfter_of_supplied
    (supplied : (presenter.damageBefore submission).pendingDamageSupplied = true) :
    presenter.damageAfter submission =
      (presenter.damageBefore submission).pendingDamage ++
        submission.frame.metadata.damage.rects := by
  unfold damageAfter extendsDamage
  rw [supplied, Bool.true_and]
  split_ifs with extended
  · rfl
  · have none : submission.frame.metadata.damage.count = 0 := by simpa using extended
    have empty : submission.frame.metadata.damage.rects = [] := by
      unfold DamageView.rects
      rw [none]
      split <;> rfl
    rw [empty, List.append_nil]

end Damage

end Presenter

end Rasterm
