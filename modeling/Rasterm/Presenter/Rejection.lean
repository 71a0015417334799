import Rasterm.Presenter.Submission

/-!
Contract: what a submission that is not accepted leaves of the mailbox.

Owns the comparison of two states as the worker sees them, and the exact condition
under which a refused call changes nothing in it: an allocation that fails inside the
region is noticed there only while no frame waits.
-/

set_option autoImplicit false

namespace Rasterm

namespace Presenter

/-- The worker cannot tell the two states apart, and neither can the frame counts. -/
structure Unseen (before after : Presenter) : Prop where
  next : after.next = before.next
  submitted : after.statistics.submittedFrames = before.statistics.submittedFrames
  replaced : after.statistics.replacedFrames = before.statistics.replacedFrames
  pendingGeneration : after.pendingGeneration = before.pendingGeneration
  consumedGeneration : after.consumedGeneration = before.consumedGeneration

variable {presenter left : Presenter}

theorem unseen_rejectLocked (presenter : Presenter) (code : ErrorCode) (message : String) :
    presenter.Unseen (presenter.rejectLocked code message) :=
  ⟨rfl, rfl, rfl, rfl, rfl⟩

/-- With nothing waiting there is nothing an interrupted region could have spoiled. -/
theorem Interrupted.unseen (interrupted : presenter.Interrupted left)
    (empty : presenter.waiting = false) : presenter.Unseen left where
  next := by
    have still : left.waiting = false := by
      rw [interrupted.rest]
      exact empty
    rw [next, next, still, empty]
    rfl
  submitted := interrupted.submitted
  replaced := by
    rw [interrupted.replaced, countReplaced, empty]
    rfl
  pendingGeneration := by rw [interrupted.rest]
  consumedGeneration := by rw [interrupted.rest]

/-- The waiting frame has been counted as replaced, and nothing replaces it. -/
theorem Interrupted.seen (interrupted : presenter.Interrupted left)
    (occupied : presenter.waiting = true) : ¬ presenter.Unseen left := by
  intro unseen
  have counted := interrupted.replaced
  rw [unseen.replaced, countReplaced, if_pos occupied] at counted
  simp at counted

/-- A call that does not return true goes unnoticed, except when an allocation of its
region fails while a frame waits. -/
theorem unseen_submit_iff (presenter : Presenter) (heap : Heap) (submission : Submission) :
    ((presenter.submit heap submission).2.isAccepted = false →
        presenter.Unseen (presenter.submit heap submission).1) ↔
      ¬ (presenter.waiting = true ∧ presenter.enters heap submission = true ∧
        ∃ allocation ∈ presenter.allocations submission, heap.fails allocation = true) := by
  have call := presenter.submits_submit heap submission
  generalize presenter.submit heap submission = answer at call
  cases call with
  | accepted entered served accepted =>
      constructor
      · rintro - ⟨-, -, allocation, member, fails⟩
        rw [served allocation member] at fails
        cases fails
      · intro _ reported
        cases reported
  | interrupted entered failed interrupted reported =>
      constructor
      · rintro unseen ⟨occupied, -, -⟩
        exact interrupted.seen occupied (unseen reported)
      · intro condition _
        apply interrupted.unseen
        rw [Bool.eq_false_iff]
        intro occupied
        exact condition ⟨occupied, entered, failed⟩
  | rejected code message refused =>
      constructor
      · rintro - ⟨-, entered, -⟩
        rw [refused] at entered
        cases entered
      · intro _ _
        exact presenter.unseen_rejectLocked code message

/-- A packed frame of two pixels waits. -/
def twoWaiting : Presenter :=
  ((({} : Presenter).initializeWith {} {} {}).1.submit {}
    (.packed
      { data := dataOf false [10, 20, 30, 40, 50, 60], width := 2, height := 1, stride := 6 })).1

/-- An indexed frame that comes when there is no room for its palette. -/
def paletteFails : Presenter × Outcome :=
  twoWaiting.submit { fails := fun allocation => allocation = .palette }
    (.indexed
      { indices := dataOf false [0], width := 1, height := 1, stride := 1
        palette := PaletteView.ofList [⟨1, 2, 3⟩] })

/-- The refused frame is counted as having replaced the one that waits, which is left
with its own size and format over the refused frame's bytes. -/
theorem seen_after_paletteFails :
    paletteFails.2.isAccepted = false ∧ ¬ twoWaiting.Unseen paletteFails.1 ∧
      twoWaiting.next.map (fun handed => (handed.frame.width, handed.frame.texel 0 0)) =
        some (2, .packed .rgb24 [10, 20, 30]) ∧
      paletteFails.1.next.map (fun handed => (handed.frame.width, handed.frame.texel 0 0)) =
        some (2, .packed .rgb24 [0, 0, 0]) :=
  ⟨by decide, fun unseen => absurd unseen.replaced (by decide), by decide, by decide⟩

end Presenter

end Rasterm
