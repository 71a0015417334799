import Mathlib.Data.List.Perm.Basic
import Mathlib.Tactic.Common

/-!
Contract: a mailbox that holds one item, told from its history.

A history is the list of what happened, newest first. Owns what is in the mailbox
after a history, what has become of every item that was put in (taken, replaced by a
newer one, discarded, or still waiting), that these are all the items put in and no
others, and that items are taken in the order they came.

Does not own who puts and who takes, nor how an item is stored.
-/

set_option autoImplicit false

universe u

namespace Mailbox

inductive Event (Item : Type u) where
  | put (item : Item)
  | take
  | discard

variable {Item : Type u}

/-- The item in the mailbox. -/
def slot : List (Event Item) → Option Item
  | .put item :: _ => some item
  | _ => none

def puts : List (Event Item) → List Item
  | [] => []
  | .put item :: older => item :: puts older
  | _ :: older => puts older

def taken : List (Event Item) → List Item
  | [] => []
  | .take :: older => (slot older).toList ++ taken older
  | _ :: older => taken older

def replaced : List (Event Item) → List Item
  | [] => []
  | .put _ :: older => (slot older).toList ++ replaced older
  | _ :: older => replaced older

def discarded : List (Event Item) → List Item
  | [] => []
  | .discard :: older => (slot older).toList ++ discarded older
  | _ :: older => discarded older

variable {history : List (Event Item)} {item : Item}

/-- What waits is what came last. -/
theorem head_puts (waits : slot history = some item) : (puts history).head? = some item := by
  cases history with
  | nil => cases waits
  | cons event older =>
      cases event with
      | put first => exact waits
      | take => cases waits
      | discard => cases waits

/-- Every item that came has become one thing, and nothing else has been anywhere. -/
theorem fates_perm (history : List (Event Item)) :
    ((slot history).toList ++ taken history ++ replaced history ++ discarded history).Perm
      (puts history) := by
  induction history with
  | nil => exact List.Perm.refl _
  | cons event older inductionHypothesis =>
      cases event with
      | put item =>
          have moved :
              (taken older ++ ((slot older).toList ++ replaced older) ++ discarded older).Perm
                ((slot older).toList ++ taken older ++ replaced older ++ discarded older) := by
            apply List.Perm.append_right
            rw [List.append_assoc]
            exact List.perm_append_comm_assoc _ _ _
          exact (moved.trans inductionHypothesis).cons item
      | take =>
          simpa only [slot, taken, replaced, discarded, puts, Option.toList_none, List.nil_append,
            List.append_assoc] using inductionHypothesis
      | discard =>
          refine List.Perm.trans ?_ inductionHypothesis
          simp only [slot, taken, replaced, discarded, Option.toList_none, List.nil_append,
            List.append_assoc]
          apply List.Perm.trans _ (List.perm_append_comm_assoc _ _ _)
          apply List.Perm.append_left
          exact List.perm_append_comm_assoc _ _ _

theorem length_puts (history : List (Event Item)) :
    (puts history).length = (taken history).length + (replaced history).length +
      (discarded history).length + (slot history).toList.length := by
  rw [← (fates_perm history).length_eq]
  simp only [List.length_append]
  omega

/-- Items are taken in the order they came, each at most once. -/
theorem taken_sublist (history : List (Event Item)) :
    ((slot history).toList ++ taken history).Sublist (puts history) := by
  induction history with
  | nil => exact List.Sublist.refl _
  | cons event older inductionHypothesis =>
      have earlier : (taken older).Sublist (puts older) :=
        (List.sublist_append_right _ _).trans inductionHypothesis
      cases event with
      | put item => exact earlier.cons_cons item
      | take => exact inductionHypothesis
      | discard => exact earlier

end Mailbox
