import Mathlib.Data.List.Basic
import Mathlib.Algebra.Order.Ring.Int

/-!
Contract: programs whose arithmetic and whose reads are checked.

A checked program computes as the plain one does, and stops with a fault where a value
leaves the range of its type or a read leaves the buffer.

Owns:
- `Range`, the values a type of integers holds, and `Range.eval`;
- `readAt`, and the pass over a list that stops at the first failure;
- when a checked program is the plain one, and where a pass stops.

Does not own: any program, or the width of any type.
-/

set_option autoImplicit false

namespace Checked

/-- Why a checked program stopped. -/
inductive Fault where
  | outOfRange
  | outOfBounds
deriving DecidableEq, Repr

@[simp] theorem ok_bind {α β : Type} (value : α) (next : α → Except Fault β) :
    (Except.ok value >>= next) = next value := rfl

/-- An early exit of both, and what follows it. -/
theorem ite_ok_eq {α : Type} {refused : Prop} [Decidable refused] {program : Except Fault α}
    {early late : α} (rest : ¬ refused → program = .ok late) :
    (if refused then .ok early else program) = .ok (if refused then early else late) := by
  split_ifs with exits
  · rfl
  · exact rest exits

/-- The values of a type of integers. -/
structure Range where
  least : Int
  greatest : Int

namespace Range

/-- The type has the value. -/
def Holds (range : Range) (value : Int) : Prop := range.least ≤ value ∧ value ≤ range.greatest

instance (range : Range) (value : Int) : Decidable (range.Holds value) := by
  unfold Holds
  infer_instance

/-- The value of an expression of the type. -/
def eval (range : Range) (value : Int) : Except Fault Int :=
  if range.Holds value then .ok value else .error .outOfRange

theorem eval_of_holds {range : Range} {value : Int} (holds : range.Holds value) :
    range.eval value = .ok value :=
  if_pos holds

/-- An expression the type has the value of does not stop the program. -/
theorem eval_bind {α : Type} {range : Range} {value : Int} (holds : range.Holds value)
    (next : Int → Except Fault α) : (range.eval value >>= next) = next value := by
  rw [eval_of_holds holds]
  rfl

/-- A value between zero and one that the type has. -/
theorem holds_of_le {range : Range} {value bound : Int} (signed : range.least ≤ 0)
    (holds : range.Holds bound) (nonneg : 0 ≤ value) (le : value ≤ bound) : range.Holds value :=
  ⟨signed.trans nonneg, le.trans holds.2⟩

end Range

/-- A division of something by something positive stays below it. -/
theorem ediv_le_of_pos {value divisor : Int} (nonneg : 0 ≤ value) (positive : 0 < divisor) :
    0 ≤ value / divisor ∧ value / divisor ≤ value :=
  ⟨Int.ediv_nonneg nonneg positive.le, Int.ediv_le_self divisor nonneg⟩

/-! ### Reads -/

section Reads

variable {α : Type}

/-- The element of a buffer at an offset. -/
def readAt (buffer : List α) (offset : Nat) : Except Fault α :=
  match buffer[offset]? with
  | some value => .ok value
  | none => .error .outOfBounds

theorem readAt_of_lt {buffer : List α} {offset : Nat} (inside : offset < buffer.length)
    (fallback : α) : readAt buffer offset = .ok (buffer.getD offset fallback) := by
  unfold readAt
  rw [List.getD_eq_getElem?_getD, List.getElem?_eq_getElem inside]
  rfl

theorem readAt_of_le {buffer : List α} {offset : Nat} (outside : buffer.length ≤ offset) :
    readAt buffer offset = .error .outOfBounds := by
  unfold readAt
  rw [List.getElem?_eq_none outside]

end Reads

/-! ### Passes -/

section Passes

variable {α : Type} {check : α → Except Fault Bool} {accepts : α → Bool}

/-- The elements in order until one is refused. -/
def all (check : α → Except Fault Bool) : List α → Except Fault Bool
  | [] => .ok true
  | element :: rest =>
      check element >>= fun accepted => if accepted then all check rest else .ok false

@[simp] theorem all_nil : all check [] = .ok true := rfl

theorem all_cons_ok {element : α} {rest : List α} {accepted : Bool}
    (evaluated : check element = .ok accepted) :
    all check (element :: rest) = if accepted then all check rest else .ok false := by
  rw [all, evaluated]
  rfl

theorem all_cons_error {element : α} {rest : List α} {fault : Fault}
    (stopped : check element = .error fault) :
    all check (element :: rest) = .error fault := by
  rw [all, stopped]
  rfl

/-- A pass without faults is the plain one. -/
theorem all_eq {elements : List α}
    (plain : ∀ element ∈ elements, check element = .ok (accepts element)) :
    all check elements = .ok (elements.all accepts) := by
  induction elements with
  | nil => rfl
  | cons element rest inductionHypothesis =>
      rw [all_cons_ok (plain element List.mem_cons_self), List.all_cons]
      cases accepts element with
      | false => rfl
      | true =>
          exact inductionHypothesis fun other member => plain other (List.mem_cons_of_mem _ member)

/-- A pass that ends says what the plain one says, if each check does. -/
theorem eq_all_of_ok {elements : List α} {verdict : Bool}
    (agrees : ∀ element ∈ elements, ∀ accepted, check element = .ok accepted →
      accepted = accepts element)
    (done : all check elements = .ok verdict) : verdict = elements.all accepts := by
  induction elements with
  | nil => exact (Except.ok.inj done).symm
  | cons element rest inductionHypothesis =>
      have after : ∀ other ∈ rest, ∀ accepted, check other = .ok accepted →
          accepted = accepts other :=
        fun other member => agrees other (List.mem_cons_of_mem _ member)
      cases evaluated : check element with
      | error fault =>
          rw [all_cons_error evaluated] at done
          exact absurd done (by simp)
      | ok accepted =>
          rw [all_cons_ok evaluated] at done
          rw [List.all_cons, ← agrees element List.mem_cons_self accepted evaluated]
          cases accepted with
          | false => exact (Except.ok.inj done).symm
          | true => exact inductionHypothesis after done

/-- A pass that accepts has accepted everything. -/
theorem forall_of_all {elements : List α} (accepted : all check elements = .ok true) :
    ∀ element ∈ elements, check element = .ok true := by
  induction elements with
  | nil => exact fun element member => absurd member List.not_mem_nil
  | cons element rest inductionHypothesis =>
      cases evaluated : check element with
      | error fault =>
          rw [all_cons_error evaluated] at accepted
          exact absurd accepted (by simp)
      | ok verdict =>
          rw [all_cons_ok evaluated] at accepted
          split_ifs at accepted with sound
          · rw [sound] at evaluated
            exact List.forall_mem_cons.mpr ⟨evaluated, inductionHypothesis accepted⟩
          · exact absurd accepted (by simp)

/-- A fault of a pass is one of its checks'. -/
theorem exists_error_of_all {elements : List α} {fault : Fault}
    (stopped : all check elements = .error fault) :
    ∃ element ∈ elements, check element = .error fault := by
  induction elements with
  | nil => exact absurd stopped (by simp)
  | cons element rest inductionHypothesis =>
      cases evaluated : check element with
      | error other =>
          rw [all_cons_error evaluated] at stopped
          exact ⟨element, List.mem_cons_self, evaluated.trans stopped⟩
      | ok accepted =>
          rw [all_cons_ok evaluated] at stopped
          split_ifs at stopped
          obtain ⟨later, member, found⟩ := inductionHypothesis stopped
          exact ⟨later, List.mem_cons_of_mem _ member, found⟩

/-- A pass that refuses meets something to refuse. -/
theorem exists_refused_of_all {elements : List α} (refused : all check elements = .ok false) :
    ∃ element ∈ elements, check element = .ok false := by
  induction elements with
  | nil => exact absurd refused (by simp)
  | cons element rest inductionHypothesis =>
      cases evaluated : check element with
      | error fault =>
          rw [all_cons_error evaluated] at refused
          exact absurd refused (by simp)
      | ok accepted =>
          cases accepted with
          | false => exact ⟨element, List.mem_cons_self, evaluated⟩
          | true =>
              rw [all_cons_ok evaluated] at refused
              obtain ⟨later, member, found⟩ := inductionHypothesis refused
              exact ⟨later, List.mem_cons_of_mem _ member, found⟩

/-- Where nothing is refused after a fault, something to refuse is met before one. -/
theorem all_eq_false_of_refused {elements : List α}
    (order : elements.Pairwise fun earlier later =>
      ∀ fault, check earlier = .error fault → check later ≠ .ok false)
    {refused : α} (member : refused ∈ elements) (found : check refused = .ok false) :
    all check elements = .ok false := by
  induction elements with
  | nil => exact absurd member List.not_mem_nil
  | cons element rest inductionHypothesis =>
      obtain ⟨first, later⟩ := List.pairwise_cons.mp order
      rcases List.mem_cons.mp member with rfl | after
      · rw [all_cons_ok found]
        rfl
      · cases evaluated : check element with
        | error fault => exact absurd found (first refused after fault evaluated)
        | ok accepted =>
            rw [all_cons_ok evaluated]
            split_ifs
            · exact inductionHypothesis later after
            · rfl

end Passes

end Checked
