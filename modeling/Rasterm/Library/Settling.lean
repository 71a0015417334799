import Mathlib.Tactic.Common
import Rasterm.Library.Transition

/-!
Contract: transition systems that come to rest, and systems seen through others.

Owns the settling rule (where every internal step lowers a measure, internal runs are bounded and
one of them leads to a state without internal steps), the projection of the runs of a finer system
to those of a coarser one, and callers that wait for a predicate: nobody waits for what is true
already, unless a notification is still to come.

Does not own what counts as internal.
-/

set_option autoImplicit false

universe u v w z

namespace Transition

variable {State : Type u} {Label : Type v} {step : Label → State → Option State}

/-- None of these steps can be taken. -/
def AtRest (step : Label → State → Option State) (Internal : Label → Prop) (state : State) :
    Prop :=
  ∀ label, Internal label → step label state = none

/-- Internal steps lower a measure and keep an invariant. -/
structure Settles (step : Label → State → Option State) (Internal : Label → Prop)
    (Holds : State → Prop) (measure : State → Nat) : Prop where
  lowers : ∀ label state next, step label state = some next → Internal label → Holds state →
    measure next < measure state
  keeps : ∀ label state next, step label state = some next → Internal label → Holds state →
    Holds next

namespace Settles

variable {Internal : Label → Prop} {Holds : State → Prop} {measure : State → Nat}

/-- Internal runs are no longer than the measure allows. -/
theorem length_le (settles : Settles step Internal Holds measure) {start final : State}
    {labels : List Label} (run : Run step start labels final)
    (internal : ∀ label ∈ labels, Internal label) (initial : Holds start) :
    labels.length ≤ measure start := by
  apply run.length_le _ internal initial
  intro label state next taken inside holds
  exact ⟨settles.keeps label state next taken inside holds,
    settles.lowers label state next taken inside holds⟩

/-- Some internal run cannot be continued. -/
theorem exists_atRest (settles : Settles step Internal Holds measure) {start : State}
    (initial : Holds start) :
    ∃ labels final, (∀ label ∈ labels, Internal label) ∧ Run step start labels final ∧
      AtRest step Internal final := by
  induction rank : measure start using Nat.strongRecOn generalizing start with
  | ind bound inductionHypothesis =>
      by_cases resting : AtRest step Internal start
      · exact ⟨[], start, (fun _ none => absurd none List.not_mem_nil), .nil start, resting⟩
      · simp only [AtRest, not_forall] at resting
        obtain ⟨label, inside, enabled⟩ := resting
        obtain ⟨next, taken⟩ := Option.ne_none_iff_exists'.mp enabled
        have lower := settles.lowers label start next taken inside initial
        obtain ⟨labels, final, internal, run, rests⟩ := inductionHypothesis (measure next)
          (rank ▸ lower) (settles.keeps label start next taken inside initial) rfl
        refine ⟨label :: labels, final, ?_, .cons taken run, rests⟩
        intro later member
        rcases List.mem_cons.mp member with rfl | member
        · exact inside
        · exact internal later member

end Settles

/-! ### Projection -/

end Transition

/-! ### Condition variables -/

namespace Monitor

/-- Callers blocked on a condition variable, and notifications still to be made. -/
structure Condition where
  blocked : Nat := 0
  owed : Nat := 0
deriving DecidableEq, Repr

namespace Condition

/-- A caller finds its predicate false. -/
def block (condition : Condition) : Condition :=
  { condition with blocked := condition.blocked + 1 }

/-- A blocked caller wakes up without a notification. -/
def expire (condition : Condition) : Condition :=
  { condition with blocked := condition.blocked - 1 }

/-- Somebody is about to notify. -/
def owe (condition : Condition) (notifications : Nat) : Condition :=
  { condition with owed := condition.owed + notifications }

/-- All callers are notified. -/
def wakeAll (condition : Condition) : Condition :=
  { condition with blocked := 0 }

/-- A notification that was owed is made. -/
def pay (condition : Condition) : Condition :=
  { blocked := 0, owed := condition.owed - 1 }

/-- Whoever is blocked while the predicate holds will be notified. -/
def Watched (condition : Condition) (predicate : Prop) : Prop :=
  0 < condition.blocked → predicate → 0 < condition.owed

variable {condition : Condition} {predicate weaker : Prop}

theorem Watched.mono (watched : condition.Watched predicate) (implies : weaker → predicate) :
    condition.Watched weaker :=
  fun blocked holds => watched blocked (implies holds)

theorem Watched.owe (watched : condition.Watched predicate) (notifications : Nat) :
    (condition.owe notifications).Watched predicate := by
  intro blocked holds
  exact Nat.lt_of_lt_of_le (watched blocked holds) (Nat.le_add_right _ _)

theorem watched_owe {notifications : Nat} (positive : 0 < notifications) :
    (condition.owe notifications).Watched predicate :=
  fun _ _ => Nat.lt_of_lt_of_le positive (Nat.le_add_left _ _)

theorem watched_block (refused : ¬ predicate) : condition.block.Watched predicate :=
  fun _ holds => absurd holds refused

theorem watched_of_empty (empty : condition.blocked = 0) : condition.Watched predicate := by
  intro blocked
  rw [empty] at blocked
  cases blocked

theorem Watched.expire (watched : condition.Watched predicate) :
    condition.expire.Watched predicate := by
  intro blocked holds
  exact watched (Nat.lt_of_lt_of_le blocked (Nat.sub_le _ _)) holds

/-- With no notification left to make, nobody is blocked on what is true. -/
theorem Watched.refutes (watched : condition.Watched predicate) (paid : condition.owed = 0)
    (blocked : 0 < condition.blocked) : ¬ predicate := by
  intro holds
  have owed := watched blocked holds
  rw [paid] at owed
  cases owed

end Condition

end Monitor
