import Mathlib.Data.Fintype.Card
import Mathlib.Data.Finset.Card
import Mathlib.Logic.Function.Basic
import Mathlib.Tactic.Common

/-!
Contract: threads that draw numbers from one counter, each of them until it draws a
number that is no longer wanted.

Owns what holds in every interleaving: a number is drawn once, its work is begun once
and ended once, and the counter passes the last wanted number by at most one for each
thread.

Does not own when a thread takes part, nor what the work is.
-/

set_option autoImplicit false

universe u

namespace Tickets

variable {Thread : Type u}

/-! ### Counting threads -/

section Counting

variable [Fintype Thread]

/-- How many threads have a property. -/
def howMany (property : Thread → Bool) : Nat :=
  (Finset.univ.filter fun thread => property thread = true).card

/-- One thread counted apart from the others. -/
private theorem howMany_eq [DecidableEq Thread] (property : Thread → Bool) (thread : Thread) :
    howMany property = (if property thread = true then 1 else 0) +
      ((Finset.univ.erase thread).filter fun other => property other = true).card := by
  rw [howMany, ← Finset.insert_erase (Finset.mem_univ thread), Finset.filter_insert]
  split_ifs
  · rw [Finset.card_insert_of_notMem (by simp), Nat.add_comm, Finset.erase_insert (by simp)]
  · rw [Nat.zero_add, Finset.erase_insert (by simp)]

/-- When one thread changes, the count changes with it. -/
theorem howMany_update [DecidableEq Thread] (property : Thread → Bool) (thread : Thread)
    (value : Bool) :
    howMany (Function.update property thread value) + (if property thread = true then 1 else 0) =
      howMany property + if value = true then 1 else 0 := by
  have others : ((Finset.univ.erase thread).filter fun other =>
        Function.update property thread value other = true) =
      (Finset.univ.erase thread).filter fun other => property other = true := by
    apply Finset.filter_congr
    intro other member
    rw [Function.update_of_ne (Finset.ne_of_mem_erase member)]
  rw [howMany_eq property thread, howMany_eq (Function.update property thread value) thread, others,
    Function.update_self]
  omega

theorem howMany_le (property : Thread → Bool) : howMany property ≤ Fintype.card Thread :=
  Finset.card_le_univ _

theorem howMany_eq_zero_iff {property : Thread → Bool} :
    howMany property = 0 ↔ ∀ thread, property thread = false := by
  simp [howMany, Finset.filter_eq_empty_iff]

theorem howMany_true : howMany (fun _ : Thread => true) = Fintype.card Thread := by
  simp [howMany]

end Counting

/-! ### Numbers -/

/-- Where a thread is in drawing numbers. -/
inductive Stage where
  /-- Without a number; it may draw one. -/
  | free
  /-- With a number, whose work it has begun or not. -/
  | claimed (number : Int) (begun : Bool)
  /-- It has drawn a number that is not wanted. -/
  | through
deriving DecidableEq, Repr

/-- The thread has passed the last wanted number. -/
def Stage.past (wanted : Int) : Stage → Bool
  | free => false
  | claimed number _ => wanted ≤ number
  | through => true

theorem Stage.past_free (wanted : Int) : Stage.free.past wanted ≠ true := Bool.false_ne_true

theorem Stage.past_claimed {wanted number : Int} {begun : Bool} :
    (Stage.claimed number begun).past wanted = true ↔ wanted ≤ number := by
  simp [Stage.past]

theorem Stage.past_through (wanted : Int) : Stage.through.past wanted = true := rfl

/-- What holds of every thread holds of one of them and of the others. -/
private theorem forall_apart (property : Thread → Prop) (thread : Thread) :
    (∀ other, property other) ↔ property thread ∧ ∀ other, other ≠ thread → property other := by
  constructor
  · intro every
    exact ⟨every thread, fun other _ => every other⟩
  · rintro ⟨own, others⟩ other
    by_cases same : other = thread
    · rwa [same]
    · exact others other same

/-- Only the thread that moves changes its stage. -/
private theorem forall_update [DecidableEq Thread] (property : Stage → Prop)
    (stages : Thread → Stage) (thread : Thread) (stage : Stage) :
    (∀ other, property (Function.update stages thread stage other)) ↔
      property stage ∧ ∀ other, other ≠ thread → property (stages other) := by
  rw [forall_apart _ thread, Function.update_self]
  apply and_congr_right'
  apply forall₂_congr
  intro other different
  rw [Function.update_of_ne different]

private theorem stage_update [DecidableEq Thread] {stages : Thread → Stage} {thread other : Thread}
    {stage held : Stage} (after : Function.update stages thread stage other = held) :
    other = thread ∧ stage = held ∨ other ≠ thread ∧ stages other = held := by
  by_cases same : other = thread
  · subst same
    rw [Function.update_self] at after
    exact Or.inl ⟨rfl, after⟩
  · rw [Function.update_of_ne same] at after
    exact Or.inr ⟨same, after⟩

/-- How many threads have passed the last wanted number, before and after one moves. -/
private theorem past_update [Fintype Thread] [DecidableEq Thread] (wanted : Int)
    (stages : Thread → Stage) (thread : Thread) (stage : Stage) :
    (howMany fun other => (Function.update stages thread stage other).past wanted) +
        (if (stages thread).past wanted = true then 1 else 0) =
      (howMany fun other => (stages other).past wanted) +
        if stage.past wanted = true then 1 else 0 := by
  rw [← howMany_update (fun other => (stages other).past wanted) thread (stage.past wanted)]
  congr
  funext other
  by_cases same : other = thread
  · subst same
    rw [Function.update_self, Function.update_self]
  · rw [Function.update_of_ne same, Function.update_of_ne same]

/-- The account of the numbers below `wanted`: whose work was begun, and whose was ended, how
often. -/
structure Drawn [Fintype Thread] (wanted counter : Int) (stages : Thread → Stage)
    (begun ended : Int → Nat) : Prop where
  counter_nonneg : 0 ≤ counter
  counter_le : counter ≤ max 0 wanted + howMany fun thread => (stages thread).past wanted
  claimed : ∀ thread number started, stages thread = .claimed number started →
    0 ≤ number ∧ number < counter ∧ (started = true → number < wanted)
  distinct : ∀ thread other number started otherStarted,
    stages thread = .claimed number started → stages other = .claimed number otherStarted →
      thread = other
  through : ∀ thread, stages thread = .through → wanted ≤ counter
  begun_eq : ∀ number, begun number =
    if 0 ≤ number ∧ number < wanted ∧ number < counter ∧
        ∀ thread, stages thread ≠ .claimed number false then 1 else 0
  ended_eq : ∀ number, ended number =
    if 0 ≤ number ∧ number < wanted ∧ number < counter ∧
        ∀ thread started, stages thread ≠ .claimed number started then 1 else 0

namespace Drawn

variable [Fintype Thread] {wanted counter : Int} {stages : Thread → Stage}
  {begun ended : Int → Nat} {thread : Thread} {number : Int}

/-- Nobody has drawn anything. -/
theorem start (wanted : Int) :
    Drawn wanted 0 (fun _ : Thread => .free) (fun _ => 0) (fun _ => 0) where
  counter_nonneg := le_refl 0
  counter_le := by
    have reach : (0 : Int) ≤ max 0 wanted := le_max_left 0 wanted
    omega
  claimed := fun _ _ _ held => by cases held
  distinct := fun _ _ _ _ _ held => by cases held
  through := fun _ held => by cases held
  begun_eq := fun number => by
    rw [if_neg]
    omega
  ended_eq := fun number => by
    rw [if_neg]
    omega

variable [DecidableEq Thread]

/-- The next number is drawn. -/
theorem draw (drawn : Drawn wanted counter stages begun ended) (free : stages thread = .free) :
    Drawn wanted (counter + 1) (Function.update stages thread (.claimed counter false)) begun
      ended := by
  have nonneg := drawn.counter_nonneg
  -- whoever held a number before holds an older one
  have older : ∀ other started, stages other ≠ .claimed counter started := by
    intro other started claim
    have below := (drawn.claimed other counter started claim).2.1
    omega
  refine ⟨by omega, ?_, ?_, ?_, ?_, ?_, ?_⟩
  · have bound := drawn.counter_le
    have moved := past_update wanted stages thread (.claimed counter false)
    rw [free, if_neg (Stage.past_free wanted)] at moved
    have reach : wanted ≤ max 0 wanted := le_max_right 0 wanted
    by_cases beyond : wanted ≤ counter
    · rw [if_pos (Stage.past_claimed.mpr beyond)] at moved
      omega
    · omega
  · intro other held started claim
    rcases stage_update claim with ⟨-, same⟩ | ⟨-, claim⟩
    · cases same
      exact ⟨nonneg, by omega, fun impossible => by cases impossible⟩
    · have earlier := drawn.claimed other held started claim
      exact ⟨earlier.1, by omega, earlier.2.2⟩
  · intro first second held started otherStarted firstClaim secondClaim
    rcases stage_update firstClaim with ⟨firstEq, same⟩ | ⟨-, firstClaim⟩
    · rcases stage_update secondClaim with ⟨secondEq, -⟩ | ⟨-, secondClaim⟩
      · rw [firstEq, secondEq]
      · cases same
        exact absurd secondClaim (older second otherStarted)
    · rcases stage_update secondClaim with ⟨-, same⟩ | ⟨-, secondClaim⟩
      · cases same
        exact absurd firstClaim (older first started)
      · exact drawn.distinct first second held started otherStarted firstClaim secondClaim
  · intro other passed
    rcases stage_update passed with ⟨-, same⟩ | ⟨-, passed⟩
    · cases same
    · have earlier := drawn.through other passed
      omega
  · intro held
    rw [drawn.begun_eq held]
    apply if_congr _ rfl rfl
    rw [forall_update (· ≠ .claimed held false), forall_apart _ thread, free]
    by_cases same : held = counter
    · subst same
      simp
    · have sameRange : held < counter + 1 ↔ held < counter := by omega
      have differs : Stage.claimed counter false ≠ .claimed held false := by
        simp [Ne.symm same]
      rw [sameRange]
      simp [differs]
  · intro held
    rw [drawn.ended_eq held]
    apply if_congr _ rfl rfl
    rw [forall_update (fun stage => ∀ started, stage ≠ .claimed held started),
      forall_apart _ thread, free]
    by_cases same : held = counter
    · subst same
      simp
    · have sameRange : held < counter + 1 ↔ held < counter := by omega
      have differs : ∀ started, Stage.claimed counter false ≠ .claimed held started := by
        simp [Ne.symm same]
      rw [sameRange]
      simp [differs]

/-- A thread that goes on with its own number, or gives it up, leaves numbers distinct. -/
private theorem distinct_update (drawn : Drawn wanted counter stages begun ended) {stage : Stage}
    (own : ∀ held started, stage = .claimed held started →
      ∃ before, stages thread = .claimed held before) :
    ∀ first second held started otherStarted,
      Function.update stages thread stage first = .claimed held started →
        Function.update stages thread stage second = .claimed held otherStarted →
          first = second := by
  have held_before : ∀ {other held started},
      Function.update stages thread stage other = .claimed held started →
        ∃ before, stages other = .claimed held before := by
    intro other held started claim
    rcases stage_update claim with ⟨rfl, same⟩ | ⟨-, claim⟩
    · exact own held started same
    · exact ⟨started, claim⟩
  intro first second held started otherStarted firstClaim secondClaim
  obtain ⟨firstBefore, firstClaim⟩ := held_before firstClaim
  obtain ⟨secondBefore, secondClaim⟩ := held_before secondClaim
  exact drawn.distinct first second held firstBefore secondBefore firstClaim secondClaim

omit [DecidableEq Thread] in
/-- No other thread holds the number of this one. -/
private theorem others_ne (drawn : Drawn wanted counter stages begun ended) {started : Bool}
    (claim : stages thread = .claimed number started) :
    ∀ other, other ≠ thread → ∀ otherStarted, stages other ≠ .claimed number otherStarted := by
  intro other different otherStarted otherClaim
  exact different (drawn.distinct other thread number otherStarted started otherClaim claim)

/-- The work of a wanted number is begun. -/
theorem begin_work (drawn : Drawn wanted counter stages begun ended)
    (claim : stages thread = .claimed number false) (inside : number < wanted) :
    Drawn wanted counter (Function.update stages thread (.claimed number true))
      (Function.update begun number (begun number + 1)) ended := by
  have own := drawn.claimed thread number false claim
  have others := drawn.others_ne claim
  refine ⟨drawn.counter_nonneg, ?_, ?_, ?_, ?_, ?_, ?_⟩
  · have bound := drawn.counter_le
    have moved := past_update wanted stages thread (.claimed number true)
    have before : ¬ Stage.past wanted (.claimed number false) = true := by
      rw [Stage.past_claimed]
      omega
    have after : ¬ Stage.past wanted (.claimed number true) = true := by
      rw [Stage.past_claimed]
      omega
    rw [claim, if_neg before, if_neg after] at moved
    omega
  · intro other held started after
    rcases stage_update after with ⟨-, same⟩ | ⟨-, after⟩
    · cases same
      exact ⟨own.1, own.2.1, fun _ => inside⟩
    · exact drawn.claimed other held started after
  · apply drawn.distinct_update
    intro held started same
    cases same
    exact ⟨false, claim⟩
  · intro other passed
    rcases stage_update passed with ⟨-, same⟩ | ⟨-, passed⟩
    · cases same
    · exact drawn.through other passed
  · intro held
    by_cases same : held = number
    · subst same
      rw [Function.update_self, drawn.begun_eq held, if_neg, if_pos]
      · refine ⟨own.1, inside, own.2.1, ?_⟩
        rw [forall_update (· ≠ .claimed held false)]
        exact ⟨by simp, fun other different => others other different false⟩
      · rintro ⟨-, -, -, none⟩
        exact none thread claim
    · rw [Function.update_of_ne same, drawn.begun_eq held]
      apply if_congr _ rfl rfl
      rw [forall_update (· ≠ .claimed held false), forall_apart _ thread, claim]
      simp [Ne.symm same]
  · intro held
    rw [drawn.ended_eq held]
    apply if_congr _ rfl rfl
    rw [forall_update (fun stage => ∀ started, stage ≠ .claimed held started),
      forall_apart _ thread, claim]
    by_cases same : held = number
    · subst same
      simp
    · simp [Ne.symm same]

/-- The work of a number is ended. -/
theorem end_work (drawn : Drawn wanted counter stages begun ended)
    (claim : stages thread = .claimed number true) :
    Drawn wanted counter (Function.update stages thread .free) begun
      (Function.update ended number (ended number + 1)) := by
  have own := drawn.claimed thread number true claim
  have inside := own.2.2 rfl
  have others := drawn.others_ne claim
  refine ⟨drawn.counter_nonneg, ?_, ?_, ?_, ?_, ?_, ?_⟩
  · have bound := drawn.counter_le
    have moved := past_update wanted stages thread .free
    have before : ¬ Stage.past wanted (.claimed number true) = true := by
      rw [Stage.past_claimed]
      omega
    rw [claim, if_neg before, if_neg (Stage.past_free wanted)] at moved
    omega
  · intro other held started after
    rcases stage_update after with ⟨-, same⟩ | ⟨-, after⟩
    · cases same
    · exact drawn.claimed other held started after
  · apply drawn.distinct_update
    intro held started same
    cases same
  · intro other passed
    rcases stage_update passed with ⟨-, same⟩ | ⟨-, passed⟩
    · cases same
    · exact drawn.through other passed
  · intro held
    rw [drawn.begun_eq held]
    apply if_congr _ rfl rfl
    rw [forall_update (· ≠ .claimed held false), forall_apart _ thread, claim]
    simp
  · intro held
    by_cases same : held = number
    · subst same
      rw [Function.update_self, drawn.ended_eq held, if_neg, if_pos]
      · refine ⟨own.1, inside, own.2.1, ?_⟩
        rw [forall_update (fun stage => ∀ started, stage ≠ .claimed held started)]
        exact ⟨by simp, others⟩
      · rintro ⟨-, -, -, none⟩
        exact none thread true claim
    · rw [Function.update_of_ne same, drawn.ended_eq held]
      apply if_congr _ rfl rfl
      rw [forall_update (fun stage => ∀ started, stage ≠ .claimed held started),
        forall_apart _ thread, claim]
      simp [Ne.symm same]

/-- A number that is not wanted ends the drawing of its thread. -/
theorem pass (drawn : Drawn wanted counter stages begun ended)
    (claim : stages thread = .claimed number false) (beyond : wanted ≤ number) :
    Drawn wanted counter (Function.update stages thread .through) begun ended := by
  have own := drawn.claimed thread number false claim
  refine ⟨drawn.counter_nonneg, ?_, ?_, ?_, ?_, ?_, ?_⟩
  · have bound := drawn.counter_le
    have moved := past_update wanted stages thread .through
    rw [claim, if_pos (Stage.past_claimed.mpr beyond), if_pos (Stage.past_through wanted)] at moved
    omega
  · intro other held started after
    rcases stage_update after with ⟨-, same⟩ | ⟨-, after⟩
    · cases same
    · exact drawn.claimed other held started after
  · apply drawn.distinct_update
    intro held started same
    cases same
  · intro other passed
    rcases stage_update passed with ⟨-, -⟩ | ⟨-, passed⟩
    · omega
    · exact drawn.through other passed
  · intro held
    rw [drawn.begun_eq held]
    apply if_congr _ rfl rfl
    rw [forall_update (· ≠ .claimed held false), forall_apart _ thread, claim]
    by_cases same : held = number
    · subst same
      simp [not_lt_of_ge beyond]
    · simp [Ne.symm same]
  · intro held
    rw [drawn.ended_eq held]
    apply if_congr _ rfl rfl
    rw [forall_update (fun stage => ∀ started, stage ≠ .claimed held started),
      forall_apart _ thread, claim]
    by_cases same : held = number
    · subst same
      simp [not_lt_of_ge beyond]
    · simp [Ne.symm same]

omit [DecidableEq Thread] in
/-- When the counter has passed every wanted number and nobody holds one, the work of each was
begun once and ended once. -/
theorem complete (drawn : Drawn wanted counter stages begun ended) (passed : wanted ≤ counter)
    (none : ∀ thread number started, stages thread ≠ .claimed number started) (number : Int) :
    begun number = (if 0 ≤ number ∧ number < wanted then 1 else 0) ∧
      ended number = if 0 ≤ number ∧ number < wanted then 1 else 0 := by
  rw [drawn.begun_eq, drawn.ended_eq]
  constructor
  · apply if_congr _ rfl rfl
    constructor
    · rintro ⟨nonneg, inside, -⟩
      exact ⟨nonneg, inside⟩
    · rintro ⟨nonneg, inside⟩
      exact ⟨nonneg, inside, by omega, fun thread => none thread number false⟩
  · apply if_congr _ rfl rfl
    constructor
    · rintro ⟨nonneg, inside, -⟩
      exact ⟨nonneg, inside⟩
    · rintro ⟨nonneg, inside⟩
      exact ⟨nonneg, inside, by omega, fun thread started => none thread number started⟩

end Drawn

end Tickets
