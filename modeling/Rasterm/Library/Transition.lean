import Mathlib.Logic.Relation

/-!
Contract: runs of labelled transition systems given by a partial step function,
and runs of total machines that answer every input.

Owns the invariant rules (from one step to a whole run, with and without a
condition on the labels) and the two-run rule: a relation between two machines
that every input preserves makes them answer alike for ever.

Does not own any concrete system.
-/

set_option autoImplicit false

universe u v w

namespace Transition

variable {State : Type u} {Label : Type v}

/-- The states a label sequence leads to, when every label is enabled. -/
inductive Run (step : Label → State → Option State) : State → List Label → State → Prop where
  | nil (state : State) : Run step state [] state
  | cons {state next final : State} {label : Label} {labels : List Label}
      (head : step label state = some next) (tail : Run step next labels final) :
      Run step state (label :: labels) final

/-- Executable form of `Run`. -/
def exec (step : Label → State → Option State) : List Label → State → Option State
  | [], state => some state
  | label :: labels, state => (step label state).bind (exec step labels)

/-- A condition on every step, evaluated along the labels. -/
def checks (step : Label → State → Option State) (allowed : Label → State → Bool) :
    List Label → State → Bool
  | [], _ => true
  | label :: labels, state =>
      allowed label state && (step label state).all (checks step allowed labels)

variable {step : Label → State → Option State}

theorem run_iff_exec {labels : List Label} {state final : State} :
    Run step state labels final ↔ exec step labels state = some final := by
  constructor
  · intro run
    induction run with
    | nil state => rfl
    | cons head _ inductionHypothesis => simp [exec, head, inductionHypothesis]
  · intro executed
    induction labels generalizing state with
    | nil =>
        simp only [exec, Option.some.injEq] at executed
        subst executed
        exact .nil _
    | cons label labels inductionHypothesis =>
        simp only [exec, Option.bind_eq_some_iff] at executed
        obtain ⟨next, head, tail⟩ := executed
        exact .cons head (inductionHypothesis tail)

/-- What was checked along the labels holds wherever a run takes one of them. -/
theorem allowed_of_checks {allowed : Label → State → Bool} {labels before after : List Label}
    {label : Label} {start state : State} (checked : checks step allowed labels start = true)
    (split : labels = before ++ label :: after) (run : Run step start before state) :
    allowed label state = true := by
  induction run generalizing labels with
  | nil state =>
      rw [split, List.nil_append, checks, Bool.and_eq_true] at checked
      exact checked.1
  | cons head _ inductionHypothesis =>
      rw [split, List.cons_append, checks, Bool.and_eq_true, head, Option.all_some] at checked
      exact inductionHypothesis checked.2 rfl

namespace Run

theorem snoc {start state final : State} {labels : List Label} {label : Label}
    (run : Run step start labels state) (last : step label state = some final) :
    Run step start (labels ++ [label]) final := by
  induction run with
  | nil state => exact .cons last (.nil _)
  | cons head _ inductionHypothesis => exact .cons head (inductionHypothesis last)

theorem trans {start middle final : State} {first second : List Label}
    (head : Run step start first middle) (tail : Run step middle second final) :
    Run step start (first ++ second) final := by
  induction head with
  | nil state => exact tail
  | cons taken _ inductionHypothesis => exact .cons taken (inductionHypothesis tail)

/-- Steps have one outcome: a run goes on from where its first part leads. -/
theorem rest {start middle final : State} {first second : List Label}
    (run : Run step start (first ++ second) final) (head : Run step start first middle) :
    Run step middle second final := by
  induction head with
  | nil state => exact run
  | @cons state next middle label labels taken _ inductionHypothesis =>
      cases run with
      | @cons _ other _ _ _ same tail =>
          rw [taken, Option.some.injEq] at same
          subst same
          exact inductionHypothesis tail

/-- Invariant rule: what every step allowed by `Allowed` preserves holds after
every run whose labels are allowed in the states where they are taken. -/
theorem invariant_of_allowed {Holds : State → Prop} {Allowed : Label → State → Prop}
    (preserved : ∀ label state next, step label state = some next → Allowed label state →
      Holds state → Holds next)
    {start final : State} {labels : List Label} (run : Run step start labels final)
    (allowed : ∀ before label after state, labels = before ++ label :: after →
      Run step start before state → Allowed label state)
    (initial : Holds start) : Holds final := by
  induction run with
  | nil state => exact initial
  | @cons state next final label labels head tail inductionHypothesis =>
      apply inductionHypothesis
      · intro before chosen after reached split prefixRun
        exact allowed (label :: before) chosen after reached (by simp [split])
          (.cons head prefixRun)
      · exact preserved label state next head
          (allowed [] label labels state rfl (.nil _)) initial

/-- Exact rule: where an allowed step keeps an invariant that carries a property, and any other
step loses the property, the runs that keep it throughout are those of allowed steps. -/
theorem throughout_iff {Holds Invariant : State → Prop} {Allowed : Label → State → Prop}
    (carries : ∀ state, Invariant state → Holds state)
    (preserved : ∀ label state next, step label state = some next → Allowed label state →
      Invariant state → Invariant next)
    (lost : ∀ label state next, step label state = some next → ¬ Allowed label state →
      Invariant state → ¬ Holds next)
    {start final : State} {labels : List Label} (run : Run step start labels final)
    (initial : Invariant start) :
    (∀ before after state, labels = before ++ after → Run step start before state → Holds state) ↔
      (∀ before label after state, labels = before ++ label :: after →
        Run step start before state → Allowed label state) := by
  constructor
  · intro throughout
    induction run with
    | nil state =>
        intro before label after reached split
        exact absurd split (by simp)
    | @cons state next final head rest taken tail inductionHypothesis =>
        have reached : Holds next := throughout [head] rest next rfl (.cons taken (.nil next))
        have allowed : Allowed head state := Classical.byContradiction fun refused =>
          lost head state next taken refused initial reached
        have later := inductionHypothesis (preserved head state next taken allowed initial)
          fun before after reached split prefixRun =>
            throughout (head :: before) after reached (by simp [split]) (.cons taken prefixRun)
        intro before label after reached split prefixRun
        cases prefixRun with
        | nil state =>
            rw [List.nil_append, List.cons.injEq] at split
            exact split.1 ▸ allowed
        | @cons _ other _ _ labels same tail =>
            rw [List.cons_append, List.cons.injEq] at split
            obtain ⟨rfl, split⟩ := split
            rw [taken, Option.some.injEq] at same
            subst same
            exact later labels label after reached split tail
  · intro allowed before after state split prefixRun
    apply carries
    apply prefixRun.invariant_of_allowed preserved _ initial
    intro first label second reached inner reachedRun
    exact allowed first label (second ++ after) reached (by simp [split, inner]) reachedRun

/-- Invariant rule: what every step preserves holds after every run. -/
theorem invariant {Holds : State → Prop}
    (preserved : ∀ label state next, step label state = some next → Holds state → Holds next)
    {start final : State} {labels : List Label} (run : Run step start labels final)
    (initial : Holds start) : Holds final :=
  @invariant_of_allowed State Label step Holds (fun _ _ => True)
    (fun label state next taken _ => preserved label state next taken)
    start final labels run (fun _ _ _ _ _ _ => trivial) initial

/-- Invariant rule: what every step with an allowed label preserves holds after every
run of allowed labels. -/
theorem invariant_of_labels {Holds : State → Prop} {Allowed : Label → Prop}
    (preserved : ∀ label state next, step label state = some next → Allowed label →
      Holds state → Holds next)
    {start final : State} {labels : List Label} (run : Run step start labels final)
    (allowed : ∀ label ∈ labels, Allowed label) (initial : Holds start) : Holds final := by
  induction run with
  | nil state => exact initial
  | @cons state next final label labels head tail inductionHypothesis =>
      apply inductionHypothesis
      · intro later member
        exact allowed later (List.mem_cons_of_mem label member)
      · exact preserved label state next head (allowed label List.mem_cons_self) initial

/-- Termination rule: a measure that every allowed step lowers bounds the runs. -/
theorem length_le {Holds : State → Prop} {Allowed : Label → Prop} {measure : State → Nat}
    (lowers : ∀ label state next, step label state = some next → Allowed label → Holds state →
      Holds next ∧ measure next < measure state)
    {start final : State} {labels : List Label} (run : Run step start labels final)
    (allowed : ∀ label ∈ labels, Allowed label) (initial : Holds start) :
    labels.length ≤ measure start := by
  induction run with
  | nil state => exact Nat.zero_le _
  | @cons state next final label labels head tail inductionHypothesis =>
      obtain ⟨holds, lower⟩ := lowers label state next head (allowed label List.mem_cons_self)
        initial
      have bound := inductionHypothesis
        (fun later member => allowed later (List.mem_cons_of_mem label member)) holds
      rw [List.length_cons]
      omega

end Run

end Transition

namespace Machine

variable {State : Type u} {Input : Type v} {Output : Type w}

/-- Feed a total machine a list of inputs; the answers come back in order. -/
def feed (step : Input → State → Output × State) : List Input → State → List Output × State
  | [], state => ([], state)
  | input :: inputs, state =>
      let (output, next) := step input state
      let (outputs, final) := feed step inputs next
      (output :: outputs, final)

variable {step : Input → State → Output × State}

@[simp] theorem feed_nil (state : State) : feed step [] state = ([], state) := rfl

@[simp] theorem feed_cons (input : Input) (inputs : List Input) (state : State) :
    feed step (input :: inputs) state =
      ((step input state).1 :: (feed step inputs (step input state).2).1,
        (feed step inputs (step input state).2).2) := rfl

/-- Two-run rule: a relation that every input of `Admitted` preserves, and under
which the answers agree, makes the answers of the two runs agree. -/
theorem feed_related {Related : State → State → Prop} {Admitted : Input → Prop}
    (same : ∀ input left right, Admitted input → Related left right →
      (step input left).1 = (step input right).1 ∧
        Related (step input left).2 (step input right).2)
    (inputs : List Input) (admitted : ∀ input ∈ inputs, Admitted input)
    {left right : State} (related : Related left right) :
    (feed step inputs left).1 = (feed step inputs right).1 ∧
      Related (feed step inputs left).2 (feed step inputs right).2 := by
  induction inputs generalizing left right with
  | nil => exact ⟨rfl, related⟩
  | cons input inputs inductionHypothesis =>
      obtain ⟨answers, next⟩ := same input left right (admitted input (by simp)) related
      obtain ⟨rest, final⟩ :=
        inductionHypothesis (fun later member => admitted later (by simp [member])) next
      exact ⟨by simp [answers, rest], final⟩

end Machine
