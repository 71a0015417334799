import Mathlib.Tactic.Common

/-!
Contract: what has happened, as a list with the newest event first.

Owns properties of every event in view of the older ones, and flags: a flag is raised by
some events, lowered by others, and shows what the newest of these did.
-/

set_option autoImplicit false

universe u

namespace History

variable {Entry : Type u}

/-- Every event has the property, in view of the older ones. -/
def Everywhere (property : Entry → List Entry → Prop) (history : List Entry) : Prop :=
  ∀ newer entry older, history = newer ++ entry :: older → property entry older

variable {property : Entry → List Entry → Prop} {entry : Entry} {history : List Entry}

theorem everywhere_nil : Everywhere property [] := by
  intro newer entry older split
  exact absurd split (by simp)

theorem everywhere_cons :
    Everywhere property (entry :: history) ↔
      property entry history ∧ Everywhere property history := by
  constructor
  · intro everywhere
    constructor
    · exact everywhere [] entry history rfl
    · intro newer other older split
      apply everywhere (entry :: newer) other older
      rw [split, List.cons_append]
  · rintro ⟨here, earlier⟩ newer other older split
    cases newer with
    | nil =>
        rw [List.nil_append, List.cons.injEq] at split
        rw [← split.1, ← split.2]
        exact here
    | cons first rest =>
        rw [List.cons_append, List.cons.injEq] at split
        exact earlier rest other older split.2

/-- What holds of a history holds of the histories it continues. -/
theorem Everywhere.of_append {newer : List Entry}
    (everywhere : Everywhere property (newer ++ history)) : Everywhere property history := by
  intro later other older split
  apply everywhere (newer ++ later) other older
  rw [split, List.append_assoc]

/-! ### Flags -/

/-- Whether the newest event that moves the flag raises it. -/
def flag (effect : Entry → Option Bool) : List Entry → Bool
  | [] => false
  | entry :: older => (effect entry).getD (flag effect older)

variable {effect : Entry → Option Bool} {raising lowering : Entry} {since earlier : List Entry}

/-- A flag that was raised and is down has been lowered since. -/
theorem lowered_since (down : flag effect (since ++ raising :: earlier) = false)
    (raises : effect raising = some true) :
    ∃ later lowering first, since = later ++ lowering :: first ∧
      effect lowering = some false := by
  induction since with
  | nil =>
      rw [List.nil_append, flag, raises] at down
      cases down
  | cons newest rest inductionHypothesis =>
      rw [List.cons_append, flag] at down
      cases moved : effect newest with
      | none =>
          rw [moved] at down
          obtain ⟨later, lowering, first, split, lowers⟩ := inductionHypothesis down
          exact ⟨newest :: later, lowering, first, by rw [split, List.cons_append], lowers⟩
      | some raised =>
          rw [moved] at down
          cases raised with
          | false => exact ⟨[], newest, rest, rfl, moved⟩
          | true => cases down

/-- A flag that was lowered and is up has been raised since. -/
theorem raised_since (up : flag effect (since ++ lowering :: earlier) = true)
    (lowers : effect lowering = some false) :
    ∃ entry ∈ since, effect entry = some true := by
  induction since with
  | nil =>
      rw [List.nil_append, flag, lowers] at up
      cases up
  | cons newest rest inductionHypothesis =>
      rw [List.cons_append, flag] at up
      cases moved : effect newest with
      | none =>
          rw [moved] at up
          obtain ⟨entry, member, raises⟩ := inductionHypothesis up
          exact ⟨entry, List.mem_cons_of_mem _ member, raises⟩
      | some raised =>
          rw [moved] at up
          cases raised with
          | false => cases up
          | true => exact ⟨newest, List.mem_cons_self, moved⟩

/-- A flag that is up was raised by an event after which nothing has moved it. -/
theorem raised_of_flag (up : flag effect history = true) :
    ∃ since raising earlier, history = since ++ raising :: earlier ∧
      effect raising = some true ∧ ∀ entry ∈ since, effect entry = none := by
  induction history with
  | nil => cases up
  | cons newest rest inductionHypothesis =>
      rw [flag] at up
      cases moved : effect newest with
      | none =>
          rw [moved] at up
          obtain ⟨since, raising, earlier, split, raises, still⟩ := inductionHypothesis up
          refine ⟨newest :: since, raising, earlier, by rw [split, List.cons_append], raises, ?_⟩
          intro entry member
          rcases List.mem_cons.mp member with rfl | later
          · exact moved
          · exact still entry later
      | some raised =>
          rw [moved] at up
          cases raised with
          | false => cases up
          | true =>
            exact ⟨[], newest, rest, rfl, moved, fun _ member => absurd member List.not_mem_nil⟩

end History
