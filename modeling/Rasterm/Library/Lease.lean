import Mathlib.Data.List.Induction
import Mathlib.Tactic.Common

/-!
Contract: settings that one of many parties takes over at a time and gives back as it
found them.

Owns the lease as a machine of its own, what it takes to hold it, and the history rule
behind it: what holds now and did not at first was established by some call, and every
call since has kept it.

Does not own what the settings are, or what else a party does with them.
-/

set_option autoImplicit false

universe u v

/-! ### Histories of total steps -/

namespace Established

variable {State : Type u} {Label : Type v} {perform : State → Label → State}

/-- History rule: the newest call that established what holds in the end. -/
theorem since {Holds : State → Prop} {Starts : State → Label → Prop} {Keeps : Label → Prop}
    {start : State} {labels : List Label}
    (step : ∀ (before : List Label) (label : Label), Holds (perform (before.foldl perform start) label) →
      Starts (before.foldl perform start) label ∨
        (Holds (before.foldl perform start) ∧ Keeps label))
    (initially : ¬ Holds start) (holds : Holds (labels.foldl perform start)) :
    ∃ before label later, labels = before ++ label :: later ∧
      Starts (before.foldl perform start) label ∧ ∀ kept ∈ later, Keeps kept := by
  induction labels using List.reverseRecOn with
  | nil => exact absurd holds initially
  | append_singleton labels last inductionHypothesis =>
      rw [List.foldl_append] at holds
      rcases step labels last holds with starts | ⟨held, keeps⟩
      · exact ⟨labels, last, [], rfl, starts, fun _ member => absurd member (by simp)⟩
      · obtain ⟨before, label, later, split, starts, kept⟩ := inductionHypothesis held
        refine ⟨before, label, later ++ [last], by simp [split], starts, ?_⟩
        intro call member
        rcases List.mem_append.mp member with earlier | newest
        · exact kept call earlier
        · rw [List.mem_singleton.mp newest]
          exact keeps

end Established

/-! ### The lease -/

/-- The settings as they are, and who holds them with what it found. -/
structure Lease (Id : Type u) (Settings : Type v) where
  settings : Settings
  holder : Option (Id × Settings) := none

namespace Lease

variable {Id : Type u} {Settings : Type v}

inductive Request (Id : Type u) (Settings : Type v) where
  /-- With the settings of the new holder, unless it fails. -/
  | take (self : Id) (taken : Option Settings)
  | giveBack (self : Id)
  /-- The settings change, whoever holds them. -/
  | adjust (settings : Settings)

/-- Who asks. -/
def Request.party : Request Id Settings → Option Id
  | take self _ => some self
  | giveBack self => some self
  | adjust _ => none

variable [DecidableEq Id]

def giveBack (lease : Lease Id Settings) (self : Id) : Lease Id Settings :=
  match lease.holder with
  | some (owner, found) => if owner = self then { settings := found } else lease
  | none => lease

def take (lease : Lease Id Settings) (self : Id) (taken : Option Settings) : Lease Id Settings :=
  let returned := lease.giveBack self
  match returned.holder, taken with
  | none, some settings => { settings := settings, holder := some (self, returned.settings) }
  | _, _ => returned

def serve (lease : Lease Id Settings) : Request Id Settings → Lease Id Settings
  | .take self taken => lease.take self taken
  | .giveBack self => lease.giveBack self
  | .adjust settings => { lease with settings := settings }

variable {lease : Lease Id Settings} {self owner : Id} {found : Settings}

@[simp] theorem take_none : lease.take self none = lease.giveBack self := by
  simp only [take]
  split
  · rename_i taken
    cases taken
  · rfl

theorem take_of_free {settings : Settings} (free : (lease.giveBack self).holder = none) :
    lease.take self (some settings) =
      { settings := settings, holder := some (self, (lease.giveBack self).settings) } := by
  simp only [take, free]

/-- Who gives back does not hold, and another holder goes on. -/
theorem holder_giveBack (held : (lease.giveBack self).holder = some (owner, found)) :
    lease.holder = some (owner, found) ∧ owner ≠ self := by
  unfold giveBack at held
  split at held
  · rename_i other kept holder
    split_ifs at held with same
    rw [holder, Option.some.injEq, Prod.mk.injEq] at held
    obtain ⟨rfl, rfl⟩ := held
    exact ⟨holder, same⟩
  · rename_i free
    rw [free] at held
    cases held

/-- What gives the holder its settings back. -/
theorem settings_giveBack (held : lease.holder = some (self, found)) :
    lease.giveBack self = { settings := found } := by
  unfold giveBack
  rw [held]
  exact if_pos rfl

/-- A holder took the lease with this request, or has it from before and did not ask. -/
theorem holder_serve {request : Request Id Settings}
    (held : (lease.serve request).holder = some (owner, found)) :
    (∃ settings, request = .take owner (some settings) ∧
        (lease.giveBack owner).settings = found) ∨
      (lease.holder = some (owner, found) ∧ request.party ≠ some owner) := by
  cases request with
  | take self taken =>
      simp only [serve, take] at held
      split at held
      · rename_i settings free
        simp only [Option.some.injEq, Prod.mk.injEq] at held
        obtain ⟨rfl, rfl⟩ := held
        exact Or.inl ⟨settings, rfl, rfl⟩
      · obtain ⟨holder, other⟩ := holder_giveBack held
        exact Or.inr ⟨holder, fun same => other (Option.some.inj same).symm⟩
  | giveBack self =>
      obtain ⟨holder, other⟩ := holder_giveBack held
      exact Or.inr ⟨holder, fun same => other (Option.some.inj same).symm⟩
  | adjust settings => exact Or.inr ⟨held, by simp [Request.party]⟩

/-! ### Settings nobody else adjusts -/

/-- The settings are `found`, or their holder gives them back. -/
structure Keeps (found : Settings) (lease : Lease Id Settings) : Prop where
  free : lease.holder = none → lease.settings = found
  held : ∀ owner kept, lease.holder = some (owner, kept) → kept = found

theorem Keeps.giveBack (keeps : lease.Keeps found) (self : Id) :
    (lease.giveBack self).Keeps found := by
  unfold Lease.giveBack
  split
  · rename_i owner kept held
    split_ifs
    · exact ⟨fun _ => keeps.held owner kept held, fun _ _ none => by cases none⟩
    · exact keeps
  · exact keeps

theorem Keeps.take (keeps : lease.Keeps found) (self : Id) (taken : Option Settings) :
    (lease.take self taken).Keeps found := by
  have returned := keeps.giveBack self
  simp only [Lease.take]
  split
  · rename_i settings free
    refine ⟨fun none => (by cases none), fun owner kept held => ?_⟩
    simp only [Option.some.injEq, Prod.mk.injEq] at held
    rw [← held.2]
    exact returned.free free
  · exact returned

end Lease
