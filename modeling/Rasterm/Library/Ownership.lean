import Mathlib.Logic.Function.Basic

/-!
Contract: heap storage with one owner for each buffer.

A handle is what a vector holds: no storage, or the identity of a buffer. Identities are
never used twice.

Owns:
- allocation, release, the transfer of a buffer to another owner and writing it anew;
- what an operation on the buffer of one owner leaves to the others.

Does not own who holds a handle, or pointers into a buffer that outlive it.
-/

set_option autoImplicit false

namespace Ownership

structure Buffer (Owner α : Type) where
  owner : Owner
  elements : List α

structure Heap (Owner α : Type) where
  buffers : Nat → Option (Buffer Owner α) := fun _ => none
  next : Nat := 0

namespace Heap

variable {Owner α : Type}

/-! ### Operations -/

/-- The elements a handle stands for. -/
def contents (heap : Heap Owner α) (handle : Option Nat) : List α :=
  match handle.bind heap.buffers with
  | some buffer => buffer.elements
  | none => []

/-- Storage for the elements; none is taken for none. -/
def allocate (heap : Heap Owner α) (owner : Owner) (elements : List α) :
    Heap Owner α × Option Nat :=
  if elements.isEmpty then (heap, none)
  else
    ({ buffers := Function.update heap.buffers heap.next (some ⟨owner, elements⟩)
       next := heap.next + 1 }, some heap.next)

/-- Put something in the place of a buffer. -/
def set (heap : Heap Owner α) (handle : Option Nat) (buffer : Option (Buffer Owner α)) :
    Heap Owner α :=
  match handle with
  | some id => { heap with buffers := Function.update heap.buffers id buffer }
  | none => heap

def release (heap : Heap Owner α) (handle : Option Nat) : Heap Owner α := heap.set handle none

/-- Write the elements over those of a buffer. -/
def overwrite (heap : Heap Owner α) (handle : Option Nat) (owner : Owner) (elements : List α) :
    Heap Owner α :=
  heap.set handle (some ⟨owner, elements⟩)

/-- Hand a buffer over to another owner. -/
def give (heap : Heap Owner α) (handle : Option Nat) (owner : Owner) : Heap Owner α :=
  heap.overwrite handle owner (heap.contents handle)

/-! ### Ownership -/

/-- Identities from `next` on have not been used. -/
def Fresh (heap : Heap Owner α) : Prop := ∀ id, heap.next ≤ id → heap.buffers id = none

/-- The buffer of a handle is live and belongs to the owner. -/
def Owns (heap : Heap Owner α) (owner : Owner) (handle : Option Nat) : Prop :=
  ∀ id, handle = some id → ∃ elements, heap.buffers id = some ⟨owner, elements⟩

/-- The buffers of an owner are as they were. -/
structure Keeps (owner : Owner) (before after : Heap Owner α) : Prop where
  next_le : before.next ≤ after.next
  buffers : ∀ id elements, before.buffers id = some ⟨owner, elements⟩ →
    after.buffers id = some ⟨owner, elements⟩

theorem Keeps.refl (owner : Owner) (heap : Heap Owner α) : Keeps owner heap heap :=
  ⟨Nat.le_refl _, fun _ _ found => found⟩

theorem Keeps.trans {owner : Owner} {first second third : Heap Owner α}
    (head : Keeps owner first second) (tail : Keeps owner second third) :
    Keeps owner first third :=
  ⟨Nat.le_trans head.next_le tail.next_le, fun id elements found =>
    tail.buffers id elements (head.buffers id elements found)⟩

theorem Owns.of_keeps {owner : Owner} {before after : Heap Owner α} {handle : Option Nat}
    (owned : before.Owns owner handle) (keeps : Keeps owner before after) :
    after.Owns owner handle := by
  intro id held
  obtain ⟨elements, found⟩ := owned id held
  exact ⟨elements, keeps.buffers id elements found⟩

theorem owns_none (heap : Heap Owner α) (owner : Owner) : heap.Owns owner none := by
  intro id held
  exact absurd held (by simp)

theorem fresh_empty : Fresh ({} : Heap Owner α) := fun _ _ => rfl

/-- A live buffer has an identity that has been used. -/
theorem Fresh.lt_next {heap : Heap Owner α} (fresh : heap.Fresh) {id : Nat}
    {buffer : Buffer Owner α} (found : heap.buffers id = some buffer) : id < heap.next := by
  by_contra unused
  rw [fresh id (Nat.le_of_not_lt unused)] at found
  exact absurd found (by simp)

theorem Fresh.lt_of_owns {heap : Heap Owner α} (fresh : heap.Fresh) {owner : Owner} {id : Nat}
    (owned : heap.Owns owner (some id)) : id < heap.next := by
  obtain ⟨elements, found⟩ := owned id rfl
  exact fresh.lt_next found

/-- Two owners have no buffer in common. -/
theorem Owns.ne {heap : Heap Owner α} {left right : Owner} {first second : Nat}
    (leftOwned : heap.Owns left (some first)) (rightOwned : heap.Owns right (some second))
    (apart : left ≠ right) : first ≠ second := by
  rintro rfl
  obtain ⟨elements, found⟩ := leftOwned first rfl
  obtain ⟨others, same⟩ := rightOwned first rfl
  rw [found, Option.some.injEq, Buffer.mk.injEq] at same
  exact apart same.1

/-! ### Allocation -/

@[simp] theorem allocate_nil (heap : Heap Owner α) (owner : Owner) :
    heap.allocate owner [] = (heap, none) := rfl

theorem allocate_of_ne {heap : Heap Owner α} {owner : Owner} {elements : List α}
    (some : elements ≠ []) :
    heap.allocate owner elements =
      ({ buffers := Function.update heap.buffers heap.next (.some ⟨owner, elements⟩)
         next := heap.next + 1 }, .some heap.next) := by
  unfold allocate
  rw [if_neg (by simpa using some)]

theorem fresh_allocate {heap : Heap Owner α} (fresh : heap.Fresh) (owner : Owner)
    (elements : List α) : (heap.allocate owner elements).1.Fresh := by
  by_cases empty : elements = []
  · rw [empty]
    exact fresh
  · rw [allocate_of_ne empty]
    intro id unused
    have used : heap.next + 1 ≤ id := unused
    dsimp only
    rw [Function.update_of_ne (by omega)]
    exact fresh id (by omega)

theorem keeps_allocate {heap : Heap Owner α} (fresh : heap.Fresh) (keeper owner : Owner)
    (elements : List α) : Keeps keeper heap (heap.allocate owner elements).1 := by
  by_cases empty : elements = []
  · rw [empty]
    exact .refl keeper heap
  · rw [allocate_of_ne empty]
    refine ⟨Nat.le_succ _, fun id kept found => ?_⟩
    have used := fresh.lt_next found
    dsimp only
    rw [Function.update_of_ne (by omega)]
    exact found

theorem owns_allocate (heap : Heap Owner α) (owner : Owner) (elements : List α) :
    (heap.allocate owner elements).1.Owns owner (heap.allocate owner elements).2 := by
  by_cases empty : elements = []
  · rw [empty]
    exact owns_none heap owner
  · rw [allocate_of_ne empty]
    rintro id held
    cases held
    exact ⟨elements, Function.update_self ..⟩

/-- The handle of an allocation is new. -/
theorem le_of_allocate {heap : Heap Owner α} {owner : Owner} {elements : List α} {id : Nat}
    (held : (heap.allocate owner elements).2 = some id) : heap.next ≤ id := by
  by_cases empty : elements = []
  · rw [empty] at held
    exact absurd held (by simp)
  · rw [allocate_of_ne empty] at held
    exact Nat.le_of_eq (Option.some.inj held)

/-! ### Buffers put in place -/

theorem fresh_set {heap : Heap Owner α} (fresh : heap.Fresh) {owner : Owner} {handle : Option Nat}
    (owned : heap.Owns owner handle) (buffer : Option (Buffer Owner α)) :
    (heap.set handle buffer).Fresh := by
  cases handle with
  | none => exact fresh
  | some id =>
      have used := fresh.lt_of_owns owned
      intro other unused
      have above : heap.next ≤ other := unused
      unfold set
      dsimp only
      rw [Function.update_of_ne (by omega)]
      exact fresh other above

@[simp] theorem next_set (heap : Heap Owner α) (handle : Option Nat)
    (buffer : Option (Buffer Owner α)) : (heap.set handle buffer).next = heap.next := by
  cases handle <;> rfl

/-- What is done to the buffer of one owner is nothing to another. -/
theorem keeps_set {heap : Heap Owner α} {owner keeper : Owner} (apart : keeper ≠ owner)
    {handle : Option Nat} (owned : heap.Owns owner handle) (buffer : Option (Buffer Owner α)) :
    Keeps keeper heap (heap.set handle buffer) := by
  cases handle with
  | none => exact .refl keeper heap
  | some id =>
      refine ⟨Nat.le_refl _, fun other kept found => ?_⟩
      have others : other ≠ id :=
        Owns.ne (fun _ held => ⟨kept, (Option.some.inj held) ▸ found⟩) owned apart
      unfold set
      dsimp only
      rw [Function.update_of_ne others]
      exact found

theorem owns_overwrite (heap : Heap Owner α) (handle : Option Nat) (owner : Owner)
    (elements : List α) : (heap.overwrite handle owner elements).Owns owner handle := by
  rintro id rfl
  exact ⟨elements, Function.update_self ..⟩

theorem buffers_overwrite (heap : Heap Owner α) (id : Nat) (owner : Owner) (elements : List α) :
    (heap.overwrite (some id) owner elements).buffers id = some ⟨owner, elements⟩ :=
  Function.update_self ..

theorem contents_of_buffers {heap : Heap Owner α} {id : Nat} {buffer : Buffer Owner α}
    (found : heap.buffers id = some buffer) : heap.contents (some id) = buffer.elements := by
  unfold contents
  rw [Option.bind_some, found]

/-- A buffer that was handed over has the elements it had. -/
theorem buffers_give {heap : Heap Owner α} {id : Nat} {buffer : Buffer Owner α}
    (found : heap.buffers id = some buffer) (owner : Owner) :
    (heap.give (some id) owner).buffers id = some ⟨owner, buffer.elements⟩ := by
  unfold give
  rw [buffers_overwrite, contents_of_buffers found]

end Heap

end Ownership
