import Rasterm.Frame.Owned
import Rasterm.Library.Ownership
import Rasterm.Library.Transition

/-!
Contract: the lives of owned frames and of the damage lists they keep.

Owns:
- the constructor and the special members the compiler generates, over a heap of damage
  buffers with owners;
- that an object's view lists the damage in its own buffer as long as no frame with damage is
  copied, nor an emptied one moved again.

The other vectors of a frame are asked for their storage at each `view()`, which keeps no
pointer to it. Which of the two classes an object has only decides what it can be copied from.
-/

set_option autoImplicit false

namespace Rasterm

open Ownership

/-- `OwnedFrame` and `OwnedIndexedFrame`. -/
inductive OwnedKind where
  | packed | indexed
deriving DecidableEq, Repr

/-- Where `metadataValue.damage.rectangles` points. -/
inductive DamagePointer where
  | null
  /-- Memory of the caller's. -/
  | caller (memory : Nat → DamageRect)
  /-- The start of a damage buffer, live or not. -/
  | buffer (id : Nat)

abbrev DamageHeap := Heap Nat DamageRect

/-- An owned frame as far as its damage goes. -/
structure OwnedObject where
  kind : OwnedKind
  /-- The storage of the vector `damage`. -/
  damage : Option Nat := none
  /-- `metadataValue.damage`. -/
  rectangles : DamagePointer := .null
  count : Nat := 0
  supplied : Bool := false
  /-- The object was moved from, and has not been assigned to since. -/
  movedFrom : Bool := false
  /-- The rectangles the frame was first constructed with. -/
  original : List DamageRect := []

def DamagePointer.read (heap : DamageHeap) : DamagePointer → Option (Nat → DamageRect)
  | null => none
  | caller memory => some memory
  | buffer id => (heap.buffers id).map fun buffer index => buffer.elements.getD index {}

namespace OwnedObject

/-- The damage in the metadata of `view()`. -/
def view (heap : DamageHeap) (object : OwnedObject) : DamageView where
  rectangles := object.rectangles.read heap
  count := object.count
  supplied := object.supplied

/-- The constructor, with `ownDamage`, of an object at an address. -/
def construct (heap : DamageHeap) (address : Nat) (kind : OwnedKind) (source : DamageView) :
    DamageHeap × OwnedObject :=
  let kept : OwnedObject :=
    { kind := kind
      rectangles := match source.rectangles with | some memory => .caller memory | none => .null
      count := source.count
      supplied := source.supplied
      original := source.rects }
  if !source.supplied then
    if source.rectangles.isNone && source.count == 0 then (heap, { kind := kind })
    else (heap, kept)
  else if source.count > 0 && source.rectangles.isNone then (heap, kept)
  else
    let (next, damage) := heap.allocate address source.rects
    (next,
      { kept with
        damage := damage
        rectangles := match damage with | some id => .buffer id | none => .null
        count := source.rects.length })

/-- Each member of another object, with the vector `damage` put apart. -/
def memberwise (source : OwnedObject) (damage : Option Nat) : OwnedObject :=
  { source with damage := damage, movedFrom := false }

/-- What a move leaves: an empty vector, and the metadata as it was. -/
def emptied (source : OwnedObject) : OwnedObject :=
  { source with damage := none, movedFrom := true }

end OwnedObject

/-- The objects that are alive, by address, and the buffers. -/
structure OwnedObjects where
  heap : DamageHeap := {}
  objects : Nat → Option OwnedObject := fun _ => none

namespace OwnedObjects

inductive Label where
  | construct (address : Nat) (kind : OwnedKind) (source : DamageView)
  | copyConstruct (address source : Nat)
  | moveConstruct (address source : Nat)
  /-- The vector writes over its storage, where it has some that is large enough, or takes
  other storage. -/
  | copyAssign (target source : Nat) (reuses : Bool)
  /-- A vector moved to itself keeps its elements or loses them. -/
  | moveAssign (target source : Nat) (keeps : Bool)
  | destroy (address : Nat)

/-- Put an object at an address, or take it away. -/
def put (state : OwnedObjects) (heap : DamageHeap) (address : Nat) (object : Option OwnedObject) :
    OwnedObjects where
  heap := heap
  objects := Function.update state.objects address object

/-- Copy assignment of one object to another. -/
def assignCopy (state : OwnedObjects) (target : Nat) (old origin : OwnedObject) (reuses : Bool) :
    OwnedObjects :=
  let elements := state.heap.contents origin.damage
  if reuses && old.damage.isSome then
    state.put (state.heap.overwrite old.damage target elements) target
      (some (origin.memberwise old.damage))
  else
    let (heap, damage) := (state.heap.release old.damage).allocate target elements
    state.put heap target (some (origin.memberwise damage))

/-- Move of one object into another address, after what was there is gone. -/
def moveInto (state : OwnedObjects) (heap : DamageHeap) (address source : Nat)
    (origin : OwnedObject) : OwnedObjects :=
  (state.put heap source (some origin.emptied)).put (heap.give origin.damage address) address
    (some (origin.memberwise origin.damage))

def step : Label → OwnedObjects → Option OwnedObjects
  | .construct address kind source, state =>
      if (state.objects address).isSome then none
      else
        let (heap, object) := OwnedObject.construct state.heap address kind source
        some (state.put heap address (some object))
  | .copyConstruct address source, state =>
      match state.objects address, state.objects source with
      | none, some origin =>
          let (heap, damage) := state.heap.allocate address (state.heap.contents origin.damage)
          some (state.put heap address (some (origin.memberwise damage)))
      | _, _ => none
  | .moveConstruct address source, state =>
      match state.objects address, state.objects source with
      | none, some origin => some (state.moveInto state.heap address source origin)
      | _, _ => none
  | .copyAssign target source reuses, state =>
      match state.objects target, state.objects source with
      | some old, some origin =>
          if old.kind ≠ origin.kind then none
          else if target = source then some state
          else some (state.assignCopy target old origin reuses)
      | _, _ => none
  | .moveAssign target source keeps, state =>
      match state.objects target, state.objects source with
      | some old, some origin =>
          if old.kind ≠ origin.kind then none
          else if target = source then
            if keeps then some (state.put state.heap target (some { old with movedFrom := true }))
            else some (state.put (state.heap.release old.damage) target (some old.emptied))
          else some (state.moveInto (state.heap.release old.damage) target source origin)
      | _, _ => none
  | .destroy address, state =>
      match state.objects address with
      | some object => some (state.put (state.heap.release object.damage) address none)
      | none => none

/-! ### The property -/

/-- The view points to the object's own live buffer, which holds the rectangles the frame was
first constructed with; a list without rectangles has no buffer. -/
structure ListsOwn (heap : DamageHeap) (address : Nat) (object : OwnedObject) : Prop where
  counted : object.count = object.original.length
  null : object.count = 0 → object.rectangles = .null
  buffer : 0 < object.count → ∃ id, object.damage = some id ∧ object.rectangles = .buffer id ∧
    heap.buffers id = some ⟨address, object.original⟩

/-- Each live object that was not moved from and reports supplied damage lists its own. -/
def OwnDamage (state : OwnedObjects) : Prop :=
  ∀ address object, state.objects address = some object → object.movedFrom = false →
    object.supplied = true → ListsOwn state.heap address object

/-- The object reports rectangles. -/
def Reports (object : OwnedObject) : Prop := object.supplied = true ∧ 0 < object.count

/-- The view points to the storage of the object's own vector. -/
def PointsHome (object : OwnedObject) : Prop :=
  ∃ id, object.damage = some id ∧ object.rectangles = .buffer id

/-- What the operations may be asked to do: no list without memory is given to a constructor,
nothing that reports rectangles is copied, and it is moved only while it points to its own. -/
def Allowed : Label → OwnedObjects → Prop
  | .construct _ _ source, _ =>
      ¬ (source.supplied = true ∧ 0 < source.count ∧ source.rectangles = none)
  | .copyConstruct _ source, state =>
      ∀ origin, state.objects source = some origin → ¬ Reports origin
  | .moveConstruct _ source, state =>
      ∀ origin, state.objects source = some origin → Reports origin → PointsHome origin
  | .copyAssign target source _, state =>
      target = source ∨ ∀ origin, state.objects source = some origin → ¬ Reports origin
  | .moveAssign target source _, state =>
      target = source ∨
        ∀ origin, state.objects source = some origin → Reports origin → PointsHome origin
  | .destroy _, _ => True

/-- What a view that lists its own denotes. -/
theorem ListsOwn.rects_view {heap : DamageHeap} {address : Nat} {object : OwnedObject}
    (lists : ListsOwn heap address object) : (object.view heap).rects = object.original := by
  rcases Nat.eq_zero_or_pos object.count with none | some
  · have empty : object.original = [] := List.eq_nil_of_length_eq_zero (lists.counted ▸ none)
    rw [empty]
    unfold OwnedObject.view DamageView.rects
    rw [lists.null none]
    rfl
  · obtain ⟨id, -, pointed, found⟩ := lists.buffer some
    have view : object.view heap = DamageView.ofList object.original object.supplied := by
      have listed : object.original ≠ [] := by
        intro empty
        rw [lists.counted, empty] at some
        exact absurd some (by simp)
      unfold OwnedObject.view DamageView.ofList
      rw [pointed, lists.counted, if_neg (by simpa using listed)]
      unfold DamagePointer.read
      dsimp only
      rw [found]
      rfl
    rw [view, DamageView.rects_ofList]

/-! ### What every object keeps -/

/-- What holds of a live object, moved from or not. -/
structure Sound (heap : DamageHeap) (address : Nat) (object : OwnedObject) : Prop where
  owned : heap.Owns address object.damage
  bounded : ∀ id, object.rectangles = .buffer id → id < heap.next
  counted : object.supplied = true → object.count = object.original.length
  null : object.supplied = true → object.count = 0 → object.rectangles = .null
  buffer : Reports object →
    (∃ id, object.damage = some id ∧ object.rectangles = .buffer id ∧
      heap.buffers id = some ⟨address, object.original⟩) ∨
      object.movedFrom = true ∧ object.damage = none

/-- The invariant of allowed runs. -/
structure AllSound (state : OwnedObjects) : Prop where
  fresh : state.heap.Fresh
  objects : ∀ address object, state.objects address = some object →
    Sound state.heap address object

namespace Sound

variable {heap after : DamageHeap} {address other : Nat} {object : OwnedObject}

theorem of_keeps (sound : Sound heap address object) (keeps : heap.Keeps address after) :
    Sound after address object where
  owned := sound.owned.of_keeps keeps
  bounded := fun id pointed => Nat.lt_of_lt_of_le (sound.bounded id pointed) keeps.next_le
  counted := sound.counted
  null := sound.null
  buffer := fun reports => (sound.buffer reports).imp_left fun ⟨id, held, pointed, found⟩ =>
    ⟨id, held, pointed, keeps.buffers id _ found⟩

theorem listsOwn (sound : Sound heap address object) (supplied : object.supplied = true)
    (present : object.movedFrom = false) : ListsOwn heap address object where
  counted := sound.counted supplied
  null := sound.null supplied
  buffer := by
    intro some
    rcases sound.buffer ⟨supplied, some⟩ with own | ⟨moved, -⟩
    · exact own
    · rw [present] at moved
      exact absurd moved (by simp)

/-- An object that was emptied owns nothing and reports what it did. -/
theorem emptied (sound : Sound heap address object) (next_le : heap.next ≤ after.next) :
    Sound after address object.emptied where
  owned := Heap.owns_none after address
  bounded := fun id pointed => Nat.lt_of_lt_of_le (sound.bounded id pointed) next_le
  counted := sound.counted
  null := sound.null
  buffer := fun _ => .inr ⟨rfl, rfl⟩

/-- An object that was moved to itself and lost nothing. -/
theorem left (sound : Sound heap address object) :
    Sound heap address { object with movedFrom := true } where
  owned := sound.owned
  bounded := sound.bounded
  counted := sound.counted
  null := sound.null
  buffer := fun reports => (sound.buffer reports).imp_right fun moved => ⟨rfl, moved.2⟩

/-- A copy of an object that reports no rectangles. -/
theorem memberwise_of_not_reports (sound : Sound heap other object) (quiet : ¬ Reports object)
    {damage : Option Nat} (owned : after.Owns address damage) (next_le : heap.next ≤ after.next) :
    Sound after address (object.memberwise damage) where
  owned := owned
  bounded := fun id pointed => Nat.lt_of_lt_of_le (sound.bounded id pointed) next_le
  counted := sound.counted
  null := sound.null
  buffer := fun reports => absurd reports quiet

/-- An object that takes the buffer of another over. -/
theorem memberwise_of_give (sound : Sound heap other object)
    (home : Reports object → PointsHome object) :
    Sound (heap.give object.damage address) address (object.memberwise object.damage) where
  owned := Heap.owns_overwrite heap object.damage address _
  bounded := by
    intro id pointed
    have used := sound.bounded id pointed
    cases held : object.damage with
    | none => exact used
    | some id => exact used
  counted := sound.counted
  null := sound.null
  buffer := by
    intro reports
    obtain ⟨id, held, pointed⟩ := home reports
    rcases sound.buffer reports with ⟨own, holds, -, found⟩ | ⟨-, none⟩
    · have same : own = id := Option.some.inj (holds.symm.trans held)
      rw [same] at found
      left
      refine ⟨id, held, pointed, ?_⟩
      rw [held]
      exact Heap.buffers_give found address
    · rw [none] at held
      exact absurd held (by simp)

end Sound

/-! ### Construction -/

/-- The constructed object, with a copy of the list in a buffer of its own. -/
theorem sound_construct {heap : DamageHeap} (fresh : heap.Fresh) (address : Nat)
    (kind : OwnedKind) {source : DamageView}
    (allowed : ¬ (source.supplied = true ∧ 0 < source.count ∧ source.rectangles = none)) :
    (OwnedObject.construct heap address kind source).1.Fresh ∧
      (∀ other, heap.Keeps other (OwnedObject.construct heap address kind source).1) ∧
      Sound (OwnedObject.construct heap address kind source).1 address
        (OwnedObject.construct heap address kind source).2 := by
  have quiet : ∀ object : OwnedObject, object.supplied = false → object.damage = none →
      (∀ id, object.rectangles ≠ .buffer id) → Sound heap address object := by
    intro object supplied damage outside
    refine ⟨damage ▸ Heap.owns_none heap address, fun id pointed => absurd pointed (outside id),
      ?_, ?_, ?_⟩
    · exact fun reports => absurd reports (by simp [supplied])
    · exact fun reports => absurd reports (by simp [supplied])
    · exact fun reports => absurd reports.1 (by simp [supplied])
  unfold OwnedObject.construct
  dsimp only
  split_ifs with unsupplied nothing missing
  · exact ⟨fresh, fun other => .refl other heap, quiet _ rfl rfl fun _ => by simp⟩
  · refine ⟨fresh, fun other => .refl other heap, quiet _ (by simpa using unsupplied) rfl ?_⟩
    intro id
    cases source.rectangles <;> simp
  · rw [Bool.and_eq_true, decide_eq_true_eq, Option.isNone_iff_eq_none] at missing
    exact absurd ⟨by simpa using unsupplied, missing⟩ allowed
  · refine ⟨Heap.fresh_allocate fresh address _,
      fun other => Heap.keeps_allocate fresh other address _, ?_⟩
    by_cases empty : source.rects = []
    · rw [empty, Heap.allocate_nil]
      refine ⟨Heap.owns_none heap address, fun id pointed => absurd pointed (by simp),
        fun _ => rfl, fun _ _ => rfl, fun reports => ?_⟩
      exact absurd reports.2 (by simp)
    · have owned := Heap.owns_allocate heap address source.rects
      rw [Heap.allocate_of_ne empty] at owned ⊢
      refine ⟨owned, ?_, fun _ => rfl, fun _ none => ?_, fun _ => ?_⟩
      · intro id pointed
        rw [DamagePointer.buffer.injEq] at pointed
        rw [← pointed]
        exact Nat.lt_succ_self _
      · exact absurd (List.eq_nil_of_length_eq_zero none) empty
      · exact .inl ⟨heap.next, rfl, rfl, Function.update_self ..⟩

/-- A list without memory is left as it was passed. -/
theorem construct_of_missing (heap : DamageHeap) (address : Nat) (kind : OwnedKind)
    {source : DamageView} (supplied : source.supplied = true) (count : 0 < source.count)
    (missing : source.rectangles = none) :
    OwnedObject.construct heap address kind source =
      (heap,
        { kind := kind, count := source.count, supplied := true, original := source.rects }) := by
  unfold OwnedObject.construct
  simp [supplied, count, missing]

/-! ### Steps -/

variable {state next : OwnedObjects}

/-- A change of the heap and of one address. -/
theorem allSound_put {heap : DamageHeap} (fresh : heap.Fresh) {address : Nat}
    {object : Option OwnedObject}
    (others : ∀ other kept, other ≠ address → state.objects other = some kept →
      Sound heap other kept)
    (own : ∀ created, object = some created → Sound heap address created) :
    AllSound (state.put heap address object) where
  fresh := fresh
  objects := by
    intro other kept found
    unfold put at found
    dsimp only at found
    by_cases same : other = address
    · rw [same, Function.update_self] at found
      rw [same]
      exact own kept found
    · rw [Function.update_of_ne same] at found
      exact others other kept same found

namespace AllSound

theorem of_keeps (sound : AllSound state) {heap : DamageHeap} {address : Nat}
    (keeps : ∀ other, other ≠ address → state.heap.Keeps other heap) :
    ∀ other kept, other ≠ address → state.objects other = some kept → Sound heap other kept :=
  fun other kept apart found => (sound.objects other kept found).of_keeps (keeps other apart)

theorem construct (sound : AllSound state) {address : Nat} {kind : OwnedKind}
    {source : DamageView}
    (allowed : ¬ (source.supplied = true ∧ 0 < source.count ∧ source.rectangles = none)) :
    AllSound (state.put (OwnedObject.construct state.heap address kind source).1 address
      (some (OwnedObject.construct state.heap address kind source).2)) := by
  obtain ⟨fresh, keeps, own⟩ := sound_construct sound.fresh address kind allowed
  refine allSound_put fresh (sound.of_keeps fun other _ => keeps other) ?_
  rintro created same
  cases same
  exact own

theorem moveInto (sound : AllSound state) {heap : DamageHeap} (fresh : heap.Fresh)
    {address source : Nat} {origin : OwnedObject} (apart : address ≠ source)
    (keeps : ∀ other, other ≠ address → state.heap.Keeps other heap)
    (found : state.objects source = some origin) (home : Reports origin → PointsHome origin) :
    AllSound (state.moveInto heap address source origin) := by
  have moved := (sound.objects source origin found).of_keeps (keeps source (Ne.symm apart))
  have taken : ∀ other, other ≠ source → heap.Keeps other (heap.give origin.damage address) :=
    fun other others => Heap.keeps_set others moved.owned _
  refine allSound_put (Heap.fresh_set fresh moved.owned _) ?_ ?_
  · intro other kept others present
    unfold put at present
    dsimp only at present
    by_cases same : other = source
    · rw [same, Function.update_self, Option.some.injEq] at present
      rw [same, ← present]
      exact moved.emptied (taken address apart).next_le
    · rw [Function.update_of_ne same] at present
      exact ((sound.objects other kept present).of_keeps (keeps other others)).of_keeps
        (taken other same)
  · rintro created same
    cases same
    exact moved.memberwise_of_give home

/-- Another handle and other storage for an object that reports no rectangles. -/
theorem copied (sound : AllSound state) {heap : DamageHeap} (fresh : heap.Fresh)
    {address source : Nat} {origin : OwnedObject} {damage : Option Nat}
    (keeps : ∀ other, other ≠ address → state.heap.Keeps other heap)
    (owned : heap.Owns address damage) (next_le : state.heap.next ≤ heap.next)
    (found : state.objects source = some origin) (quiet : ¬ Reports origin) :
    AllSound (state.put heap address (some (origin.memberwise damage))) := by
  refine allSound_put fresh (sound.of_keeps keeps) ?_
  rintro created same
  cases same
  exact (sound.objects source origin found).memberwise_of_not_reports quiet owned next_le

theorem released (sound : AllSound state) {address : Nat} {object : OwnedObject}
    (found : state.objects address = some object) :
    (state.heap.release object.damage).Fresh ∧
      ∀ other, other ≠ address → state.heap.Keeps other (state.heap.release object.damage) :=
  have owned := (sound.objects address object found).owned
  ⟨Heap.fresh_set sound.fresh owned none, fun _ apart => Heap.keeps_set apart owned none⟩

/-- Copy assignment to another object. -/
theorem assignCopy (sound : AllSound state) {target source : Nat} {old origin : OwnedObject}
    (reuses : Bool) (held : state.objects target = some old)
    (found : state.objects source = some origin) (quiet : ¬ Reports origin) :
    AllSound (state.assignCopy target old origin reuses) := by
  have owned := (sound.objects target old held).owned
  unfold OwnedObjects.assignCopy
  dsimp only
  split_ifs with reused
  · exact sound.copied (Heap.fresh_set sound.fresh owned _)
      (fun other apart => Heap.keeps_set apart owned _)
      (Heap.owns_overwrite state.heap old.damage target _) (Heap.next_set ..).ge found quiet
  · obtain ⟨fresh, keeps⟩ := sound.released held
    have allocated : ∀ other, Heap.Keeps other (state.heap.release old.damage) _ := fun other =>
      Heap.keeps_allocate fresh other target (state.heap.contents origin.damage)
    have next_le := (allocated target).next_le
    rw [Heap.release, Heap.next_set] at next_le
    exact sound.copied (Heap.fresh_allocate fresh target _)
      (fun other apart => (keeps other apart).trans (allocated other))
      (Heap.owns_allocate _ target _) next_le found quiet

end AllSound

/-! ### What a step does -/

theorem step_construct {address : Nat} {kind : OwnedKind} {source : DamageView}
    (taken : step (.construct address kind source) state = some next) :
    next = state.put (OwnedObject.construct state.heap address kind source).1 address
      (some (OwnedObject.construct state.heap address kind source).2) := by
  simp only [step] at taken
  split_ifs at taken
  exact (Option.some.inj taken).symm

theorem step_copyConstruct {address source : Nat}
    (taken : step (.copyConstruct address source) state = some next) :
    ∃ origin, state.objects source = some origin ∧
      next = state.put (state.heap.allocate address (state.heap.contents origin.damage)).1 address
        (some (origin.memberwise
          (state.heap.allocate address (state.heap.contents origin.damage)).2)) := by
  simp only [step] at taken
  split at taken
  next origin _ found => exact ⟨origin, found, (Option.some.inj taken).symm⟩
  next => exact absurd taken (by simp)

theorem step_moveConstruct {address source : Nat}
    (taken : step (.moveConstruct address source) state = some next) :
    ∃ origin, state.objects source = some origin ∧ address ≠ source ∧
      next = state.moveInto state.heap address source origin := by
  simp only [step] at taken
  split at taken
  next origin free found =>
    refine ⟨origin, found, ?_, (Option.some.inj taken).symm⟩
    rintro rfl
    rw [free] at found
    exact absurd found (by simp)
  next => exact absurd taken (by simp)

theorem step_copyAssign {target source : Nat} {reuses : Bool}
    (taken : step (.copyAssign target source reuses) state = some next) :
    (target = source ∧ next = state) ∨ target ≠ source ∧
      ∃ old origin, state.objects target = some old ∧ state.objects source = some origin ∧
        next = state.assignCopy target old origin reuses := by
  simp only [step] at taken
  split at taken
  next old origin held found =>
    split_ifs at taken with kinds same
    · exact .inl ⟨same, (Option.some.inj taken).symm⟩
    · exact .inr ⟨same, old, origin, held, found, (Option.some.inj taken).symm⟩
  next => exact absurd taken (by simp)

theorem step_moveAssign {target source : Nat} {keeps : Bool}
    (taken : step (.moveAssign target source keeps) state = some next) :
    (target = source ∧ ∃ old, state.objects target = some old ∧
      (next = state.put state.heap target (some { old with movedFrom := true }) ∨
        next = state.put (state.heap.release old.damage) target (some old.emptied))) ∨
      target ≠ source ∧
        ∃ old origin, state.objects target = some old ∧ state.objects source = some origin ∧
          next = state.moveInto (state.heap.release old.damage) target source origin := by
  simp only [step] at taken
  split at taken
  next old origin held found =>
    split_ifs at taken with kinds same kept
    · exact .inl ⟨same, old, held, .inl (Option.some.inj taken).symm⟩
    · exact .inl ⟨same, old, held, .inr (Option.some.inj taken).symm⟩
    · exact .inr ⟨same, old, origin, held, found, (Option.some.inj taken).symm⟩
  next => exact absurd taken (by simp)

theorem step_destroy {address : Nat} (taken : step (.destroy address) state = some next) :
    ∃ object, state.objects address = some object ∧
      next = state.put (state.heap.release object.damage) address none := by
  simp only [step] at taken
  split at taken
  next object found => exact ⟨object, found, (Option.some.inj taken).symm⟩
  next => exact absurd taken (by simp)

/-- An allowed step keeps every object sound. -/
theorem allSound_of_step {label : Label} (taken : step label state = some next)
    (allowed : Allowed label state) (sound : AllSound state) : AllSound next := by
  cases label with
  | construct address kind source =>
      rw [step_construct taken]
      exact sound.construct allowed
  | copyConstruct address source =>
      obtain ⟨origin, found, rfl⟩ := step_copyConstruct taken
      have keeps : ∀ other, state.heap.Keeps other _ := fun other =>
        Heap.keeps_allocate sound.fresh other address (state.heap.contents origin.damage)
      exact sound.copied (Heap.fresh_allocate sound.fresh address _) (fun other _ => keeps other)
        (Heap.owns_allocate _ address _) (keeps address).next_le found (allowed origin found)
  | moveConstruct address source =>
      obtain ⟨origin, found, apart, rfl⟩ := step_moveConstruct taken
      exact sound.moveInto sound.fresh apart (fun other _ => .refl other state.heap) found
        (allowed origin found)
  | copyAssign target source reuses =>
      rcases step_copyAssign taken with ⟨-, rfl⟩ | ⟨apart, old, origin, held, found, rfl⟩
      · exact sound
      · exact sound.assignCopy reuses held found (allowed.resolve_left apart origin found)
  | moveAssign target source keeps =>
      rcases step_moveAssign taken with
        ⟨-, old, held, rfl | rfl⟩ | ⟨apart, old, origin, held, found, rfl⟩
      · refine allSound_put sound.fresh
          (sound.of_keeps fun other _ => .refl other state.heap) ?_
        rintro created same
        cases same
        exact (sound.objects target old held).left
      · obtain ⟨fresh, kept⟩ := sound.released held
        refine allSound_put fresh (sound.of_keeps kept) ?_
        rintro created same
        cases same
        exact (sound.objects target old held).emptied (Heap.next_set ..).ge
      · obtain ⟨fresh, kept⟩ := sound.released held
        exact sound.moveInto fresh apart kept found (allowed.resolve_left apart origin found)
  | destroy address =>
      obtain ⟨object, found, rfl⟩ := step_destroy taken
      obtain ⟨fresh, kept⟩ := sound.released found
      refine allSound_put fresh (sound.of_keeps kept) ?_
      exact fun created same => absurd same (by simp)

/-! ### Where the property is lost -/

/-- An object that reports rectangles and lists its own points home. -/
theorem ListsOwn.pointsHome {heap : DamageHeap} {address : Nat} {object : OwnedObject}
    (lists : ListsOwn heap address object) (some : 0 < object.count) : PointsHome object := by
  obtain ⟨id, held, pointed, -⟩ := lists.buffer some
  exact ⟨id, held, pointed⟩

/-- A new object that must list its own. -/
theorem OwnDamage.listsOwn_put {heap : DamageHeap} {address : Nat} {object : OwnedObject}
    (own : OwnDamage (state.put heap address (some object))) (present : object.movedFrom = false)
    (supplied : object.supplied = true) : ListsOwn heap address object :=
  own address object (Function.update_self ..) present supplied

/-- A copy in new storage points to the storage of the original. -/
theorem not_pointsHome_of_allocate {heap after : DamageHeap} {address other : Nat}
    {origin : OwnedObject} (sound : Sound heap other origin) (next_le : heap.next ≤ after.next)
    (elements : List DamageRect) :
    ¬ PointsHome (origin.memberwise (after.allocate address elements).2) := by
  rintro ⟨id, held, pointed⟩
  have used := sound.bounded id pointed
  have new := Heap.le_of_allocate held
  omega

/-- A copy in the storage of the object assigned to does not list the rectangles. -/
theorem not_listsOwn_overwrite (sound : AllSound state) {target source : Nat}
    {old origin : OwnedObject} (apart : target ≠ source) (held : state.objects target = some old)
    (found : state.objects source = some origin) (reports : Reports origin) :
    ¬ ListsOwn (state.heap.overwrite old.damage target (state.heap.contents origin.damage)) target
      (origin.memberwise old.damage) := by
  intro lists
  obtain ⟨id, storage, pointed, written⟩ := lists.buffer reports.2
  have storage : old.damage = some id := storage
  have pointed : origin.rectangles = .buffer id := pointed
  have oldOwns := (sound.objects target old held).owned
  have originSound := sound.objects source origin found
  rcases originSound.buffer reports with ⟨own, holds, points, -⟩ | ⟨-, none⟩
  · -- two objects would own one buffer
    have same : own = id := by
      rw [points, DamagePointer.buffer.injEq] at pointed
      exact pointed
    have originOwns := originSound.owned
    rw [storage] at oldOwns
    rw [holds] at originOwns
    exact Heap.Owns.ne oldOwns originOwns apart same.symm
  · -- an emptied object has nothing to copy
    rw [storage, Heap.buffers_overwrite, Option.some.injEq, Buffer.mk.injEq] at written
    have empty : origin.original = [] := by
      rw [none] at written
      exact written.2.symm
    have count := originSound.counted reports.1
    rw [empty] at count
    exact absurd reports.2 (by simp [count])

/-- Any other step leaves an object whose view does not list its own rectangles. -/
theorem not_ownDamage_of_step {label : Label} (taken : step label state = some next)
    (refused : ¬ Allowed label state) (sound : AllSound state) : ¬ OwnDamage next := by
  intro own
  cases label with
  | construct address kind source =>
      obtain ⟨supplied, count, missing⟩ := Classical.not_not.mp refused
      rw [step_construct taken, construct_of_missing _ _ _ supplied count missing] at own
      obtain ⟨id, held, -⟩ := (own.listsOwn_put rfl rfl).pointsHome count
      exact absurd held (by simp)
  | copyConstruct address source =>
      obtain ⟨origin, found, rfl⟩ := step_copyConstruct taken
      refine refused fun other same reports => ?_
      rw [found, Option.some.injEq] at same
      subst same
      have lists := own.listsOwn_put rfl reports.1
      exact not_pointsHome_of_allocate (sound.objects source origin found) (Nat.le_refl _) _
        (lists.pointsHome reports.2)
  | moveConstruct address source =>
      obtain ⟨origin, found, -, rfl⟩ := step_moveConstruct taken
      refine refused fun other same reports => ?_
      rw [found, Option.some.injEq] at same
      subst same
      exact (own.listsOwn_put rfl reports.1).pointsHome reports.2
  | copyAssign target source reuses =>
      rcases step_copyAssign taken with ⟨same, -⟩ | ⟨apart, old, origin, held, found, rfl⟩
      · exact refused (.inl same)
      · refine refused (.inr fun other same reports => ?_)
        rw [found, Option.some.injEq] at same
        subst same
        unfold assignCopy at own
        dsimp only at own
        split_ifs at own with reused
        · exact not_listsOwn_overwrite sound apart held found reports
            (own.listsOwn_put rfl reports.1)
        · have lists := own.listsOwn_put rfl reports.1
          exact not_pointsHome_of_allocate (sound.objects source origin found)
            (Heap.next_set ..).ge _ (lists.pointsHome reports.2)
  | moveAssign target source keeps =>
      rcases step_moveAssign taken with ⟨same, -⟩ | ⟨apart, old, origin, held, found, rfl⟩
      · exact refused (.inl same)
      · refine refused (.inr fun other same reports => ?_)
        rw [found, Option.some.injEq] at same
        subst same
        exact (own.listsOwn_put rfl reports.1).pointsHome reports.2
  | destroy address => exact refused trivial

/-! ### Runs -/

theorem allSound_empty : AllSound {} :=
  ⟨Heap.fresh_empty, fun _ _ found => absurd found (by simp)⟩

theorem AllSound.ownDamage (sound : AllSound state) : OwnDamage state :=
  fun address object found present supplied =>
    (sound.objects address object found).listsOwn supplied present

/-- The runs in which every live frame lists its own damage throughout are exactly those
whose operations are allowed. -/
theorem ownDamage_throughout_iff {labels : List Label} {final : OwnedObjects}
    (run : Transition.Run step {} labels final) :
    (∀ before after state, labels = before ++ after → Transition.Run step {} before state →
        OwnDamage state) ↔
      (∀ before label after state, labels = before ++ label :: after →
        Transition.Run step {} before state → Allowed label state) :=
  run.throughout_iff (fun _ sound => sound.ownDamage)
    (fun _ _ _ taken allowed sound => allSound_of_step taken allowed sound)
    (fun _ _ _ taken refused sound => not_ownDamage_of_step taken refused sound) allSound_empty

/-- A damage list of one rectangle. -/
def oneRectangle : DamageView := DamageView.ofList [⟨0, 0, 2, 1⟩] true

/-- A frame with damage is made, moved and taken down. -/
def movedOnce : List Label :=
  [.construct 0 .packed oneRectangle, .moveConstruct 1 0, .destroy 0, .destroy 1]

theorem ownDamage_throughout_iff_movedOnce :
    ∃ final, Transition.Run step {} movedOnce final ∧
      ((∀ before after state, movedOnce = before ++ after →
          Transition.Run step {} before state → OwnDamage state) ↔
        (∀ before label after state, movedOnce = before ++ label :: after →
          Transition.Run step {} before state → Allowed label state)) := by
  have enabled : ∃ final, Transition.Run step {} movedOnce final :=
    ⟨_, Transition.run_iff_exec.mpr rfl⟩
  obtain ⟨final, run⟩ := enabled
  exact ⟨final, run, ownDamage_throughout_iff run⟩

/-- A frame with damage is made and copied. -/
def copiedOnce : List Label := [.construct 0 .packed oneRectangle, .copyConstruct 1 0]

/-- The view of the copy points to the buffer of the original. -/
theorem not_ownDamage_of_copy :
    ∃ final, Transition.Run step {} copiedOnce final ∧ ¬ OwnDamage final := by
  refine ⟨_, Transition.run_iff_exec.mpr rfl, ?_⟩
  intro own
  have lists := own 1 _ rfl rfl rfl
  obtain ⟨id, held, pointed, -⟩ := lists.buffer (by decide)
  have copy : (1 : Nat) = id := Option.some.inj held
  have original : (0 : Nat) = id := DamagePointer.buffer.inj pointed
  omega

end OwnedObjects

end Rasterm
