import Mathlib.Data.List.Sort

/-!
Contract: a hash map as the standard library promises it: lookup, insertion,
clearing, and an iteration order that nothing may be assumed about.

The entries are kept in insertion order. `touched` records every key the map
has held since it was built, clearing included: the bucket array, and with it
the iteration order, may depend on all of that history.

Owns the fact that a list sorted by a total order forgets its original order.
-/

set_option autoImplicit false

structure UnorderedMap (Key Value : Type) where
  entries : List (Key × Value) := []
  touched : List Key := []

namespace UnorderedMap

variable {Key Value : Type} [DecidableEq Key]

def clear (map : UnorderedMap Key Value) : UnorderedMap Key Value := { map with entries := [] }

def find? (map : UnorderedMap Key Value) (key : Key) : Option Value :=
  (map.entries.find? fun entry => entry.1 = key).map Prod.snd

/-- `map[key] = f(map[key])`, a missing key counting as `fallback`. -/
def alter (map : UnorderedMap Key Value) (key : Key) (fallback : Value)
    (change : Value → Value) : UnorderedMap Key Value :=
  { entries :=
      if map.entries.any fun entry => entry.1 = key then
        map.entries.map fun entry => if entry.1 = key then (key, change entry.2) else entry
      else map.entries ++ [(key, change fallback)]
    touched := map.touched ++ [key] }

def insert (map : UnorderedMap Key Value) (key : Key) (value : Value) :
    UnorderedMap Key Value :=
  map.alter key value fun _ => value

theorem mem_of_find? {map : UnorderedMap Key Value} {key : Key} {value : Value}
    (found : map.find? key = some value) : (key, value) ∈ map.entries := by
  simp only [find?, Option.map_eq_some_iff] at found
  obtain ⟨entry, foundEntry, rfl⟩ := found
  have isKey : entry.1 = key := by simpa using List.find?_some foundEntry
  rw [← isKey]
  exact List.mem_of_find?_eq_some foundEntry

theorem mem_insert {map : UnorderedMap Key Value} {key : Key} {value : Value}
    {entry : Key × Value} (member : entry ∈ (map.insert key value).entries) :
    entry = (key, value) ∨ entry ∈ map.entries := by
  simp only [insert, alter] at member
  split_ifs at member with present
  · obtain ⟨old, oldMember, rfl⟩ := List.mem_map.mp member
    split_ifs with isKey
    · exact Or.inl rfl
    · exact Or.inr oldMember
  · simpa [or_comm] using member

/-- Writing a value of one key changes no key. -/
private theorem find?_map_replace (entries : List (Key × Value)) (key other : Key) (value : Value) :
    (entries.map fun entry => if entry.1 = key then (key, value) else entry).find?
        (fun entry => entry.1 = other) =
      (entries.find? fun entry => entry.1 = other).map fun entry =>
        if entry.1 = key then (key, value) else entry := by
  rw [List.find?_map]
  congr 2
  funext entry
  rw [Function.comp_apply]
  split_ifs with isKey
  · rw [isKey]
  · rfl

/-- A lookup after an insertion. -/
theorem find?_insert (map : UnorderedMap Key Value) (key other : Key) (value : Value) :
    (map.insert key value).find? other = if other = key then some value else map.find? other := by
  have keyOf : ∀ {found : Key × Value},
      (map.entries.find? fun entry => entry.1 = other) = some found → found.1 = other := by
    intro found isFound
    have holds := List.find?_some isFound
    exact of_decide_eq_true holds
  simp only [insert, alter]
  by_cases present : (map.entries.any fun entry => decide (entry.1 = key)) = true
  · rw [if_pos present]
    simp only [find?, find?_map_replace, Option.map_map]
    cases isFound : map.entries.find? fun entry => entry.1 = other with
    | none =>
        have different : other ≠ key := by
          rintro rfl
          obtain ⟨entry, member, isKey⟩ := List.any_eq_true.mp present
          exact List.find?_eq_none.mp isFound entry member isKey
        rw [if_neg different]
        rfl
    | some found =>
        rw [Option.map_some, Option.map_some, Function.comp_apply, keyOf isFound]
        split_ifs <;> rfl
  · rw [if_neg present]
    simp only [find?, List.find?_append, List.find?_singleton]
    by_cases same : other = key
    · have absent : (map.entries.find? fun entry => entry.1 = other) = none := by
        rw [List.find?_eq_none]
        intro entry member isKey
        exact present (List.any_eq_true.mpr ⟨entry, member, same ▸ isKey⟩)
      rw [if_pos same, absent, if_pos (decide_eq_true same.symm)]
      rfl
    · rw [if_neg same, if_neg (by simpa using Ne.symm same), Option.or_none]

theorem entries_insert_congr {left right : UnorderedMap Key Value} (key : Key) (value : Value)
    (same : left.entries = right.entries) :
    (left.insert key value).entries = (right.insert key value).entries := by
  unfold insert alter
  rw [same]

theorem entries_alter_congr {left right : UnorderedMap Key Value} (key : Key)
    (fallback : Value) (change : Value → Value) (same : left.entries = right.entries) :
    (left.alter key fallback change).entries = (right.alter key fallback change).entries := by
  unfold alter
  rw [same]

theorem alter_entries_ne_nil (map : UnorderedMap Key Value) (key : Key) (fallback : Value)
    (change : Value → Value) : (map.alter key fallback change).entries ≠ [] := by
  simp only [alter]
  split_ifs with present
  · intro empty
    rw [List.map_eq_nil_iff] at empty
    simp [empty] at present
  · simp

end UnorderedMap

/-- Sorting by a total order gives one result for all arrangements of a list. -/
theorem insertionSort_eq_of_perm {α : Type} {order : α → α → Prop} [DecidableRel order]
    [Std.Total order] [IsTrans α order] [Std.Antisymm order] {left right : List α}
    (arrangement : left.Perm right) :
    left.insertionSort order = right.insertionSort order := by
  have sorted : (left.insertionSort order).Perm (right.insertionSort order) :=
    (List.perm_insertionSort order left).trans
      (arrangement.trans (List.perm_insertionSort order right).symm)
  exact sorted.eq_of_pairwise' (List.pairwise_insertionSort order left)
    (List.pairwise_insertionSort order right)
