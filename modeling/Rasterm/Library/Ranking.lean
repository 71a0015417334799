import Mathlib.Data.List.Dedup
import Mathlib.Data.List.Induction
import Rasterm.Library.UnorderedMap

/-!
Contract: the first elements under an order, how often each key occurs, order statistics and the
first least value.

Owns what the front of a sorted list is, that counting in a hash map gives the count of every key
once, what lies at a place of a sorted list, and what a search that keeps the least value so far
ends with.

Does not own what is counted or compared.
-/

set_option autoImplicit false

universe u v

namespace Ranking

variable {α : Type u}

/-! ### The first elements under an order -/

/-- The first `limit` elements of a list under an order, in that order. -/
structure Best (order : α → α → Prop) (limit : Nat) (all chosen : List α) : Prop where
  sorted : chosen.Pairwise order
  nodup : chosen.Nodup
  subset : ∀ element ∈ chosen, element ∈ all
  length_eq : chosen.length = min limit all.length
  /-- What is not chosen comes after everything that is. -/
  beaten : ∀ element ∈ all, element ∉ chosen → ∀ better ∈ chosen, order better element

variable {order : α → α → Prop} {limit : Nat} {all chosen : List α}

/-- The front of a sorted list. -/
theorem best_take_insertionSort [DecidableRel order] [Std.Total order] [IsTrans α order]
    (distinct : all.Nodup) (limit : Nat) :
    Best order limit all ((all.insertionSort order).take limit) := by
  have arrangement := List.perm_insertionSort order all
  have sorted := List.pairwise_insertionSort order all
  have sortedDistinct : (all.insertionSort order).Nodup := arrangement.nodup_iff.mpr distinct
  refine ⟨sorted.take, sortedDistinct.sublist (List.take_sublist _ _), ?_, ?_, ?_⟩
  · intro element member
    exact arrangement.mem_iff.mp (List.mem_of_mem_take member)
  · rw [List.length_take, arrangement.length_eq]
  · intro element member left better chosen
    have split := arrangement.mem_iff.mpr member
    rw [← List.take_append_drop limit (all.insertionSort order), List.mem_append] at split
    have behind := split.resolve_left left
    rw [← List.take_append_drop limit (all.insertionSort order)] at sorted
    exact (List.pairwise_append.mp sorted).2.2 better chosen element behind

/-! ### Counting -/

section Counting

variable {Key : Type} [DecidableEq Key]

/-- The map holds every key of a list once, with its count. -/
structure Counts (map : UnorderedMap Key Nat) (keys : List Key) : Prop where
  nodup : (map.entries.map Prod.fst).Nodup
  mem_iff : ∀ entry, entry ∈ map.entries ↔ entry.1 ∈ keys ∧ entry.2 = keys.count entry.1

variable {map : UnorderedMap Key Nat} {keys : List Key}

theorem counts_clear (map : UnorderedMap Key Nat) : Counts map.clear [] where
  nodup := List.nodup_nil
  mem_iff := fun entry => by simp [UnorderedMap.clear]

private theorem Counts.mem_keys (counts : Counts map keys) (key : Key) :
    key ∈ map.entries.map Prod.fst ↔ key ∈ keys := by
  rw [List.mem_map]
  constructor
  · rintro ⟨entry, member, rfl⟩
    exact ((counts.mem_iff entry).mp member).1
  · intro member
    exact ⟨(key, keys.count key), (counts.mem_iff _).mpr ⟨member, rfl⟩, rfl⟩

/-- One more key. -/
theorem Counts.alter (counts : Counts map keys) (key : Key) :
    Counts (map.alter key 0 (· + 1)) (keys ++ [key]) := by
  have present : (map.entries.any fun entry => decide (entry.1 = key)) = true ↔ key ∈ keys := by
    rw [← counts.mem_keys, List.any_eq_true, List.mem_map]
    constructor
    · rintro ⟨entry, member, isKey⟩
      exact ⟨entry, member, of_decide_eq_true isKey⟩
    · rintro ⟨entry, member, isKey⟩
      exact ⟨entry, member, decide_eq_true isKey⟩
  have countOf : ∀ other, (keys ++ [key]).count other =
      keys.count other + if other = key then 1 else 0 := by
    intro other
    rw [List.count_append, List.count_singleton]
    congr 1
    by_cases same : other = key
    · rw [if_pos same, same, beq_self_eq_true, if_pos rfl]
    · rw [if_neg same, beq_eq_false_iff_ne.mpr (Ne.symm same), if_neg Bool.false_ne_true]
  by_cases known : key ∈ keys
  · have entries : (map.alter key 0 (· + 1)).entries =
        map.entries.map fun entry => if entry.1 = key then (key, entry.2 + 1) else entry := by
      rw [UnorderedMap.alter, if_pos (present.mpr known)]
    have sameKeys : (map.alter key 0 (· + 1)).entries.map Prod.fst =
        map.entries.map Prod.fst := by
      rw [entries, List.map_map]
      apply List.map_congr_left
      intro entry _
      rw [Function.comp_apply]
      split_ifs with same
      · exact same.symm
      · rfl
    refine ⟨sameKeys ▸ counts.nodup, ?_⟩
    rintro ⟨other, number⟩
    rw [entries, List.mem_map, List.mem_append, List.mem_singleton, countOf]
    constructor
    · rintro ⟨entry, member, changed⟩
      obtain ⟨held, counted⟩ := (counts.mem_iff entry).mp member
      split_ifs at changed with same
      · cases changed
        exact ⟨Or.inl known, by rw [if_pos rfl, counted, same]⟩
      · rw [changed] at held counted same
        exact ⟨Or.inl held, by rw [if_neg same, counted, Nat.add_zero]⟩
    · rintro ⟨held, counted⟩
      dsimp only at held counted
      by_cases same : other = key
      · rw [if_pos same] at counted
        refine ⟨(key, keys.count key), (counts.mem_iff _).mpr ⟨known, rfl⟩, ?_⟩
        rw [if_pos rfl, counted, same]
      · rw [if_neg same, Nat.add_zero] at counted
        refine ⟨(other, number), (counts.mem_iff _).mpr ⟨held.resolve_right same, counted⟩, ?_⟩
        rw [if_neg same]
  · have entries : (map.alter key 0 (· + 1)).entries = map.entries ++ [(key, 1)] := by
      rw [UnorderedMap.alter, if_neg fun any => known (present.mp any)]
    refine ⟨?_, ?_⟩
    · rw [entries, List.map_append, List.nodup_append]
      refine ⟨counts.nodup, List.nodup_singleton _, ?_⟩
      intro first firstMember second secondMember same
      rw [List.map_singleton, List.mem_singleton] at secondMember
      rw [same, secondMember] at firstMember
      exact known ((counts.mem_keys key).mp firstMember)
    · rintro ⟨other, number⟩
      rw [entries, List.mem_append, counts.mem_iff, List.mem_singleton, Prod.mk.injEq,
        List.mem_append, List.mem_singleton, countOf]
      dsimp only
      have absent : keys.count key = 0 := List.count_eq_zero.mpr known
      by_cases same : other = key
      · subst same
        rw [if_pos rfl, absent]
        tauto
      · rw [if_neg same, Nat.add_zero]
        tauto

/-- All keys of a list, one after the other. -/
theorem counts_foldl {Event : Type u} (key : Event → Key) {count : UnorderedMap Key Nat → Event →
    UnorderedMap Key Nat} (counted : ∀ map event, count map event = map.alter (key event) 0 (· + 1))
    (events : List Event) (map : UnorderedMap Key Nat) :
    Counts (events.foldl count map.clear) (events.map key) := by
  induction events using List.reverseRecOn with
  | nil => exact counts_clear map
  | append_singleton events event inductionHypothesis =>
      rw [List.foldl_append, List.map_append, List.foldl_cons, List.foldl_nil, counted]
      exact inductionHypothesis.alter (key event)

/-- The entries are the different keys with their counts. -/
theorem Counts.entries_perm (counts : Counts map keys) :
    map.entries.Perm (keys.dedup.map fun key => (key, keys.count key)) := by
  have distinct : map.entries.Nodup := List.Nodup.of_map _ counts.nodup
  have injective : Function.Injective fun key => (key, keys.count key) :=
    fun _ _ same => (Prod.mk.inj same).1
  rw [List.perm_ext_iff_of_nodup distinct ((List.nodup_map_iff injective).mpr (List.nodup_dedup _))]
  rintro ⟨key, number⟩
  rw [counts.mem_iff, List.mem_map]
  constructor
  · rintro ⟨member, counted⟩
    exact ⟨key, List.mem_dedup.mpr member, Prod.ext rfl counted.symm⟩
  · rintro ⟨other, member, same⟩
    rw [← same]
    exact ⟨List.mem_dedup.mp member, rfl⟩

end Counting

/-! ### Order statistics -/

section OrderStatistics

variable [LinearOrder α]

/-- The value at a place, counted from zero, when all are put in order. -/
structure OrderStatistic (all : List α) (rank : Nat) (value : α) : Prop where
  mem : value ∈ all
  below : (all.countP fun other => decide (other < value)) ≤ rank
  upTo : rank < all.countP fun other => decide (other ≤ value)

variable {sorted : List α} {rank : Nat} {value : α}

theorem OrderStatistic.perm {other : List α} (statistic : OrderStatistic all rank value)
    (arrangement : all.Perm other) : OrderStatistic other rank value where
  mem := arrangement.mem_iff.mp statistic.mem
  below := arrangement.countP_eq _ ▸ statistic.below
  upTo := arrangement.countP_eq _ ▸ statistic.upTo

/-- In a sorted list it lies at its place. -/
theorem orderStatistic_of_sorted (ordered : sorted.Pairwise (· ≤ ·))
    (found : sorted[rank]? = some value) : OrderStatistic sorted rank value := by
  obtain ⟨inside, same⟩ := List.getElem?_eq_some_iff.mp found
  have split : sorted = sorted.take rank ++ value :: sorted.drop (rank + 1) := by
    rw [← same, ← List.drop_eq_getElem_cons inside, List.take_append_drop]
  have front : (sorted.take rank).length = rank := List.length_take_of_le (Nat.le_of_lt inside)
  rw [split, List.pairwise_append, List.pairwise_cons] at ordered
  obtain ⟨-, ⟨behind, -⟩, before⟩ := ordered
  constructor
  · exact List.mem_of_getElem? found
  · rw [split, List.countP_append]
    have none : ((value :: sorted.drop (rank + 1)).countP fun other => decide (other < value)) =
        0 := by
      rw [List.countP_eq_zero]
      intro other member less
      rw [decide_eq_true_eq] at less
      rcases List.mem_cons.mp member with rfl | later
      · exact lt_irrefl _ less
      · exact absurd less (not_lt.mpr (behind other later))
    rw [none, Nat.add_zero]
    exact List.countP_le_length.trans (Nat.le_of_eq front)
  · rw [split, List.countP_append]
    have every : ((sorted.take rank).countP fun other => decide (other ≤ value)) =
        (sorted.take rank).length := by
      rw [List.countP_eq_length]
      intro other member
      exact decide_eq_true (before other member value List.mem_cons_self)
    rw [every, front, List.countP_cons, if_pos (decide_eq_true (le_refl value))]
    omega

/-- Sorting finds it. -/
theorem orderStatistic_insertionSort
    (found : (all.insertionSort (· ≤ ·))[rank]? = some value) : OrderStatistic all rank value :=
  (orderStatistic_of_sorted (List.pairwise_insertionSort (· ≤ ·) all) found).perm
    (List.perm_insertionSort (· ≤ ·) all)

end OrderStatistics

/-! ### The first least value -/

section Search

variable {β : Type v} [LinearOrder β] (value : α → β)

/-- The search that keeps the least value so far. -/
def keepLeast (best : α × β) (candidate : α) : α × β :=
  if value candidate < best.2 then (candidate, value candidate) else best

/-- It ends with the first least value, or nothing was below the start. -/
theorem foldl_keepLeast (candidates : List α) (start : α × β) :
    (candidates.foldl (keepLeast value) start = start ∧
        ∀ candidate ∈ candidates, start.2 ≤ value candidate) ∨
      ∃ before found after, candidates = before ++ found :: after ∧
        candidates.foldl (keepLeast value) start = (found, value found) ∧
        value found < start.2 ∧ (∀ earlier ∈ before, value found < value earlier) ∧
        ∀ later ∈ after, value found ≤ value later := by
  induction candidates generalizing start with
  | nil => exact Or.inl ⟨rfl, fun _ member => absurd member List.not_mem_nil⟩
  | cons first rest inductionHypothesis =>
      rw [List.foldl_cons]
      by_cases less : value first < start.2
      · have kept : keepLeast value start first = (first, value first) := if_pos less
        rw [kept]
        rcases inductionHypothesis (first, value first) with ⟨stays, above⟩ |
          ⟨before, found, after, split, ends, below, earlier, later⟩
        · exact Or.inr ⟨[], first, rest, rfl, stays, less,
            fun _ member => absurd member List.not_mem_nil, above⟩
        · refine Or.inr ⟨first :: before, found, after, by rw [split, List.cons_append], ends,
            lt_trans below less, ?_, later⟩
          intro candidate member
          rcases List.mem_cons.mp member with rfl | member
          · exact below
          · exact earlier candidate member
      · have kept : keepLeast value start first = start := if_neg less
        rw [kept]
        rcases inductionHypothesis start with ⟨stays, above⟩ |
          ⟨before, found, after, split, ends, below, earlier, later⟩
        · refine Or.inl ⟨stays, ?_⟩
          intro candidate member
          rcases List.mem_cons.mp member with rfl | member
          · exact not_lt.mp less
          · exact above candidate member
        · refine Or.inr ⟨first :: before, found, after, by rw [split, List.cons_append], ends,
            below, ?_, later⟩
          intro candidate member
          rcases List.mem_cons.mp member with rfl | member
          · exact lt_of_lt_of_le below (not_lt.mp less)
          · exact earlier candidate member

end Search

end Ranking
