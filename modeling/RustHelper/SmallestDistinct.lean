import Mathlib.Data.Finset.Sort
import Mathlib.Data.List.Destutter
import Mathlib.Data.List.Sort

/-!
# The smallest distinct elements of a list

Sorting a list, removing adjacent equals and cutting the result leaves its
smallest distinct elements.  An element survives exactly when fewer distinct
elements than the limit are below it.
-/

namespace SmallestDistinct

variable {α : Type*} [LinearOrder α]

/-- Sort, remove adjacent equals, cut to `limit`. -/
def smallestDistinct (limit : Nat) (values : List α) : List α :=
  ((values.insertionSort (· ≤ ·)).destutter (· ≠ ·)).take limit

theorem destutter_insertionSort (values : List α) :
    (values.insertionSort (· ≤ ·)).destutter (· ≠ ·) = values.toFinset.sort (· ≤ ·) := by
  have sorted : (values.insertionSort (· ≤ ·)).Pairwise (· ≤ ·) :=
    List.pairwise_insertionSort _ values
  have distinct : (values.insertionSort (· ≤ ·)).dedup.toFinset = values.toFinset := by
    ext value
    simp
  rw [sorted.destutter_eq_dedup, ← distinct]
  exact ((List.toFinset_sort _ (List.nodup_dedup _)).mpr
    (sorted.sublist (List.dedup_sublist _))).symm

theorem smallestDistinct_eq_take (limit : Nat) (values : List α) :
    smallestDistinct limit values = (values.toFinset.sort (· ≤ ·)).take limit := by
  rw [smallestDistinct, destutter_insertionSort]

/-- In a strictly sorted list, an element is among the first `limit` exactly
when fewer than `limit` elements are below it. -/
theorem mem_take_iff_countP_lt {sorted : List α} (increasing : sorted.Pairwise (· < ·))
    (limit : Nat) (value : α) :
    value ∈ sorted.take limit ↔ value ∈ sorted ∧ sorted.countP (· < value) < limit := by
  induction sorted generalizing limit with
  | nil => simp
  | cons first rest ih =>
      obtain ⟨above, restIncreasing⟩ := List.pairwise_cons.mp increasing
      cases limit with
      | zero => simp
      | succ limit =>
          rw [List.take_succ_cons, List.mem_cons, List.mem_cons, ih restIncreasing,
            List.countP_cons]
          by_cases isFirst : value = first
          · subst isFirst
            have none : rest.countP (· < value) = 0 :=
              List.countP_eq_zero.mpr fun other isLater => by simpa using (above other isLater).le
            simp [none]
          · simp only [isFirst, false_or]
            apply and_congr_right
            intro isLater
            simp [above value isLater]

/-- The elements kept are those with fewer than `limit` distinct ones below. -/
theorem mem_smallestDistinct (limit : Nat) (values : List α) (value : α) :
    value ∈ smallestDistinct limit values ↔
      value ∈ values ∧ (values.toFinset.filter (· < value)).card < limit := by
  have increasing : (values.toFinset.sort (· ≤ ·)).Pairwise (· < ·) :=
    (Finset.sortedLT_sort values.toFinset).pairwise
  have below : (values.toFinset.sort (· ≤ ·)).countP (· < value) =
      (values.toFinset.filter (· < value)).card := by
    rw [List.countP_eq_length_filter, ← List.toFinset_card_of_nodup
      ((Finset.sort_nodup _ _).filter _), List.toFinset_filter, Finset.sort_toFinset]
    simp
  rw [smallestDistinct_eq_take, mem_take_iff_countP_lt increasing, below, Finset.mem_sort,
    List.mem_toFinset]

theorem pairwise_smallestDistinct (limit : Nat) (values : List α) :
    (smallestDistinct limit values).Pairwise (· < ·) := by
  rw [smallestDistinct_eq_take]
  exact (Finset.sortedLT_sort values.toFinset).pairwise.sublist (List.take_sublist _ _)

theorem length_smallestDistinct (limit : Nat) (values : List α) :
    (smallestDistinct limit values).length = min limit values.toFinset.card := by
  rw [smallestDistinct_eq_take, List.length_take, Finset.length_sort]

/-- Every element that is kept is below every element that is left out. -/
theorem lt_of_notMem_smallestDistinct {limit : Nat} {values : List α} {kept other : α}
    (isKept : kept ∈ smallestDistinct limit values) (isElement : other ∈ values)
    (leftOut : other ∉ smallestDistinct limit values) : kept < other := by
  rw [mem_smallestDistinct] at isKept leftOut
  by_contra notBelow
  apply leftOut
  refine ⟨isElement, lt_of_le_of_lt (Finset.card_le_card ?_) isKept.2⟩
  intro value isBelow
  rw [Finset.mem_filter] at isBelow ⊢
  exact ⟨isBelow.1, lt_of_lt_of_le isBelow.2 (not_lt.mp notBelow)⟩

/-- With at most `limit` distinct elements, all are kept. -/
theorem mem_smallestDistinct_of_few {limit : Nat} {values : List α} {value : α}
    (isElement : value ∈ values) (few : values.toFinset.card ≤ limit) :
    value ∈ smallestDistinct limit values := by
  have smaller : values.toFinset.filter (· < value) ⊂ values.toFinset :=
    Finset.filter_ssubset.mpr ⟨value, List.mem_toFinset.mpr isElement, lt_irrefl _⟩
  rw [mem_smallestDistinct]
  exact ⟨isElement, lt_of_lt_of_le (Finset.card_lt_card smaller) few⟩

/-- The order and the repetitions of the elements do not matter. -/
theorem smallestDistinct_congr {first second : List α} (limit : Nat)
    (same : first.toFinset = second.toFinset) :
    smallestDistinct limit first = smallestDistinct limit second := by
  rw [smallestDistinct_eq_take, smallestDistinct_eq_take, same]

end SmallestDistinct
