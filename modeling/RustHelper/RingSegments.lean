import Mathlib.Tactic.Common
import Mathlib.Data.List.OfFn

/-!
# Reading a ring buffer in two segments

A ring buffer keeps `count` live cells, starting at `head` and wrapping around
at the end of the cell array.  The live cells are the front of the part from
`head` on, followed by the front of the part before `head`.
-/

namespace Ring

variable {α : Type*}

/-- The live cells in queue order. -/
def contents (cells : List α) (nonempty : 0 < cells.length) (head count : Nat) : List α :=
  List.ofFn fun index : Fin count =>
    cells.get ⟨(head + index) % cells.length, Nat.mod_lt _ nonempty⟩

/-- Number of live cells before the wrap-around. -/
def headLength (cells : List α) (head count : Nat) : Nat :=
  min (cells.length - head) count

def headSegment (cells : List α) (head count : Nat) : List α :=
  (cells.drop head).take (headLength cells head count)

/-- The live cells after the wrap-around. -/
def tailSegment (cells : List α) (head count : Nat) : List α :=
  (cells.take head).take (count - headLength cells head count)

theorem segments_nil (head count : Nat) :
    headSegment ([] : List α) head count ++ tailSegment [] head count = [] := by
  simp [headSegment, tailSegment]

variable {cells : List α} {head count : Nat}

@[simp] theorem length_contents (nonempty : 0 < cells.length) :
    (contents cells nonempty head count).length = count := by
  simp [contents]

theorem headLength_le : headLength cells head count ≤ count := Nat.min_le_right _ _

/-- The second segment fits before `head` exactly when there are no more live
cells than cells. -/
theorem tail_fits_iff (inRange : head ≤ cells.length) :
    count - headLength cells head count ≤ head ↔ count ≤ cells.length := by
  unfold headLength
  omega

/-- The two segments are the live cells in queue order. -/
theorem segments_eq_contents (nonempty : 0 < cells.length) (inRange : head ≤ cells.length)
    (fits : count ≤ cells.length) :
    headSegment cells head count ++ tailSegment cells head count =
      contents cells nonempty head count := by
  have lengths : (headSegment cells head count ++ tailSegment cells head count).length =
      count := by
    simp only [headSegment, tailSegment, headLength, List.length_append, List.length_take,
      List.length_drop]
    omega
  apply List.ext_getElem
  · rw [lengths, length_contents]
  · intro index bound _
    rw [lengths] at bound
    have headCount : (headSegment cells head count).length = headLength cells head count := by
      simp only [headSegment, headLength, List.length_take, List.length_drop]
      omega
    by_cases before : index < headLength cells head count
    · have position : head + index < cells.length := by
        unfold headLength at before
        omega
      rw [List.getElem_append_left (by omega)]
      simp [headSegment, contents, Nat.mod_eq_of_lt position]
    · have wraps : (head + index) % cells.length = index - headLength cells head count := by
        unfold headLength at before ⊢
        have past : head + index = cells.length + (index - min (cells.length - head) count) := by
          omega
        rw [past, Nat.add_mod_left, Nat.mod_eq_of_lt (by omega)]
      rw [List.getElem_append_right (by omega)]
      simp [tailSegment, contents, wraps, headCount]

theorem head_mem_contents (nonempty : 0 < cells.length) (inRange : head < cells.length)
    (live : 0 < count) : cells.get ⟨head, inRange⟩ ∈ contents cells nonempty head count := by
  refine (List.mem_ofFn' _ _).mpr ⟨⟨0, live⟩, ?_⟩
  simp [Nat.mod_eq_of_lt inRange]

theorem contents_full (nonempty : 0 < cells.length) :
    contents cells nonempty 0 cells.length = cells := by
  apply List.ext_getElem
  · rw [length_contents]
  · intro index _ bound
    simp [contents, Nat.mod_eq_of_lt bound]

end Ring
