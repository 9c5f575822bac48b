import Mathlib.Tactic.Common
import Mathlib.Data.List.Basic

/-!
# Loops over an index range

`for i in 0..count` with a body that appends to a list, or that overwrites the
entry at `i`, described by what the list holds afterwards.
-/

namespace IndexLoop

variable {α : Type*}

/-- `for i in 0..count { data.push(read(i)) }` on an empty list. -/
def push (count : Nat) (read : Nat → α) : List α :=
  (List.range count).foldl (fun data index => data ++ [read index]) []

/-- `for i in 0..count { data[i] = read(i) }` -/
def store (count : Nat) (read : Nat → α) (initial : List α) : List α :=
  (List.range count).foldl (fun data index => data.set index (read index)) initial

theorem push_eq_map (count : Nat) (read : Nat → α) :
    push count read = (List.range count).map read := by
  induction count with
  | zero => rfl
  | succ count ih =>
      unfold push at ih ⊢
      rw [List.range_succ, List.foldl_append, ih]
      simp

theorem push_getD {count : Nat} {source : List α} {fallback : α}
    (inRange : count ≤ source.length) :
    push count (fun index => source.getD index fallback) = source.take count := by
  rw [push_eq_map]
  apply List.ext_getElem
  · simp [inRange]
  · intro index bound _
    have small : index < source.length := by
      simp at bound
      omega
    simp [small]

theorem store_succ (count : Nat) (read : Nat → α) (initial : List α) :
    store (count + 1) read initial = (store count read initial).set count (read count) := by
  simp [store, List.range_succ]

@[simp] theorem length_store (count : Nat) (read : Nat → α) (initial : List α) :
    (store count read initial).length = initial.length := by
  induction count with
  | zero => rfl
  | succ count ih => rw [store_succ, List.length_set, ih]

/-- The loop overwrites the front and leaves the rest. -/
theorem store_eq_append {count : Nat} {read : Nat → α} {initial : List α}
    (inRange : count ≤ initial.length) :
    store count read initial = (List.range count).map read ++ initial.drop count := by
  induction count with
  | zero => simp [store]
  | succ count ih =>
      have present : count < initial.length := inRange
      have overwritten :
          (initial.drop count).set 0 (read count) = read count :: initial.drop (count + 1) := by
        rw [List.drop_eq_getElem_cons present, List.set_cons_zero]
      rw [store_succ, ih (by omega)]
      simp [List.range_succ, overwritten]

end IndexLoop
