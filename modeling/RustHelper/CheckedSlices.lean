import RustHelper.FallibleProgram
import Mathlib.Data.List.Basic

/-!
# Slice operations that panic out of range

`&data[..end]`, `&data[start..]`, `split_at` and unsigned subtraction return
when they are in range and panic otherwise.
-/

namespace CheckedSlices

open Effect

variable {α : Type} {ε : Type}

/-- `&data[..stop]` -/
def sliceTo (data : List α) (stop : Nat) : Outcome ε (List α) :=
  if stop ≤ data.length then .ok (data.take stop)
  else .panic "range end index out of range for slice"

/-- `&data[start..]` -/
def sliceFrom (data : List α) (start : Nat) : Outcome ε (List α) :=
  if start ≤ data.length then .ok (data.drop start)
  else .panic "range start index out of range for slice"

/-- `data.split_at(mid)` -/
def splitAt (data : List α) (mid : Nat) : Outcome ε (List α × List α) :=
  if mid ≤ data.length then .ok (data.take mid, data.drop mid)
  else .panic "assertion failed: mid <= self.len()"

/-- Subtraction of unsigned integers, with overflow checks. -/
def subtract (first second : Nat) : Outcome ε Nat :=
  if second ≤ first then .ok (first - second)
  else .panic "attempt to subtract with overflow"

variable {data : List α}

@[simp] theorem sliceTo_of_le {stop : Nat} (inRange : stop ≤ data.length) :
    (sliceTo data stop : Outcome ε (List α)) = .ok (data.take stop) := if_pos inRange

@[simp] theorem sliceFrom_of_le {start : Nat} (inRange : start ≤ data.length) :
    (sliceFrom data start : Outcome ε (List α)) = .ok (data.drop start) := if_pos inRange

@[simp] theorem splitAt_of_le {mid : Nat} (inRange : mid ≤ data.length) :
    (splitAt data mid : Outcome ε (List α × List α)) = .ok (data.take mid, data.drop mid) :=
  if_pos inRange

@[simp] theorem subtract_of_le {first second : Nat} (inRange : second ≤ first) :
    (subtract first second : Outcome ε Nat) = .ok (first - second) := if_pos inRange

theorem sliceTo_of_lt {stop : Nat} (outOfRange : data.length < stop) :
    (sliceTo data stop : Outcome ε (List α)) =
      .panic "range end index out of range for slice" :=
  if_neg (by omega)

theorem splitAt_of_lt {mid : Nat} (outOfRange : data.length < mid) :
    (splitAt data mid : Outcome ε (List α × List α)) =
      .panic "assertion failed: mid <= self.len()" :=
  if_neg (by omega)

end CheckedSlices
