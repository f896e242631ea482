/-
This file models a byte buffer of fixed capacity, such as an array on the stack:
a copy into it or out of it that goes past its end has no result.
-/

import Mathlib.Data.List.Basic

/-- A buffer of `capacity` bytes. -/
structure FixedBuffer (capacity : ℕ) where
  bytes : List UInt8
  length_eq : bytes.length = capacity

namespace FixedBuffer

variable {capacity : ℕ}

/-- The zero-filled buffer. -/
def zero (capacity : ℕ) : FixedBuffer capacity where
  bytes := List.replicate capacity 0
  length_eq := List.length_replicate

/-- Copying `content` to the start of the buffer. -/
def write (buffer : FixedBuffer capacity) (content : List UInt8) : Option (FixedBuffer capacity) :=
  if fits : content.length ≤ capacity then
    some {
      bytes := content ++ buffer.bytes.drop content.length
      length_eq := by
        rw [List.length_append, List.length_drop, buffer.length_eq]
        exact Nat.add_sub_of_le fits }
  else none

/-- Copying the first `size` bytes out of the buffer. -/
def read (buffer : FixedBuffer capacity) (size : ℕ) : Option (List UInt8) :=
  if size ≤ capacity then some (buffer.bytes.take size) else none

theorem write_eq_none_iff (buffer : FixedBuffer capacity) (content : List UInt8) :
    buffer.write content = none ↔ capacity < content.length := by
  unfold write
  by_cases fits : content.length ≤ capacity
  · rw [dif_pos fits]
    exact iff_of_false (Option.some_ne_none _) (Nat.not_lt.mpr fits)
  · rw [dif_neg fits]
    exact iff_of_true rfl (Nat.not_le.mp fits)

theorem write_isSome (buffer : FixedBuffer capacity) {content : List UInt8}
    (fits : content.length ≤ capacity) :
    ∃ written, buffer.write content = some written ∧
      written.read content.length = some content := by
  refine ⟨_, dif_pos fits, ?_⟩
  rw [read, if_pos fits, List.take_left]

end FixedBuffer
