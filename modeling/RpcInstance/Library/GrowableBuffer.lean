/-
This file develops growable buffers: a block of memory with some contents at its
front, which is moved to another block when it runs out of room.
-/

import Mathlib.Data.List.Basic

/-- A block of memory whose first `size` symbols are the contents. -/
structure GrowableBuffer (Symbol : Type) where
  block : List Symbol
  size : ℕ
  inside : size ≤ block.length

namespace GrowableBuffer

variable {Symbol : Type}

/-- The symbols that were appended. -/
def contents (buffer : GrowableBuffer Symbol) : List Symbol :=
  buffer.block.take buffer.size

/-- How many symbols the block has room for. -/
def capacity (buffer : GrowableBuffer Symbol) : ℕ :=
  buffer.block.length

/-- An empty buffer. What a block holds that nothing was written to is up to `fresh`. -/
def empty (capacity : ℕ) (fresh : ℕ → Symbol) : GrowableBuffer Symbol where
  block := (List.range capacity).map fresh
  size := 0
  inside := Nat.zero_le _

/-- The block after a reallocation. What it held is still there, as far as there is room. -/
def moved (block : List Symbol) (capacity : ℕ) (fresh : ℕ → Symbol) : List Symbol :=
  block.take capacity ++ (List.range (capacity - block.length)).map fresh

/-- A copy behind the first `size` symbols of a block. -/
def stored (block : List Symbol) (size : ℕ) (data : List Symbol)
    (fits : size + data.length ≤ block.length) : GrowableBuffer Symbol where
  block := block.take size ++ (data ++ block.drop (size + data.length))
  size := size + data.length
  inside := by
    rw [List.length_append, List.length_append, List.length_take, List.length_drop]
    omega

@[simp] theorem length_contents (buffer : GrowableBuffer Symbol) :
    buffer.contents.length = buffer.size :=
  List.length_take_of_le buffer.inside

@[simp] theorem contents_empty (capacity : ℕ) (fresh : ℕ → Symbol) :
    (empty capacity fresh).contents = [] :=
  List.take_zero

@[simp] theorem capacity_empty (capacity : ℕ) (fresh : ℕ → Symbol) :
    (empty capacity fresh).capacity = capacity := by
  rw [GrowableBuffer.capacity, empty, List.length_map, List.length_range]

@[simp] theorem length_moved (block : List Symbol) (capacity : ℕ) (fresh : ℕ → Symbol) :
    (moved block capacity fresh).length = capacity := by
  rw [moved, List.length_append, List.length_take, List.length_map, List.length_range]
  omega

/-- A reallocation keeps what is there, as far as the new block has room for it. -/
theorem take_moved {block : List Symbol} {size capacity : ℕ} (fresh : ℕ → Symbol)
    (inside : size ≤ block.length) (room : size ≤ capacity) :
    (moved block capacity fresh).take size = block.take size := by
  rw [moved, List.take_append_of_le_length (by rw [List.length_take]; omega), List.take_take,
    Nat.min_eq_left room]

section

variable {block : List Symbol} {size : ℕ} {data : List Symbol}
  (fits : size + data.length ≤ block.length)

@[simp] theorem capacity_stored : (stored block size data fits).capacity = block.length := by
  rw [capacity, stored, List.length_append, List.length_append, List.length_take, List.length_drop]
  omega

theorem contents_stored : (stored block size data fits).contents = block.take size ++ data := by
  have length : (block.take size).length = size := List.length_take_of_le (by omega)
  show (block.take size ++ (data ++ block.drop (size + data.length))).take (size + data.length) = _
  rw [← List.append_assoc]
  exact List.take_left' (by rw [List.length_append, length])

end

end GrowableBuffer
