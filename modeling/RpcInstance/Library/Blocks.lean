/-
This file develops memory that is handed out in blocks of cells.

A pointer is a block and a place in it. The block `0` has no cells, so its address is a
null pointer. Writing succeeds exactly inside of a block, and a memory extends another one
when all that was written is still there: allocation extends a memory, and so does every
write to a cell that was not written before. A program that writes each cell once is then
followed without any separation of what it builds.
-/

import Mathlib.Data.List.GetD
import Mathlib.Logic.Function.Basic
import Mathlib.Order.Nat

namespace Blocks

/-- A block, and a place in it. -/
structure Pointer where
  block : ℕ
  place : ℕ
  deriving DecidableEq, Repr

namespace Pointer

/-- The address of the block `0`. -/
def null : Pointer := ⟨0, 0⟩

/-- So many cells further in the same block. -/
def offset (pointer : Pointer) (distance : ℕ) : Pointer :=
  ⟨pointer.block, pointer.place + distance⟩

/-- The cell behind. -/
def next (pointer : Pointer) : Pointer :=
  pointer.offset 1

theorem offset_next (pointer : Pointer) (distance : ℕ) :
    pointer.next.offset distance = pointer.offset (distance + 1) :=
  congrArg (Pointer.mk pointer.block) (Nat.add_right_comm _ 1 distance)

end Pointer

/-- The sizes of the blocks, and what was written to their cells, which is nothing outside of the
blocks. -/
structure Memory (Cell : Type) where
  sizes : List ℕ
  cells : Pointer → Option Cell
  inside : ∀ pointer, sizes.getD pointer.block 0 ≤ pointer.place → cells pointer = none

namespace Memory

variable {Cell : Type}

/-- Nothing but the block of the null pointer. -/
def empty : Memory Cell where
  sizes := [0]
  cells _ := none
  inside _ _ := rfl

/-- The pointer is inside of a block. -/
def Valid (memory : Memory Cell) (pointer : Pointer) : Prop :=
  pointer.place < memory.sizes.getD pointer.block 0

instance (memory : Memory Cell) (pointer : Pointer) : Decidable (memory.Valid pointer) :=
  inferInstanceAs (Decidable (_ < _))

/-- Writes to a cell inside of a block. -/
def write (memory : Memory Cell) (pointer : Pointer) (cell : Cell) : Option (Memory Cell) :=
  if valid : memory.Valid pointer then
    some {
      sizes := memory.sizes
      cells := Function.update memory.cells pointer (some cell)
      inside := fun other outside => by
        have different : other ≠ pointer := fun same => Nat.not_lt.mpr outside (same ▸ valid)
        rw [Function.update_of_ne different]
        exact memory.inside other outside }
  else none

theorem getD_le_append (sizes : List ℕ) (size block : ℕ) :
    sizes.getD block 0 ≤ (sizes ++ [size]).getD block 0 := by
  rcases Nat.lt_or_ge block sizes.length with old | new
  · rw [List.getD_append _ _ _ _ old]
  · rw [List.getD_eq_default _ _ new]
    exact Nat.zero_le _

/-- A block of so many cells, none of which was written. -/
def allocate (memory : Memory Cell) (size : ℕ) : Pointer × Memory Cell :=
  (⟨memory.sizes.length, 0⟩, {
    sizes := memory.sizes ++ [size]
    cells := memory.cells
    inside := fun pointer outside =>
      memory.inside pointer (Nat.le_trans (getD_le_append _ _ _) outside) })

/-- What was written is still there, and the blocks are. -/
structure Extends (before after : Memory Cell) : Prop where
  cells : ∀ pointer cell, before.cells pointer = some cell → after.cells pointer = some cell
  sizes : ∀ block, block < before.sizes.length →
    block < after.sizes.length ∧ after.sizes.getD block 0 = before.sizes.getD block 0

variable {memory : Memory Cell} {pointer : Pointer}

theorem Valid.block_lt (valid : memory.Valid pointer) : pointer.block < memory.sizes.length := by
  by_contra outside
  rw [Valid, List.getD_eq_default _ _ (Nat.not_lt.mp outside)] at valid
  exact Nat.not_lt_zero _ valid

theorem Extends.valid {after : Memory Cell} (kept : memory.Extends after)
    (valid : memory.Valid pointer) : after.Valid pointer := by
  rw [Valid, (kept.sizes pointer.block valid.block_lt).2]
  exact valid

/-- Writing to a cell for the first time. -/
theorem exists_write (valid : memory.Valid pointer) (unwritten : memory.cells pointer = none)
    (cell : Cell) : ∃ after, memory.write pointer cell = some after ∧
      after.sizes = memory.sizes ∧ after.cells = Function.update memory.cells pointer (some cell) ∧
      memory.Extends after := by
  refine ⟨_, dif_pos valid, rfl, rfl, ⟨fun other old written => ?_, fun block old => ⟨old, rfl⟩⟩⟩
  have different : other ≠ pointer := by
    rintro rfl
    cases unwritten.symm.trans written
  exact (Function.update_of_ne different _ _).trans written

theorem extends_allocate (memory : Memory Cell) (size : ℕ) :
    memory.Extends (memory.allocate size).2 where
  cells _ _ written := written
  sizes _ old :=
    ⟨List.length_append ▸ Nat.lt_add_right _ old, List.getD_append _ _ _ _ old⟩

/-- Nothing was written to a block that comes next. -/
theorem cells_next_block (memory : Memory Cell) (place : ℕ) :
    memory.cells ⟨memory.sizes.length, place⟩ = none := by
  refine memory.inside _ ?_
  rw [List.getD_eq_default _ _ (Nat.le_refl _)]
  exact Nat.zero_le _

theorem getD_allocate (memory : Memory Cell) (size : ℕ) :
    (memory.allocate size).2.sizes.getD memory.sizes.length 0 = size := by
  show (memory.sizes ++ [size]).getD memory.sizes.length 0 = size
  rw [List.getD_append_right _ _ _ _ (Nat.le_refl _), Nat.sub_self]
  rfl

end Memory

end Blocks
