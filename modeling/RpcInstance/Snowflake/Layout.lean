/-
This file reads the ids of the snowflake generator as numbers. An id is four
fields side by side -- the milliseconds since the epoch, the data center, the
worker, the sequence -- and as long as each stays inside its bits the shifts and
ors of `genId` are additions, so the fields can be read back.

The generator's memory is one slot of `RpcInstance.Library.Slots`: the last time
stamp is the tick, the sequence the index, and `genId` is the allocator of slots
with room for 4096 a tick (`slot_genId`). What a run of calls does is therefore
read off the runs of that allocator.
-/

import RpcInstance.IdWorker
import RpcInstance.Library.Slots
import Mathlib.Data.Nat.Bitwise
import Mathlib.Tactic.Ring

namespace RpcInstance.SnowflakeIdWorker

open Runs Slots

/-! ### One call -/

/-- The two ids a generator was built with fit in their five bits. -/
def InRange (worker : SnowflakeIdWorker) : Prop :=
  worker.workerId ≤ 31 ∧ worker.dataCenterId ≤ 31

/-- A clock reading that leaves room in the 41-bit field for a borrowed millisecond. -/
def Readable (now : UInt64) : Prop :=
  baseEpoch ≤ now ∧ now < baseEpoch + (2 ^ 41 - 1)

instance (worker : SnowflakeIdWorker) : Decidable (InRange worker) :=
  inferInstanceAs (Decidable (_ ∧ _))

instance (now : UInt64) : Decidable (Readable now) := inferInstanceAs (Decidable (_ ∧ _))

theorem readable_iff (now : UInt64) :
    Readable now ↔ 1660924800000 ≤ now.toNat ∧ now.toNat < 1660924800000 + (2 ^ 41 - 1) := by
  unfold Readable
  rw [UInt64.le_iff_toNat_le, UInt64.lt_iff_toNat_lt]
  rfl

theorem inRange_iff (worker : SnowflakeIdWorker) :
    InRange worker ↔ worker.workerId.toNat < 32 ∧ worker.dataCenterId.toNat < 32 := by
  unfold InRange
  rw [UInt64.le_iff_toNat_le, UInt64.le_iff_toNat_le]
  show worker.workerId.toNat ≤ 31 ∧ worker.dataCenterId.toNat ≤ 31 ↔ _
  omega

/-- The generator's memory as a slot: the last time stamp and the sequence. -/
def slot (worker : SnowflakeIdWorker) : Slot :=
  ⟨worker.lastTimeStamp.toNat, worker.sequence.toNat⟩

theorem and_sequenceMask (value : UInt64) :
    (value &&& sequenceMask).toNat = value.toNat % 4096 := by
  rw [UInt64.toNat_and]
  exact Nat.and_two_pow_sub_one_eq_mod value.toNat 12

/-- The memory after a call, as the allocator of slots leaves it. -/
theorem slot_genId (worker : SnowflakeIdWorker) (now : UInt64) (readable : Readable now)
    (small : worker.sequence.toNat < 4096) :
    slot (worker.genId now).2 = advance 4096 (slot worker) now.toNat := by
  have masked : ((worker.sequence + 1) &&& sequenceMask).toNat =
      (worker.sequence.toNat + 1) % 4096 := by
    rw [and_sequenceMask, UInt64.toNat_add]
    exact congrArg (· % 4096) (Nat.mod_eq_of_lt (by
      show worker.sequence.toNat + 1 < 2 ^ 64
      omega))
  have later : (now + 1).toNat = now.toNat + 1 := by
    obtain ⟨-, upper⟩ := (readable_iff now).mp readable
    rw [UInt64.toNat_add]
    exact Nat.mod_eq_of_lt (by
      show now.toNat + 1 < 2 ^ 64
      omega)
  unfold advance slot genId
  by_cases same : worker.lastTimeStamp = now
  · simp only [if_pos same, if_pos (congrArg UInt64.toNat same)]
    by_cases full : worker.sequence.toNat + 1 = 4096
    · have wraps : (worker.sequence + 1) &&& sequenceMask = 0 :=
        UInt64.toNat_inj.mp (by rw [masked, full]; rfl)
      rw [if_pos wraps, if_pos full, wraps, later]
      rfl
    · have stays : (worker.sequence + 1) &&& sequenceMask ≠ 0 := by
        intro wraps
        rw [wraps] at masked
        have zero : 0 = (worker.sequence.toNat + 1) % 4096 := masked
        omega
      rw [if_neg stays, if_neg full, masked, Nat.mod_eq_of_lt (by omega)]
  · have other : worker.lastTimeStamp.toNat ≠ now.toNat :=
      fun equal => same (UInt64.toNat_inj.mp equal)
    simp only [if_neg same, if_neg other]
    rfl

/-- A call stamps the reading it made, or the millisecond after it with sequence `0`. -/
theorem genId_stamp (worker : SnowflakeIdWorker) (now : UInt64) :
    (worker.genId now).2.lastTimeStamp = now ∨
      ((worker.genId now).2.lastTimeStamp = now + 1 ∧ (worker.genId now).2.sequence = 0) := by
  unfold genId
  by_cases same : worker.lastTimeStamp = now
  · simp only [if_pos same]
    by_cases wraps : (worker.sequence + 1) &&& sequenceMask = 0
    · exact Or.inr ⟨if_pos wraps, wraps⟩
    · exact Or.inl (if_neg wraps)
  · simp only [if_neg same]
    exact Or.inl trivial

/-- The masked sequence stays in its twelve bits, whatever the memory was before. -/
theorem genId_sequence_lt (worker : SnowflakeIdWorker) (now : UInt64) :
    (worker.genId now).2.sequence.toNat < 4096 := by
  unfold genId
  by_cases same : worker.lastTimeStamp = now
  · simp only [if_pos same]
    rw [and_sequenceMask]
    exact Nat.mod_lt _ (by decide)
  · simp only [if_neg same]
    decide

/-- The time stamp of a call lies in the 41 bits after the epoch. -/
theorem genId_stamp_bounds (worker : SnowflakeIdWorker) {now : UInt64} (readable : Readable now) :
    1660924800000 ≤ (worker.genId now).2.lastTimeStamp.toNat ∧
      (worker.genId now).2.lastTimeStamp.toNat < 1660924800000 + 2 ^ 41 := by
  obtain ⟨lower, upper⟩ := (readable_iff now).mp readable
  obtain same | ⟨borrowed, -⟩ := genId_stamp worker now
  · rw [same]
    omega
  · rw [borrowed, UInt64.toNat_add, Nat.mod_eq_of_lt]
    · show 1660924800000 ≤ now.toNat + 1 ∧ now.toNat + 1 < _
      omega
    · show now.toNat + 1 < 2 ^ 64
      omega

/-! ### The four fields of an id -/

/-- The id a memory stands for: the four fields side by side. -/
def fields (milliseconds dataCenterId workerId sequence : ℕ) : ℕ :=
  milliseconds * 2 ^ 22 + dataCenterId * 2 ^ 17 + workerId * 2 ^ 12 + sequence

theorem shifts_or_eq_fields (milliseconds dataCenterId workerId sequence : ℕ)
    (worker : workerId < 2 ^ 5) (dataCenter : dataCenterId < 2 ^ 5) (small : sequence < 2 ^ 12) :
    milliseconds <<< 22 ||| dataCenterId <<< 17 ||| workerId <<< 12 ||| sequence =
      fields milliseconds dataCenterId workerId sequence := by
  have low : workerId <<< 12 ||| sequence = workerId * 2 ^ 12 + sequence := by
    rw [← Nat.shiftLeft_add_eq_or_of_lt small, Nat.shiftLeft_eq]
  have middle : dataCenterId <<< 17 ||| (workerId * 2 ^ 12 + sequence) =
      dataCenterId * 2 ^ 17 + (workerId * 2 ^ 12 + sequence) := by
    rw [← Nat.shiftLeft_add_eq_or_of_lt (by omega), Nat.shiftLeft_eq]
  have high : milliseconds <<< 22 |||
        (dataCenterId * 2 ^ 17 + (workerId * 2 ^ 12 + sequence)) =
      milliseconds * 2 ^ 22 + (dataCenterId * 2 ^ 17 + (workerId * 2 ^ 12 + sequence)) := by
    rw [← Nat.shiftLeft_add_eq_or_of_lt (by omega), Nat.shiftLeft_eq]
  rw [Nat.or_assoc, Nat.or_assoc, low, middle, high, fields]
  ring

/-- An id is its four fields side by side: no shift loses a bit and no two fields overlap. -/
theorem genId_toNat (worker : SnowflakeIdWorker) (now : UInt64) (inRange : InRange worker)
    (readable : Readable now) :
    (worker.genId now).1.toNat =
      fields ((worker.genId now).2.lastTimeStamp.toNat - 1660924800000)
        worker.dataCenterId.toNat worker.workerId.toNat
        (worker.genId now).2.sequence.toNat := by
  obtain ⟨workerBound, dataCenterBound⟩ := (inRange_iff worker).mp inRange
  obtain ⟨lower, upper⟩ := genId_stamp_bounds worker readable
  have small := genId_sequence_lt worker now
  have unfolded : (worker.genId now).1 =
      (((worker.genId now).2.lastTimeStamp - baseEpoch) <<< timestampLeftShift) |||
        (worker.dataCenterId <<< dataCenterIdShift) |||
        (worker.workerId <<< workerIdShift) ||| (worker.genId now).2.sequence := rfl
  have elapsed : ((worker.genId now).2.lastTimeStamp - baseEpoch).toNat =
      (worker.genId now).2.lastTimeStamp.toNat - 1660924800000 :=
    UInt64.toNat_sub_of_le _ _ (UInt64.le_iff_toNat_le.mpr lower)
  have stamp : (((worker.genId now).2.lastTimeStamp - baseEpoch) <<< timestampLeftShift).toNat =
      ((worker.genId now).2.lastTimeStamp.toNat - 1660924800000) <<< 22 := by
    rw [UInt64.toNat_shiftLeft, elapsed]
    show _ <<< 22 % 2 ^ 64 = _
    rw [Nat.shiftLeft_eq, Nat.mod_eq_of_lt (by omega)]
  have dataCenter : (worker.dataCenterId <<< dataCenterIdShift).toNat =
      worker.dataCenterId.toNat <<< 17 := by
    rw [UInt64.toNat_shiftLeft]
    show _ <<< 17 % 2 ^ 64 = _
    rw [Nat.shiftLeft_eq, Nat.mod_eq_of_lt (by omega)]
  have machine : (worker.workerId <<< workerIdShift).toNat = worker.workerId.toNat <<< 12 := by
    rw [UInt64.toNat_shiftLeft]
    show _ <<< 12 % 2 ^ 64 = _
    rw [Nat.shiftLeft_eq, Nat.mod_eq_of_lt (by omega)]
  rw [unfolded, UInt64.toNat_or, UInt64.toNat_or, UInt64.toNat_or, stamp, dataCenter, machine,
    shifts_or_eq_fields _ _ _ _ workerBound dataCenterBound small]

end RpcInstance.SnowflakeIdWorker
