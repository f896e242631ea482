/-
This file is about the snowflake generator outside of what it was made for: built
with ids that do not fit into their five bits, and on a clock that steps back.

The constructor reports an id that is too large and keeps it, and nothing masks it
later. The ids of such a generator do not decode to what it was built with, and
another generator can return the same ones.

A call only tells whether it reads the stored time stamp or another one. A reading
behind the stored time stamp starts over at sequence `0`, as a new millisecond
does, and repeats the first id of its own millisecond.
-/

import RpcInstance.Library.Visits
import RpcInstance.Snowflake.Distinct

namespace RpcInstance.SnowflakeIdWorker

open Runs Slots

/-! ### Ids that are too large -/

/-- Every id that a generator built with these arguments returns decodes to them. -/
def DecodesToArguments (workerId dataCenterId : UInt64) : Prop :=
  ∀ readings : List UInt64, (∀ now ∈ readings, Readable now) →
    ∀ call ∈ calls (construct workerId dataCenterId).1 readings,
      (call.id >>> 12) % 32 = workerId ∧ (call.id >>> 17) % 32 = dataCenterId

/-- Two generators built with these arguments never return a common id, on whatever clocks. -/
def NeverMeet (workerId dataCenterId otherWorkerId otherDataCenterId : UInt64) : Prop :=
  ∀ readings otherReadings : List UInt64, (∀ now ∈ readings, Readable now) →
    (∀ now ∈ otherReadings, Readable now) →
      ∀ call ∈ calls (construct workerId dataCenterId).1 readings,
        ∀ other ∈ calls (construct otherWorkerId otherDataCenterId).1 otherReadings,
          call.id ≠ other.id

theorem readable_baseEpoch : Readable baseEpoch := by decide

theorem mod_thirtyTwo_le (value : UInt64) : value % 32 ≤ 31 := by
  rw [UInt64.le_iff_toNat_le, UInt64.toNat_mod]
  exact Nat.le_of_lt_succ (Nat.mod_lt _ (by decide))

/-- The ids decode to the arguments of the constructor exactly when the arguments pass its check. -/
theorem decodesToArguments_iff (workerId dataCenterId : UInt64) :
    DecodesToArguments workerId dataCenterId ↔ workerId ≤ 31 ∧ dataCenterId ≤ 31 := by
  constructor
  · intro decodes
    obtain ⟨worker, dataCenter⟩ := decodes [baseEpoch]
      (List.forall_mem_singleton.mpr readable_baseEpoch) _ List.mem_cons_self
    exact ⟨worker ▸ mod_thirtyTwo_le _, dataCenter ▸ mod_thirtyTwo_le _⟩
  · rintro ⟨workerBound, dataCenterBound⟩ readings readable call member
    have decoded := @calls_decode (construct workerId dataCenterId).1 readings call
      ⟨workerBound, dataCenterBound⟩ readable member
    exact ⟨decoded.worker, decoded.dataCenter⟩

/-- Ids that decode to different arguments differ. -/
theorem neverMeet_of_decode {workerId dataCenterId otherWorkerId otherDataCenterId : UInt64}
    (decodes : DecodesToArguments workerId dataCenterId)
    (otherDecodes : DecodesToArguments otherWorkerId otherDataCenterId)
    (different : (workerId, dataCenterId) ≠ (otherWorkerId, otherDataCenterId)) :
    NeverMeet workerId dataCenterId otherWorkerId otherDataCenterId := by
  intro readings otherReadings readable otherReadable call member other member' same
  obtain ⟨worker, dataCenter⟩ := decodes readings readable call member
  obtain ⟨worker', dataCenter'⟩ := otherDecodes otherReadings otherReadable other member'
  rw [same] at worker dataCenter
  exact different (Prod.ext (worker.symm.trans worker') (dataCenter.symm.trans dataCenter'))

/-- Two constructed generators return ids that decode to their arguments, and no common id where
the arguments differ, exactly when the arguments of both pass the check of the constructor. -/
theorem construct_protects_iff
    (workerId dataCenterId otherWorkerId otherDataCenterId : UInt64) :
    (DecodesToArguments workerId dataCenterId ∧
      DecodesToArguments otherWorkerId otherDataCenterId ∧
      ((workerId, dataCenterId) ≠ (otherWorkerId, otherDataCenterId) →
        NeverMeet workerId dataCenterId otherWorkerId otherDataCenterId)) ↔
    (workerId ≤ 31 ∧ dataCenterId ≤ 31) ∧ otherWorkerId ≤ 31 ∧ otherDataCenterId ≤ 31 := by
  rw [← decodesToArguments_iff, ← decodesToArguments_iff]
  constructor
  · rintro ⟨decodes, otherDecodes, -⟩
    exact ⟨decodes, otherDecodes⟩
  · rintro ⟨decodes, otherDecodes⟩
    exact ⟨decodes, otherDecodes, neverMeet_of_decode decodes otherDecodes⟩

/-- Worker `32` of data center `0` is reported and built, its ids decode to worker `0`, and worker
`0` of data center `1` returns the same ones. -/
theorem construct_overflow :
    (construct 32 0).2 = ["workderId overflow"] ∧ ¬ DecodesToArguments 32 0 ∧
      ((construct 32 0).1.genId baseEpoch).1 = ((construct 0 1).1.genId baseEpoch).1 ∧
      ¬ NeverMeet 32 0 0 1 := by
  have common : ((construct 32 0).1.genId baseEpoch).1 =
      ((construct 0 1).1.genId baseEpoch).1 := by decide
  refine ⟨by decide, fun decodes => ?_, common, fun never => ?_⟩
  · exact absurd ((decodesToArguments_iff 32 0).mp decodes).1 (by decide)
  · exact never [baseEpoch] [baseEpoch] (List.forall_mem_singleton.mpr readable_baseEpoch)
      (List.forall_mem_singleton.mpr readable_baseEpoch) _ List.mem_cons_self _
      List.mem_cons_self common

/-! ### Clocks that step back -/

/-- On a clock that may step back, and reads each millisecond at most 4096 times, the ids of a run
are distinct exactly when no millisecond is read again once another one has been read after it. -/
theorem ids_distinct_iff_neverReturns (workerId dataCenterId : UInt64) (workerBound : workerId ≤ 31)
    (dataCenterBound : dataCenterId ≤ 31) (readings : List UInt64)
    (readable : ∀ now ∈ readings, Readable now) (light : ∀ now, readings.count now ≤ 4096) :
    (ids (construct workerId dataCenterId).1 readings).Nodup ↔ NeverReturns readings := by
  have renamed := @neverReturns_map_iff UInt64 ℕ UInt64.toNat
    (fun _ _ => UInt64.toNat_inj.mp) readings
  rw [ids_nodup_iff ⟨workerBound, dataCenterBound⟩ readable construct_sequence_lt, ← renamed]
  exact nodup_issued_iff_neverReturns (count_toNat_le light) (construct_ahead readable)

/-- Three readings, the last of which returns to no millisecond that was left. -/
theorem ids_distinct_iff_neverReturns_three :
    (ids (construct 1 2).1 [baseEpoch + 7, baseEpoch + 7, baseEpoch + 3]).Nodup ↔
      NeverReturns [baseEpoch + 7, baseEpoch + 7, baseEpoch + 3] :=
  ids_distinct_iff_neverReturns 1 2 (by decide) (by decide)
    [baseEpoch + 7, baseEpoch + 7, baseEpoch + 3]
    (List.forall_mem_cons.mpr ⟨by decide,
      List.forall_mem_cons.mpr ⟨by decide, List.forall_mem_singleton.mpr (by decide)⟩⟩)
    (fun now => List.count_le_length.trans (by decide))

/-- A clock that steps back by a millisecond after two readings repeats the first id. -/
theorem ids_repeat_after_step :
    (∀ now ∈ [baseEpoch, baseEpoch + 1, baseEpoch], Readable now) ∧
      (∀ now, [baseEpoch, baseEpoch + 1, baseEpoch].count now ≤ 4096) ∧
      ¬ (ids (construct 1 2).1 [baseEpoch, baseEpoch + 1, baseEpoch]).Nodup := by
  refine ⟨?_, fun now => List.count_le_length.trans (by decide), fun distinct => ?_⟩
  · exact List.forall_mem_cons.mpr ⟨by decide,
      List.forall_mem_cons.mpr ⟨by decide, List.forall_mem_singleton.mpr (by decide)⟩⟩
  · have first := (List.nodup_cons.mp distinct).1
    exact first (List.mem_cons_of_mem _ (List.mem_singleton_self _))

end RpcInstance.SnowflakeIdWorker
