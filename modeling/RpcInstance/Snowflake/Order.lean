/-
This file is about whole runs of the snowflake generator: every list of clock
readings, in any order and of any length.

Every id of a run decodes to the worker and the memory it was made from, so the
ids of one worker are ordered as their slots and two workers never meet. Read
through that order, the runs of the generator are the runs of the slot allocator.
The ids increase exactly when no call reads a millisecond before the stored time
stamp, and on a clock that never runs backwards that is exactly when they are
distinct.

The stored time stamp can be one millisecond ahead of the clock, because an
exhausted sequence borrows the next millisecond. A further reading of the old
millisecond then starts it over at sequence `0`, so distinctness is not
unconditional: it holds exactly while every window of the clock is read at most
once beyond its capacity of 4096 a millisecond.
-/

import RpcInstance.Snowflake.Layout

namespace RpcInstance.SnowflakeIdWorker

open Runs Slots

/-! ### The calls of a run -/

/-- One call: the generator it is made on, and the reading it makes. -/
structure Call where
  before : SnowflakeIdWorker
  reading : UInt64

/-- The id the call returns. -/
def Call.id (call : Call) : UInt64 := (call.before.genId call.reading).1

/-- The generator the call leaves behind. -/
def Call.after (call : Call) : SnowflakeIdWorker := (call.before.genId call.reading).2

/-- The calls of a run, in order. -/
def calls (worker : SnowflakeIdWorker) (readings : List UInt64) : List Call :=
  (history (fun worker now => (genId worker now).2) worker readings).map fun entry =>
    ⟨entry.1, entry.2⟩

/-- The ids a run returns, in order. -/
def ids (worker : SnowflakeIdWorker) (readings : List UInt64) : List UInt64 :=
  (calls worker readings).map Call.id

/-- No call reads a millisecond before the time stamp that the generator holds. -/
def OnTime (worker : SnowflakeIdWorker) (readings : List UInt64) : Prop :=
  ∀ call ∈ calls worker readings, call.before.lastTimeStamp ≤ call.reading

@[simp] theorem calls_cons (worker : SnowflakeIdWorker) (now : UInt64) (rest : List UInt64) :
    calls worker (now :: rest) = ⟨worker, now⟩ :: calls (worker.genId now).2 rest := rfl

theorem calls_reading_mem {worker : SnowflakeIdWorker} {readings : List UInt64} {call : Call}
    (member : call ∈ calls worker readings) : call.reading ∈ readings := by
  obtain ⟨entry, earlier, rfl⟩ := List.mem_map.mp member
  exact mem_labels (fun state now => (genId state now).2) worker earlier

/-- The two ids of a generator never change, so every call of a run is made with them. -/
theorem calls_ids {worker : SnowflakeIdWorker} {readings : List UInt64} {call : Call}
    (member : call ∈ calls worker readings) :
    call.before.workerId = worker.workerId ∧ call.before.dataCenterId = worker.dataCenterId := by
  obtain ⟨entry, earlier, rfl⟩ := List.mem_map.mp member
  exact (invariant_history (fun state now => (genId state now).2) worker
    (fun state => state.workerId = worker.workerId ∧ state.dataCenterId = worker.dataCenterId)
    (fun _ => True) ⟨rfl, rfl⟩ (fun _ _ same _ => same) readings (fun _ _ => trivial)
    entry earlier).1

theorem calls_inRange {worker : SnowflakeIdWorker} {readings : List UInt64} {call : Call}
    (inRange : InRange worker) (member : call ∈ calls worker readings) : InRange call.before := by
  obtain ⟨sameWorker, sameDataCenter⟩ := calls_ids member
  unfold InRange
  rw [sameWorker, sameDataCenter]
  exact inRange

/-- The runs of the generator are the runs of the allocator of slots. -/
theorem calls_slots (worker : SnowflakeIdWorker) (readings : List UInt64)
    (readable : ∀ now ∈ readings, Readable now) (small : worker.sequence.toNat < 4096) :
    (calls worker readings).map (fun call => (slot call.before, call.reading.toNat)) =
      history (advance 4096) (slot worker) (readings.map UInt64.toNat) := by
  induction readings generalizing worker with
  | nil => rfl
  | cons now rest inductionHypothesis =>
    rw [calls_cons, List.map_cons, List.map_cons, history_cons,
      inductionHypothesis _ (fun next member => readable next (List.mem_cons_of_mem _ member))
        (genId_sequence_lt worker now),
      slot_genId worker now (readable now List.mem_cons_self) small]

theorem calls_sequence_lt {worker : SnowflakeIdWorker} {readings : List UInt64} {call : Call}
    (small : worker.sequence.toNat < 4096) (member : call ∈ calls worker readings) :
    call.before.sequence.toNat < 4096 := by
  obtain ⟨entry, earlier, rfl⟩ := List.mem_map.mp member
  exact (invariant_history (fun state now => (genId state now).2) worker
    (fun state => state.sequence.toNat < 4096) (fun _ => True) small
    (fun state now _ _ => genId_sequence_lt state now) readings (fun _ _ => trivial)
    entry earlier).1

theorem calls_issued (worker : SnowflakeIdWorker) (readings : List UInt64)
    (readable : ∀ now ∈ readings, Readable now) (small : worker.sequence.toNat < 4096) :
    (calls worker readings).map (fun call => slot call.after) =
      issued 4096 (slot worker) (readings.map UInt64.toNat) := by
  unfold issued
  rw [← calls_slots worker readings readable small, List.map_map]
  refine List.map_congr_left fun call member => ?_
  exact slot_genId call.before call.reading (readable _ (calls_reading_mem member))
    (calls_sequence_lt small member)

theorem onTime_iff (worker : SnowflakeIdWorker) (readings : List UInt64)
    (readable : ∀ now ∈ readings, Readable now) (small : worker.sequence.toNat < 4096) :
    OnTime worker readings ↔
      NeverBehind 4096 (slot worker) (readings.map UInt64.toNat) := by
  unfold NeverBehind OnTime
  rw [← calls_slots worker readings readable small, List.forall_mem_map]
  exact forall₂_congr fun call _ => UInt64.le_iff_toNat_le

/-! ### Ids are ordered as their slots -/

/-- Two calls made with the same two ids return ids ordered as the slots they leave behind. -/
theorem id_lt_iff {first second : Call} (inRange : InRange first.before)
    (inRange' : InRange second.before) (readable : Readable first.reading)
    (readable' : Readable second.reading)
    (sameWorker : first.before.workerId = second.before.workerId)
    (sameDataCenter : first.before.dataCenterId = second.before.dataCenterId) :
    first.id < second.id ↔ slot first.after < slot second.after := by
  have bounds := genId_stamp_bounds first.before readable
  have bounds' := genId_stamp_bounds second.before readable'
  have small := genId_sequence_lt first.before first.reading
  have small' := genId_sequence_lt second.before second.reading
  rw [UInt64.lt_iff_toNat_lt, Slot.lt_iff]
  unfold Call.id Call.after slot
  rw [genId_toNat _ _ inRange readable, genId_toNat _ _ inRange' readable', sameWorker,
    sameDataCenter]
  unfold fields
  dsimp only
  omega

theorem id_inj_iff {first second : Call} (inRange : InRange first.before)
    (inRange' : InRange second.before) (readable : Readable first.reading)
    (readable' : Readable second.reading)
    (sameWorker : first.before.workerId = second.before.workerId)
    (sameDataCenter : first.before.dataCenterId = second.before.dataCenterId) :
    first.id = second.id ↔ slot first.after = slot second.after := by
  have bounds := genId_stamp_bounds first.before readable
  have bounds' := genId_stamp_bounds second.before readable'
  have small := genId_sequence_lt first.before first.reading
  have small' := genId_sequence_lt second.before second.reading
  rw [← UInt64.toNat_inj, Slot.ext_iff]
  unfold Call.id Call.after slot
  rw [genId_toNat _ _ inRange readable, genId_toNat _ _ inRange' readable', sameWorker,
    sameDataCenter]
  unfold fields
  dsimp only
  omega

section Runs

variable {worker : SnowflakeIdWorker} (inRange : InRange worker) {readings : List UInt64}
  (readable : ∀ now ∈ readings, Readable now)

include inRange readable

/-- A relation that holds of two ids as another one holds of their slots holds along the ids of a
run as the other one holds along its slots. -/
theorem ids_pairwise_of_slots {onIds : UInt64 → UInt64 → Prop} {onSlots : Slot → Slot → Prop}
    (agree : ∀ {first second : Call}, InRange first.before → InRange second.before →
      Readable first.reading → Readable second.reading →
      first.before.workerId = second.before.workerId →
      first.before.dataCenterId = second.before.dataCenterId →
      (onIds first.id second.id ↔ onSlots (slot first.after) (slot second.after)))
    (small : worker.sequence.toNat < 4096) :
    (ids worker readings).Pairwise onIds ↔
      (issued 4096 (slot worker) (readings.map UInt64.toNat)).Pairwise onSlots := by
  unfold ids
  rw [← calls_issued worker readings readable small, List.pairwise_map, List.pairwise_map]
  refine List.Pairwise.iff_of_mem fun {first second} member member' => ?_
  obtain ⟨sameWorker, sameDataCenter⟩ := calls_ids member
  obtain ⟨sameWorker', sameDataCenter'⟩ := calls_ids member'
  exact agree (calls_inRange inRange member) (calls_inRange inRange member')
    (readable _ (calls_reading_mem member)) (readable _ (calls_reading_mem member'))
    (sameWorker.trans sameWorker'.symm) (sameDataCenter.trans sameDataCenter'.symm)

theorem ids_pairwise_iff (small : worker.sequence.toNat < 4096) :
    (ids worker readings).Pairwise (· < ·) ↔
      (issued 4096 (slot worker) (readings.map UInt64.toNat)).Pairwise (· < ·) :=
  ids_pairwise_of_slots inRange readable id_lt_iff small

theorem ids_nodup_iff (small : worker.sequence.toNat < 4096) :
    (ids worker readings).Nodup ↔
      (issued 4096 (slot worker) (readings.map UInt64.toNat)).Nodup := by
  refine ids_pairwise_of_slots inRange readable ?_ small
  intro first second inRange inRange' readable readable' sameWorker sameDataCenter
  exact not_congr (id_inj_iff inRange inRange' readable readable' sameWorker sameDataCenter)

end Runs

end RpcInstance.SnowflakeIdWorker
