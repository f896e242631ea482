/-
This file settles what the ids of a snowflake generator promise over whole runs:
how an id is read back, when the ids of a run increase, and when they are
distinct.
-/

import RpcInstance.Snowflake.Order

namespace RpcInstance.SnowflakeIdWorker

open Runs Slots

/-! ### Reading an id back -/

theorem fields_div (milliseconds dataCenterId workerId sequence : ℕ)
    (worker : workerId < 2 ^ 5) (dataCenter : dataCenterId < 2 ^ 5) (small : sequence < 2 ^ 12) :
    fields milliseconds dataCenterId workerId sequence / 2 ^ 22 = milliseconds ∧
      fields milliseconds dataCenterId workerId sequence / 2 ^ 17 % 32 = dataCenterId ∧
      fields milliseconds dataCenterId workerId sequence / 2 ^ 12 % 32 = workerId ∧
      fields milliseconds dataCenterId workerId sequence % 4096 = sequence := by
  unfold fields
  refine ⟨?_, ?_, ?_, ?_⟩ <;> omega

/-- The four fields of an id are read back with shifts and remainders. -/
structure Decodes (call : Call) (workerId dataCenterId : UInt64) : Prop where
  positive : call.id < 2 ^ 63
  stamp : call.id >>> 22 + baseEpoch = call.after.lastTimeStamp
  reading : call.after.lastTimeStamp = call.reading ∨
    call.after.lastTimeStamp = call.reading + 1
  dataCenter : (call.id >>> 17) % 32 = dataCenterId
  worker : (call.id >>> 12) % 32 = workerId
  sequence : call.id % 4096 = call.after.sequence

theorem call_decodes (call : Call) (inRange : InRange call.before)
    (readable : Readable call.reading) :
    Decodes call call.before.workerId call.before.dataCenterId := by
  obtain ⟨workerBound, dataCenterBound⟩ := (inRange_iff call.before).mp inRange
  have bounds := genId_stamp_bounds call.before readable
  have small := genId_sequence_lt call.before call.reading
  have value : call.id.toNat = fields (call.after.lastTimeStamp.toNat - 1660924800000)
      call.before.dataCenterId.toNat call.before.workerId.toNat call.after.sequence.toNat :=
    genId_toNat call.before call.reading inRange readable
  obtain ⟨stamp, dataCenter, worker, sequence⟩ := fields_div
    (call.after.lastTimeStamp.toNat - 1660924800000) call.before.dataCenterId.toNat
    call.before.workerId.toNat call.after.sequence.toNat workerBound dataCenterBound small
  rw [← value] at stamp dataCenter worker sequence
  have shifted (width : UInt64) (amount : ℕ) (same : width.toNat % 64 = amount) :
      (call.id >>> width).toNat = call.id.toNat / 2 ^ amount := by
    rw [UInt64.toNat_shiftRight, same, Nat.shiftRight_eq_div_pow]
  refine ⟨?_, ?_, ?_, ?_, ?_, ?_⟩
  · have top : (2 ^ 63 : UInt64).toNat = 2 ^ 63 := by decide +kernel
    rw [UInt64.lt_iff_toNat_lt, value, top]
    unfold fields
    have upper : call.after.lastTimeStamp.toNat < 1660924800000 + 2 ^ 41 := bounds.2
    have masked : call.after.sequence.toNat < 4096 := small
    omega
  · refine UInt64.toNat_inj.mp ?_
    rw [UInt64.toNat_add, shifted 22 22 rfl, stamp, Nat.mod_eq_of_lt]
    · exact Nat.sub_add_cancel bounds.1
    · exact (Nat.sub_add_cancel bounds.1).trans_lt (UInt64.toNat_lt _)
  · exact (genId_stamp call.before call.reading).imp_right And.left
  · exact UInt64.toNat_inj.mp (by rw [UInt64.toNat_mod, shifted 17 17 rfl]; exact dataCenter)
  · exact UInt64.toNat_inj.mp (by rw [UInt64.toNat_mod, shifted 12 12 rfl]; exact worker)
  · exact UInt64.toNat_inj.mp (by rw [UInt64.toNat_mod]; exact sequence)

theorem calls_decode {worker : SnowflakeIdWorker} {readings : List UInt64} {call : Call}
    (inRange : InRange worker) (readable : ∀ now ∈ readings, Readable now)
    (member : call ∈ calls worker readings) :
    Decodes call worker.workerId worker.dataCenterId := by
  obtain ⟨sameWorker, sameDataCenter⟩ := calls_ids member
  have decoded := call_decodes call (calls_inRange inRange member)
    (readable _ (calls_reading_mem member))
  rwa [sameWorker, sameDataCenter] at decoded

/-- The id layout. Every id of a run over readings in any order is below `2 ^ 63` and decodes to
the stored time stamp, the data center, the worker and the stored sequence; the ids of one
worker are ordered as their time stamp and sequence; and workers built with different ids never
return a common id. -/
theorem ids_layout (workerId dataCenterId : UInt64) (workerBound : workerId ≤ 31)
    (dataCenterBound : dataCenterId ≤ 31) (readings : List UInt64)
    (readable : ∀ now ∈ readings, Readable now) :
    (∀ call ∈ calls (construct workerId dataCenterId).1 readings,
      Decodes call workerId dataCenterId) ∧
    (∀ first ∈ calls (construct workerId dataCenterId).1 readings,
      ∀ second ∈ calls (construct workerId dataCenterId).1 readings,
        (first.id < second.id ↔ slot first.after < slot second.after)) ∧
    (∀ otherWorkerId otherDataCenterId : UInt64, otherWorkerId ≤ 31 → otherDataCenterId ≤ 31 →
      (otherWorkerId, otherDataCenterId) ≠ (workerId, dataCenterId) →
      ∀ otherReadings : List UInt64, (∀ now ∈ otherReadings, Readable now) →
        ∀ call ∈ calls (construct workerId dataCenterId).1 readings,
          ∀ other ∈ calls (construct otherWorkerId otherDataCenterId).1 otherReadings,
            call.id ≠ other.id) := by
  have inRange : InRange (construct workerId dataCenterId).1 := ⟨workerBound, dataCenterBound⟩
  refine ⟨fun call member => calls_decode inRange readable member, ?_, ?_⟩
  · intro first member second member'
    obtain ⟨sameWorker, sameDataCenter⟩ := calls_ids member
    obtain ⟨sameWorker', sameDataCenter'⟩ := calls_ids member'
    exact id_lt_iff (calls_inRange inRange member) (calls_inRange inRange member')
      (readable _ (calls_reading_mem member)) (readable _ (calls_reading_mem member'))
      (sameWorker.trans sameWorker'.symm) (sameDataCenter.trans sameDataCenter'.symm)
  · intro otherWorkerId otherDataCenterId otherWorkerBound otherDataCenterBound different
      otherReadings otherReadable call member other member' same
    have decoded := calls_decode inRange readable member
    have decoded' := @calls_decode (construct otherWorkerId otherDataCenterId).1 otherReadings
      other ⟨otherWorkerBound, otherDataCenterBound⟩ otherReadable member'
    refine different (Prod.ext ?_ ?_)
    · exact decoded'.worker.symm.trans (same ▸ decoded.worker)
    · exact decoded'.dataCenter.symm.trans (same ▸ decoded.dataCenter)

/-- The second of two readings out of order, on worker `1` of data center `2`. -/
theorem ids_layout_backwards :
    Decodes ⟨((construct 1 2).1.genId (baseEpoch + 5)).2, baseEpoch + 3⟩ 1 2 :=
  (ids_layout 1 2 (by decide) (by decide) [baseEpoch + 5, baseEpoch + 3]
    (List.forall_mem_cons.mpr ⟨by decide, List.forall_mem_singleton.mpr (by decide)⟩)).1 _
    (List.mem_cons_of_mem _ List.mem_cons_self)

/-! ### Increasing and distinct ids -/

/-- The number of readings in the window of `width` milliseconds from `first` on. -/
def windowLoad (readings : List UInt64) (first width : ℕ) : ℕ :=
  load (readings.map UInt64.toNat) first width

section

variable {workerId dataCenterId : UInt64}

theorem construct_sequence_lt : (construct workerId dataCenterId).1.sequence.toNat < 4096 := by
  show (0 : UInt64).toNat < 4096
  decide

theorem construct_ahead {readings : List UInt64} (readable : ∀ now ∈ readings, Readable now) :
    ∀ reading ∈ readings.map UInt64.toNat, (⟨0, 0⟩ : Slot).tick < reading := by
  intro reading member
  obtain ⟨now, earlier, rfl⟩ := List.mem_map.mp member
  exact lt_of_lt_of_le (by decide) ((readable_iff now).mp (readable now earlier)).1

theorem sorted_toNat {readings : List UInt64} (sorted : readings.Pairwise (· ≤ ·)) :
    (readings.map UInt64.toNat).Pairwise (· ≤ ·) :=
  List.pairwise_map.mpr (sorted.imp UInt64.le_iff_toNat_le.mp)

theorem count_toNat (readings : List UInt64) (now : UInt64) :
    (readings.map UInt64.toNat).count now.toNat = readings.count now :=
  List.count_map_of_injective readings UInt64.toNat (fun _ _ => UInt64.toNat_inj.mp) now

/-- A clock that reads each millisecond at most so often does so as a clock of naturals. -/
theorem count_toNat_le {readings : List UInt64} {bound : ℕ}
    (light : ∀ now, readings.count now ≤ bound) (tick : ℕ) :
    (readings.map UInt64.toNat).count tick ≤ bound := by
  by_cases member : tick ∈ readings.map UInt64.toNat
  · obtain ⟨now, -, rfl⟩ := List.mem_map.mp member
    exact (count_toNat readings now).le.trans (light now)
  · rw [List.count_eq_zero_of_not_mem member]
    exact Nat.zero_le _

variable (workerBound : workerId ≤ 31) (dataCenterBound : dataCenterId ≤ 31)
  {readings : List UInt64} (readable : ∀ now ∈ readings, Readable now)

include readable

theorem onTime_construct_iff :
    OnTime (construct workerId dataCenterId).1 readings ↔
      NeverBehind 4096 ⟨0, 0⟩ (readings.map UInt64.toNat) :=
  onTime_iff (construct workerId dataCenterId).1 readings readable construct_sequence_lt

theorem onTime_iff_windowLoad (sorted : readings.Pairwise (· ≤ ·)) :
    OnTime (construct workerId dataCenterId).1 readings ↔
      ∀ first width, windowLoad readings first width ≤ 4096 * width + 1 :=
  (onTime_construct_iff readable).trans
    (neverBehind_iff_load (by decide) ⟨0, 0⟩ (by decide) _ (sorted_toNat sorted)
      (construct_ahead readable))

include workerBound dataCenterBound

theorem increasing_iff_onTime :
    (ids (construct workerId dataCenterId).1 readings).Pairwise (· < ·) ↔
      OnTime (construct workerId dataCenterId).1 readings := by
  rw [ids_pairwise_iff ⟨workerBound, dataCenterBound⟩ readable construct_sequence_lt,
    onTime_construct_iff readable]
  exact pairwise_issued_iff ⟨0, 0⟩ _ (construct_ahead readable)

theorem nodup_iff_onTime (sorted : readings.Pairwise (· ≤ ·)) :
    (ids (construct workerId dataCenterId).1 readings).Nodup ↔
      OnTime (construct workerId dataCenterId).1 readings := by
  rw [ids_nodup_iff ⟨workerBound, dataCenterBound⟩ readable construct_sequence_lt,
    onTime_construct_iff readable]
  exact nodup_issued_iff ⟨0, 0⟩ _ (sorted_toNat sorted) (construct_ahead readable)

end

theorem onTime_of_count_le {workerId dataCenterId : UInt64} {readings : List UInt64}
    (readable : ∀ now ∈ readings, Readable now) (sorted : readings.Pairwise (· ≤ ·))
    (light : ∀ now, readings.count now ≤ 4096) :
    OnTime (construct workerId dataCenterId).1 readings := by
  rw [onTime_iff_windowLoad readable sorted]
  exact fun first width => (load_le_of_count_le _ (count_toNat_le light) first width).trans
    (Nat.le_succ _)

/-- While each millisecond is read at most 4096 times, a call stamps the millisecond it reads. -/
theorem stamp_of_count_le {workerId dataCenterId : UInt64} {readings : List UInt64}
    (readable : ∀ now ∈ readings, Readable now) (light : ∀ now, readings.count now ≤ 4096)
    {call : Call} (member : call ∈ calls (construct workerId dataCenterId).1 readings) :
    call.after.lastTimeStamp = call.reading := by
  have step : (slot call.before, call.reading.toNat) ∈
      history (advance 4096) ⟨0, 0⟩ (readings.map UInt64.toNat) := by
    have mapped := List.mem_map_of_mem
      (f := fun call : Call => (slot call.before, call.reading.toNat)) member
    rwa [calls_slots _ readings readable construct_sequence_lt] at mapped
  have tick := tick_of_count_le ⟨0, 0⟩ (readings.map UInt64.toNat) (count_toNat_le light)
    (construct_ahead readable) _ step
  have issued := slot_genId call.before call.reading (readable _ (calls_reading_mem member))
    (calls_sequence_lt construct_sequence_lt member)
  rw [← issued] at tick
  exact UInt64.toNat_inj.mp tick

/-- While each millisecond is read at most 4096 times, the ids that fit into 32 bits are those of
the first 1024 milliseconds. -/
theorem id_lt_iff_of_count_le {workerId dataCenterId : UInt64} (workerBound : workerId ≤ 31)
    (dataCenterBound : dataCenterId ≤ 31) {readings : List UInt64}
    (readable : ∀ now ∈ readings, Readable now) (light : ∀ now, readings.count now ≤ 4096)
    {call : Call} (member : call ∈ calls (construct workerId dataCenterId).1 readings) :
    call.id.toNat < 2 ^ 32 ↔ call.reading < baseEpoch + 1024 := by
  have inRange := @calls_inRange (construct workerId dataCenterId).1 readings call
    ⟨workerBound, dataCenterBound⟩ member
  have read := readable _ (calls_reading_mem member)
  have stamp := stamp_of_count_le readable light member
  obtain ⟨small, small'⟩ := (inRange_iff call.before).mp inRange
  have masked := genId_sequence_lt call.before call.reading
  obtain ⟨lower, -⟩ := (readable_iff call.reading).mp read
  have bound : (baseEpoch + 1024).toNat = 1660924800000 + 1024 := by decide
  unfold Call.id
  unfold Call.after at stamp
  rw [genId_toNat call.before call.reading inRange read, stamp, UInt64.lt_iff_toNat_lt, bound]
  unfold fields
  omega

theorem not_onTime_of_count {workerId dataCenterId : UInt64} {readings : List UInt64}
    (readable : ∀ now ∈ readings, Readable now) (sorted : readings.Pairwise (· ≤ ·))
    {now : UInt64} (heavy : 4098 ≤ readings.count now) :
    ¬ OnTime (construct workerId dataCenterId).1 readings := by
  rw [onTime_iff_windowLoad readable sorted]
  intro light
  have bound := light now.toNat 1
  rw [windowLoad, load_one, count_toNat] at bound
  omega

/-- The ids of a run increase exactly when no call reads a millisecond before the stored time
stamp; on a clock that never runs backwards that is also exactly when they are distinct. Such a
clock keeps to it when it reads each millisecond at most 4096 times, and does not when it reads
one at least 4098 times. -/
theorem ids_increasing_iff (workerId dataCenterId : UInt64) (workerBound : workerId ≤ 31)
    (dataCenterBound : dataCenterId ≤ 31) (readings : List UInt64)
    (readable : ∀ now ∈ readings, Readable now) :
    ((ids (construct workerId dataCenterId).1 readings).Pairwise (· < ·) ↔
      OnTime (construct workerId dataCenterId).1 readings) ∧
    (readings.Pairwise (· ≤ ·) →
      ((ids (construct workerId dataCenterId).1 readings).Nodup ↔
        OnTime (construct workerId dataCenterId).1 readings) ∧
      ((∀ now, readings.count now ≤ 4096) →
        OnTime (construct workerId dataCenterId).1 readings) ∧
      ((∃ now, 4098 ≤ readings.count now) →
        ¬ OnTime (construct workerId dataCenterId).1 readings)) := by
  refine ⟨increasing_iff_onTime workerBound dataCenterBound readable, fun sorted => ⟨?_, ?_, ?_⟩⟩
  · exact nodup_iff_onTime workerBound dataCenterBound readable sorted
  · exact onTime_of_count_le readable sorted
  · rintro ⟨now, heavy⟩
    exact not_onTime_of_count readable sorted heavy

/-- A clock that steps back once. -/
theorem ids_increasing_iff_backwards :
    (ids (construct 1 2).1 [baseEpoch + 5, baseEpoch + 3]).Pairwise (· < ·) ↔
      OnTime (construct 1 2).1 [baseEpoch + 5, baseEpoch + 3] :=
  (ids_increasing_iff 1 2 (by decide) (by decide) [baseEpoch + 5, baseEpoch + 3]
    (List.forall_mem_cons.mpr ⟨by decide, List.forall_mem_singleton.mpr (by decide)⟩)).1

/-- On a clock that never runs backwards the ids of a run are distinct exactly when every window
of milliseconds is read at most once beyond its capacity of 4096 a millisecond. -/
theorem ids_distinct_iff (workerId dataCenterId : UInt64) (workerBound : workerId ≤ 31)
    (dataCenterBound : dataCenterId ≤ 31) (readings : List UInt64)
    (readable : ∀ now ∈ readings, Readable now) (sorted : readings.Pairwise (· ≤ ·)) :
    (ids (construct workerId dataCenterId).1 readings).Nodup ↔
      ∀ first width, windowLoad readings first width ≤ 4096 * width + 1 :=
  (nodup_iff_onTime workerBound dataCenterBound readable sorted).trans
    (onTime_iff_windowLoad readable sorted)

/-- Three readings in two milliseconds. -/
theorem ids_distinct_iff_three :
    (ids (construct 1 2).1 [baseEpoch, baseEpoch, baseEpoch + 1]).Nodup ↔
      ∀ first width,
        windowLoad [baseEpoch, baseEpoch, baseEpoch + 1] first width ≤ 4096 * width + 1 :=
  ids_distinct_iff 1 2 (by decide) (by decide) [baseEpoch, baseEpoch, baseEpoch + 1]
    (List.forall_mem_cons.mpr ⟨by decide,
      List.forall_mem_cons.mpr ⟨by decide, List.forall_mem_singleton.mpr (by decide)⟩⟩)
    (by decide)

/-- Reading one millisecond 4098 times repeats an id: the 4097th call borrows the next
millisecond, and the 4098th starts the old one over. -/
theorem ids_repeat_under_load :
    (∀ now ∈ List.replicate 4098 baseEpoch, Readable now) ∧
      (List.replicate 4098 baseEpoch).Pairwise (· ≤ ·) ∧
      ¬ (ids (construct 1 2).1 (List.replicate 4098 baseEpoch)).Nodup := by
  have readable : ∀ now ∈ List.replicate 4098 baseEpoch, Readable now := by
    intro now member
    rw [List.eq_of_mem_replicate member]
    decide
  have sorted : (List.replicate 4098 baseEpoch).Pairwise (· ≤ ·) :=
    List.pairwise_replicate.mpr (Or.inr (UInt64.le_refl _))
  refine ⟨readable, sorted, fun distinct => ?_⟩
  have heavy : 4098 ≤ (List.replicate 4098 baseEpoch).count baseEpoch := by
    rw [List.count_replicate_self]
  exact not_onTime_of_count readable sorted heavy
    ((nodup_iff_onTime (by decide) (by decide) readable sorted).mp distinct)

end RpcInstance.SnowflakeIdWorker
