/-
This file settles which callback a reply reaches, with the counter and with the
snowflake generator, and what the callback maps hold over a run.
-/

import RpcInstance.Correlation
import RpcInstance.Snowflake.Distinct

namespace RpcInstance

open Runs Code

/-! ### The counter -/

theorem IdWorker.and_maxId (value : UInt64) : value &&& maxId = value := by
  refine UInt64.toNat_inj.mp ?_
  rw [UInt64.toNat_and]
  show value.toNat &&& (2 ^ 64 - 1) = value.toNat
  rw [Nat.and_two_pow_sub_one_eq_mod]
  exact Nat.mod_eq_of_lt (UInt64.toNat_lt value)

/-- The counter counts: while it does not wrap, each id is above all before it. -/
theorem IdWorker.ids_increasing (worker : IdWorker) (readings : List Unit)
    (few : worker.curId.toNat + readings.length < 2 ^ 64) :
    (IdGenerator.ids worker readings).Pairwise (· < ·) ∧
      ∀ id ∈ IdGenerator.ids worker readings, worker.curId < id := by
  induction readings generalizing worker with
  | nil => exact ⟨List.Pairwise.nil, fun id member => nomatch member⟩
  | cons reading readings inductionHypothesis =>
    rw [List.length_cons] at few
    have next : (worker.genId).1.toNat = worker.curId.toNat + 1 := by
      show ((worker.curId &&& maxId) + 1).toNat = _
      rw [and_maxId, UInt64.toNat_add]
      show (worker.curId.toNat + 1) % 2 ^ 64 = _
      exact Nat.mod_eq_of_lt (by omega)
    have above : worker.curId < (worker.genId).1 := by
      rw [UInt64.lt_iff_toNat_lt, next]
      exact Nat.lt_succ_self _
    obtain ⟨increasing, bound⟩ := inductionHypothesis (worker.genId).2 (by
      show (worker.genId).1.toNat + readings.length < 2 ^ 64
      omega)
    have ids : IdGenerator.ids worker (reading :: readings) =
        (worker.genId).1 :: IdGenerator.ids (worker.genId).2 readings := rfl
    rw [ids]
    refine ⟨List.pairwise_cons.mpr ⟨bound, increasing⟩, fun id member => ?_⟩
    rcases List.mem_cons.mp member with rfl | later
    · exact above
    · exact UInt64.lt_trans above (bound id later)

theorem IdWorker.ids_nodup (readings : List Unit) (few : readings.length < 2 ^ 64) :
    (IdGenerator.ids ({} : IdWorker) readings).Nodup := by
  have few' : ({} : IdWorker).curId.toNat + readings.length < 2 ^ 64 := by
    show 0 + readings.length < 2 ^ 64
    rwa [Nat.zero_add]
  exact (ids_increasing {} readings few').1.imp UInt64.ne_of_lt

/-! ### The snowflake generator -/

theorem SnowflakeIdWorker.mem_calls {worker generator : SnowflakeIdWorker} {readings : List UInt64}
    {now : UInt64} (drawn : (generator, now) ∈ history
      (fun generator reading => (IdGenerator.genId generator reading).2) worker readings) :
    SnowflakeIdWorker.Call.mk generator now ∈ SnowflakeIdWorker.calls worker readings :=
  List.mem_map.mpr ⟨(generator, now), drawn, rfl⟩

theorem SnowflakeIdWorker.ids_eq (worker : SnowflakeIdWorker) (readings : List UInt64) :
    IdGenerator.ids worker readings = SnowflakeIdWorker.ids worker readings := by
  unfold SnowflakeIdWorker.ids SnowflakeIdWorker.calls
  rw [List.map_map]
  rfl

/-! ### Replies in a run -/

section

variable {Object Generator Input Env : Type} [IdGenerator Generator Input]

/-- A call of a history that waits for its reply: what it read, what it registered, and the frame
it handed to `sendMsg`. -/
def Sent (past : History Object Generator Env Input) (reading : Input)
    (registered : Registration Object Env) (frame : RpcMsg) : Prop :=
  ∃ entry ∈ past, World.reading entry.2 = some reading ∧
    entry.1.registers entry.2 = some registered ∧
      ∃ size, entry.1.ending entry.2 = .ok (.sendMsg frame size)

/-- The drawn ids of a history are the generator's, so cutting the history cuts them. -/
theorem drawnIds_past [DecidableEq Object] {world : World Object Generator Env}
    {acts : List (Act Object Input Env)} {past future : History Object Generator Env Input}
    (cut : history World.step world acts = past ++ future)
    (distinct : (IdGenerator.ids world.idWorker (readings acts)).Nodup) :
    (drawnIds past).Nodup := by
  rw [← drawnIds_history, cut, drawnIds, List.filterMap_append] at distinct
  exact distinct.of_append_left

/-- A call that waits for its reply was given its id by a call of the generator. -/
theorem Sent.drawn [DecidableEq Object] {world : World Object Generator Env}
    {acts : List (Act Object Input Env)} {past future : History Object Generator Env Input}
    (cut : history World.step world acts = past ++ future) {reading : Input}
    {registered : Registration Object Env} {frame : RpcMsg}
    (sent : Sent past reading registered frame) :
    ∃ generator, (generator, reading) ∈
        history (fun generator reading => (IdGenerator.genId generator reading).2) world.idWorker
          (readings acts) ∧
      registered.id = (IdGenerator.genId generator reading).1 := by
  obtain ⟨entry, member, read, registers, -⟩ := sent
  refine ⟨entry.1.idWorker, ?_, ?_⟩
  · rw [← drawn_history, cut]
    refine List.mem_filterMap.mpr ⟨entry, List.mem_append_left _ member, ?_⟩
    rw [read]
    rfl
  · have draws := World.draws_of_registers registers
    rw [World.draws, read] at draws
    exact (Option.some.inj draws).symm

theorem tracks_past [DecidableEq Object]
    {functionMap : Object → Std.HashMap CallType (Wrapper Env)} {idWorker : Generator}
    {acts : List (Act Object Input Env)} {past future : History Object Generator Env Input}
    {world : World Object Generator Env} {act : Act Object Input Env}
    (cut : history World.step (World.start functionMap idWorker) acts =
      past ++ (world, act) :: future) : Tracks past world := by
  obtain ⟨before, -, -, rfl, rfl, -⟩ := history_split _ _ cut
  exact tracks_history functionMap idWorker before

end

/-! ### One call and its reply -/

section

variable {Generator Input : Type} [IdGenerator Generator Input]

/-- A callback that does nothing. -/
def quiet : RpcCB Unit where
  cb _ := pure ()
  timeout := 0

/-- A call without arguments. -/
def oneCall (reading : Input) : Act Unit Input Unit :=
  .issue () (.callCb reading .sessionCb quiet.cb [] 0)

/-- A reply without data arrives. -/
def oneReply (rpcid : UInt32) : Act Unit Input Unit :=
  .issue () (.dealResult (some (emptyReply rpcid)))

theorem oneCall_fits (reading : Input) : (oneCall reading).Fits := by
  intro bytes packed
  obtain rfl := Except.ok.inj packed
  decide

theorem oneReply_fits (rpcid : UInt32) : (oneReply rpcid : Act Unit Input Unit).Fits := by
  intro msg same
  obtain rfl := Option.some.inj same
  exact Nat.zero_le _

theorem ending_oneCall (world : World Unit Generator Unit) (reading : Input) :
    ∃ frame size, world.ending (oneCall reading) = .ok (.sendMsg frame size) := by
  obtain ⟨frame, sent, -⟩ := @Client.callCb_sends _ _ _ _ (world.client ()) reading .sessionCb
    quiet.cb [] 0 [0x90] rfl (by decide)
  exact ⟨frame, frame.getSize, sent⟩

end

section

variable {Object Env : Type} [DecidableEq Object]

/-- Replies with the counter, in any run on any objects that share it. A successful reply to an
object invokes exactly the callback that was registered there under its id, and nothing where
there is none; and the reply to a frame reaches the callback of the call that sent it exactly
when the id of the call fits into 32 bits. -/
theorem replies_delivered (functionMap : Object → Std.HashMap CallType (Wrapper Env))
    (acts : List (Act Object Unit Env)) (fits : ∀ act ∈ acts, act.Fits)
    (few : (readings acts).length < 2 ^ 64) :
    ∀ past world object msg future,
      history World.step (World.start functionMap ({} : IdWorker)) acts =
        past ++ (world, .issue object (.dealResult (some msg))) :: future → msg.state ≠ 0 →
      (∀ registered ∈ registrations past, registered.object = object →
        registered.id = msg.rpcid.toUInt64 →
          world.ending (.issue object (.dealResult (some msg))) =
            .ok (.callback registered.target (replyText msg))) ∧
      ((∀ registered ∈ registrations past, registered.object = object →
        registered.id ≠ msg.rpcid.toUInt64) →
          world.ending (.issue object (.dealResult (some msg))) = .ok .idle) ∧
      (∀ reading registered frame, Sent past reading registered frame →
        registered.object = object → msg.rpcid = frame.rpcid →
          (world.ending (.issue object (.dealResult (some msg))) =
            .ok (.callback registered.target (replyText msg)) ↔ registered.id.toNat < 2 ^ 32)) := by
  intro past world object msg future cut success
  have tracks := tracks_past cut
  have distinct := drawnIds_past cut (IdWorker.ids_nodup _ few)
  have fitting : msg.size.toNat ≤ dataCapacity := fits _ (label_of_cut _ _ cut) msg rfl
  refine ⟨?_, tracks.ignore success, ?_⟩
  · rintro registered member rfl same
    exact tracks.deliver success fitting distinct member same.symm
  · rintro reading registered frame ⟨entry, member, -, registers, size, sent⟩ rfl low
    refine tracks.deliver_iff distinct success fitting ?_ (low.trans (rpcid_of_sent registers sent))
    exact mem_registrations.mpr ⟨entry, member, registers⟩

/-- The reply to the first call reaches its callback. -/
theorem replies_delivered_first :
    ((World.start (fun _ => ∅) ({} : IdWorker)).step (oneCall ())).ending (oneReply 1) =
      .ok (.callback ⟨0, quiet⟩ (replyText (emptyReply 1))) :=
  (replies_delivered (fun _ => ∅) [oneCall (), oneReply 1]
    (List.forall_mem_cons.mpr ⟨oneCall_fits (),
      List.forall_mem_singleton.mpr (oneReply_fits 1)⟩) (by decide)
    [(World.start (fun _ => ∅) {}, oneCall ())] _ () (emptyReply 1) [] rfl (by decide)).1
    ⟨(), 1, ⟨0, quiet⟩⟩ (List.mem_singleton_self _) rfl rfl

/-- Replies with the snowflake generator, on a clock that never runs backwards and reads each
millisecond at most 4096 times. The reply to a frame reaches the callback of the call that sent
it exactly when the call read one of the first 1024 milliseconds after the epoch. -/
theorem replies_correlate_iff (workerId dataCenterId : UInt64) (workerBound : workerId ≤ 31)
    (dataCenterBound : dataCenterId ≤ 31)
    (functionMap : Object → Std.HashMap CallType (Wrapper Env))
    (acts : List (Act Object UInt64 Env)) (fits : ∀ act ∈ acts, act.Fits)
    (readable : ∀ now ∈ readings acts, SnowflakeIdWorker.Readable now)
    (sorted : (readings acts).Pairwise (· ≤ ·)) (light : ∀ now, (readings acts).count now ≤ 4096) :
    ∀ past world object msg future,
      history World.step
          (World.start functionMap (SnowflakeIdWorker.construct workerId dataCenterId).1) acts =
        past ++ (world, .issue object (.dealResult (some msg))) :: future → msg.state ≠ 0 →
      ∀ now registered frame, Sent past now registered frame →
        registered.object = object → msg.rpcid = frame.rpcid →
          (world.ending (.issue object (.dealResult (some msg))) =
            .ok (.callback registered.target (replyText msg)) ↔
              now < SnowflakeIdWorker.baseEpoch + 1024) := by
  have onTime := @SnowflakeIdWorker.onTime_of_count_le workerId dataCenterId _ readable sorted light
  have ids := (SnowflakeIdWorker.nodup_iff_onTime workerBound dataCenterBound readable sorted).mpr
    onTime
  rintro past world object msg future cut success now registered frame sent rfl low
  have distinct := drawnIds_past cut ((SnowflakeIdWorker.ids_eq _ _).symm ▸ ids)
  have fitting : msg.size.toNat ≤ dataCapacity := fits _ (label_of_cut _ _ cut) msg rfl
  obtain ⟨generator, drawn, id⟩ := sent.drawn cut
  have called : registered.id = (SnowflakeIdWorker.Call.mk generator now).id := id
  obtain ⟨entry, member, -, registers, size, ended⟩ := sent
  rw [(tracks_past cut).deliver_iff distinct success fitting
    (mem_registrations.mpr ⟨entry, member, registers⟩) (low.trans (rpcid_of_sent registers ended)),
    called]
  exact SnowflakeIdWorker.id_lt_iff_of_count_le workerBound dataCenterBound readable light
    (SnowflakeIdWorker.mem_calls drawn)

/-- A call in the first millisecond after the epoch, on worker `1` of data center `2`. -/
theorem replies_correlate_first :
    ((World.start (fun _ => ∅) (SnowflakeIdWorker.construct 1 2).1).step
        (oneCall SnowflakeIdWorker.baseEpoch)).ending (oneReply 266240) =
      .ok (.callback ⟨0, quiet⟩ (replyText (emptyReply 266240))) ↔
        SnowflakeIdWorker.baseEpoch < SnowflakeIdWorker.baseEpoch + 1024 := by
  obtain ⟨frame, size, sent⟩ := ending_oneCall
    (World.start (fun _ => ∅) (SnowflakeIdWorker.construct 1 2).1) SnowflakeIdWorker.baseEpoch
  refine replies_correlate_iff 1 2 (by decide) (by decide) (fun _ => ∅)
    [oneCall SnowflakeIdWorker.baseEpoch, oneReply 266240]
    (List.forall_mem_cons.mpr ⟨oneCall_fits _, List.forall_mem_singleton.mpr (oneReply_fits _)⟩)
    (List.forall_mem_singleton.mpr (by decide)) (List.pairwise_singleton _ _)
    (fun now => (List.count_le_length).trans (by decide))
    [(World.start (fun _ => ∅) (SnowflakeIdWorker.construct 1 2).1,
      oneCall SnowflakeIdWorker.baseEpoch)] _ () (emptyReply 266240) [] rfl (by decide)
    SnowflakeIdWorker.baseEpoch ⟨(), 266240, ⟨0, quiet⟩⟩ frame ?_ rfl ?_
  · exact ⟨_, List.mem_singleton_self _, rfl, rfl, size, sent⟩
  · have registers : (World.start (fun _ => ∅) (SnowflakeIdWorker.construct 1 2).1).registers
        (oneCall SnowflakeIdWorker.baseEpoch) = some ⟨(), 266240, ⟨0, quiet⟩⟩ := rfl
    exact (rpcid_of_sent registers sent).symm

/-- From 1024 milliseconds after the epoch on the frame carries another id than the callback is
registered under, and its reply reaches nothing. -/
theorem reply_lost :
    (∃ frame size, (World.start (fun _ => ∅) (SnowflakeIdWorker.construct 0 0).1).ending
        (oneCall (SnowflakeIdWorker.baseEpoch + 1024)) = .ok (.sendMsg frame size) ∧
        frame.rpcid = 0) ∧
      ((World.start (fun _ => ∅) (SnowflakeIdWorker.construct 0 0).1).step
        (oneCall (SnowflakeIdWorker.baseEpoch + 1024))).ending (oneReply 0) = .ok .idle := by
  obtain ⟨frame, size, sent⟩ := ending_oneCall
    (World.start (fun _ => ∅) (SnowflakeIdWorker.construct 0 0).1)
    (SnowflakeIdWorker.baseEpoch + 1024)
  refine ⟨⟨frame, size, sent, ?_⟩, ?_⟩
  · have registers : (World.start (fun _ => ∅) (SnowflakeIdWorker.construct 0 0).1).registers
        (oneCall (SnowflakeIdWorker.baseEpoch + 1024)) =
          some ⟨(), 4294967296, ⟨0, quiet⟩⟩ := rfl
    exact rpcid_of_sent registers sent
  · refine (tracks_history (fun _ => ∅) (SnowflakeIdWorker.construct 0 0).1
      [oneCall (SnowflakeIdWorker.baseEpoch + 1024)]).ignore (by decide) ?_
    intro registered member _
    obtain rfl := List.mem_singleton.mp member
    decide

end

end RpcInstance
