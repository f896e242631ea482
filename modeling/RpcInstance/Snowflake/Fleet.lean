/-
This file is about the ids of a whole process, or of several that talk to each other:
any objects over any number of snowflake generators with different pairs of ids, and any
requests on the objects in any order.

The ids of all objects are distinct exactly when each generator for itself keeps to its
windows, however the calls interleave. On the wire a frame carries only the low half of
its id, which has the two ids of the generator and the sequence, but ten bits of the time
stamp: frames of different generators never share an `rpcid`, and two frames of one
generator do exactly when they have the same sequence and time stamps that differ by a
multiple of 1024 milliseconds.
-/

import RpcInstance.Library.Interleaving
import RpcInstance.Replies
import RpcInstance.Requests

namespace RpcInstance

open Runs Interleaving Simulation Msgpack

variable {Object Worker Generator Input Env : Type} [IdGenerator Generator Input]

/-! ### What the requests of a run draw -/

namespace Process

variable [DecidableEq Object] [DecidableEq Worker] (worker : Object → Worker)

/-- The steps of a run, each with the process it was taken in. A run ends with a request that is
undefined, and what was to be asked after it is not among the steps. -/
abbrev past (process : Process Object Worker Generator Env)
    (requests : List (Object × Request Input Env)) :=
  taken (ask worker) isUndefined process requests

/-- The readings that the steps of a run make, each with the generator that makes it. -/
def drawings (process : Process Object Worker Generator Env)
    (requests : List (Object × Request Input Env)) : List (Worker × Input) :=
  (past worker process requests).filterMap fun entry => entry.2.2.reading.map fun reading =>
    (worker entry.2.1, reading)

/-- The ids that the steps of a run draw, in order. -/
def drawnIds (process : Process Object Worker Generator Env)
    (requests : List (Object × Request Input Env)) : List UInt64 :=
  (past worker process requests).filterMap fun entry => entry.2.2.reading.map fun reading =>
    (IdGenerator.genId (entry.1.idWorkers (worker entry.2.1)) reading).1

theorem ask_idWorkers (process : Process Object Worker Generator Env)
    (asked : Object × Request Input Env) :
    (process.ask worker asked).2.idWorkers =
      match asked.2.reading with
      | some reading => Interleaving.step (fun generator reading =>
          (IdGenerator.genId generator reading).2) process.idWorkers (worker asked.1, reading)
      | none => process.idWorkers := by
  rw [ask_eq, Request.after_eq]
  rcases asked.2.reading with _ | reading
  · exact Function.update_eq_self _ _
  · rfl

/-- The requests that draw an id are the steps of the generators. -/
theorem drawn_past (process : Process Object Worker Generator Env)
    (requests : List (Object × Request Input Env)) :
    (past worker process requests).filterMap (fun entry => entry.2.2.reading.map fun reading =>
        (entry.1.idWorkers, (worker entry.2.1, reading))) =
      history (Interleaving.step fun generator reading =>
        (IdGenerator.genId generator reading).2) process.idWorkers
          (drawings worker process requests) := by
  induction requests generalizing process with
  | nil => rfl
  | cons asked requests inductionHypothesis =>
    have rest := inductionHypothesis (process.ask worker asked).2
    rw [ask_idWorkers] at rest
    unfold drawings past at *
    rw [taken_cons, List.filterMap_cons, List.filterMap_cons]
    by_cases ended : isUndefined (process.ask worker asked).1
    · rw [if_pos ended]
      rcases asked.2.reading with _ | reading <;> rfl
    · rw [if_neg ended, rest]
      rcases asked.2.reading with _ | reading <;> rfl

theorem drawnIds_eq (process : Process Object Worker Generator Env)
    (requests : List (Object × Request Input Env)) :
    drawnIds worker process requests =
      Interleaving.outputs (fun generator reading => (IdGenerator.genId generator reading).2)
        (fun generator reading => (IdGenerator.genId generator reading).1) process.idWorkers
        (drawings worker process requests) := by
  unfold Interleaving.outputs drawnIds
  rw [← drawn_past, List.map_filterMap]
  refine congrArg (fun drawn => List.filterMap drawn _) (funext fun entry => ?_)
  rw [Option.map_map]
  rfl

end Process

/-! ### Generators with ids of their own -/

/-- The ids that some generators are built with: inside of their bits, and no pair twice. -/
structure Fleet (Worker : Type) where
  workerId : Worker → UInt64
  dataCenterId : Worker → UInt64
  workerId_le : ∀ one, workerId one ≤ 31
  dataCenterId_le : ∀ one, dataCenterId one ≤ 31
  apart : ∀ one other, workerId one = workerId other → dataCenterId one = dataCenterId other →
    one = other

namespace Fleet

/-- The generators. -/
def idWorkers (fleet : Fleet Worker) (one : Worker) : SnowflakeIdWorker :=
  (SnowflakeIdWorker.construct (fleet.workerId one) (fleet.dataCenterId one)).1

/-- How one of the generators reads its clock in the course of a run. -/
def readings [DecidableEq Object] [DecidableEq Worker] (fleet : Fleet Worker)
    (worker : Object → Worker) (requests : List (Object × Request UInt64 Env)) (one : Worker) :
    List UInt64 :=
  labelsOf one (Process.drawings worker (.start fleet.idWorkers) requests)

theorem inRange (fleet : Fleet Worker) (one : Worker) : (fleet.idWorkers one).InRange :=
  ⟨fleet.workerId_le one, fleet.dataCenterId_le one⟩

/-- Two generators return no common id. -/
theorem id_ne (fleet : Fleet Worker) {one other : Worker} (different : one ≠ other)
    {readings otherReadings : List UInt64}
    (readable : ∀ now ∈ readings, SnowflakeIdWorker.Readable now)
    (otherReadable : ∀ now ∈ otherReadings, SnowflakeIdWorker.Readable now) :
    ∀ id ∈ SnowflakeIdWorker.ids (fleet.idWorkers one) readings,
      ∀ otherId ∈ SnowflakeIdWorker.ids (fleet.idWorkers other) otherReadings, id ≠ otherId := by
  intro id member otherId member' same
  obtain ⟨call, drawn, rfl⟩ := List.mem_map.mp member
  obtain ⟨otherCall, drawn', rfl⟩ := List.mem_map.mp member'
  have decoded := SnowflakeIdWorker.calls_decode (fleet.inRange one) readable drawn
  have decoded' := SnowflakeIdWorker.calls_decode (fleet.inRange other) otherReadable drawn'
  have sameWorker := decoded.worker
  have sameDataCenter := decoded.dataCenter
  rw [same, decoded'.worker] at sameWorker
  rw [same, decoded'.dataCenter] at sameDataCenter
  exact different (fleet.apart one other sameWorker.symm sameDataCenter.symm)

end Fleet

/-- The ids of all objects are distinct over a run of any requests, on clocks that never run
backwards, exactly when no generator reads a window of milliseconds more than once beyond its
capacity. -/
theorem fleet_ids_distinct_iff [DecidableEq Object] [DecidableEq Worker] (fleet : Fleet Worker)
    (worker : Object → Worker) (requests : List (Object × Request UInt64 Env))
    (readable : ∀ one, ∀ now ∈ fleet.readings worker requests one,
      SnowflakeIdWorker.Readable now)
    (sorted : ∀ one, (fleet.readings worker requests one).Pairwise (· ≤ ·)) :
    (Process.drawnIds worker (.start fleet.idWorkers) requests).Nodup ↔
      ∀ one first width, SnowflakeIdWorker.windowLoad (fleet.readings worker requests one) first
        width ≤ 4096 * width + 1 := by
  have own : ∀ one, outputsOf (fun generator reading => (IdGenerator.genId generator reading).2)
      (fun generator reading => (IdGenerator.genId generator reading).1) (fleet.idWorkers one)
      (fleet.readings worker requests one) =
        SnowflakeIdWorker.ids (fleet.idWorkers one) (fleet.readings worker requests one) :=
    fun one => SnowflakeIdWorker.ids_eq (fleet.idWorkers one) _
  unfold Fleet.readings at own readable sorted ⊢
  rw [Process.drawnIds_eq]
  refine (nodup_outputs_iff _ _ fleet.idWorkers _ ?_).trans (forall_congr' fun one => ?_)
  · intro one other different
    show ∀ id ∈ outputsOf _ _ (fleet.idWorkers one) _, ∀ otherId ∈ outputsOf _ _
      (fleet.idWorkers other) _, id ≠ otherId
    rw [own, own]
    exact fleet.id_ne different (readable one) (readable other)
  · show (outputsOf _ _ (fleet.idWorkers one) _).Nodup ↔ _
    rw [own]
    exact (SnowflakeIdWorker.nodup_iff_onTime (fleet.workerId_le one) (fleet.dataCenterId_le one)
      (readable one) (sorted one)).trans
        (SnowflakeIdWorker.onTime_iff_windowLoad (readable one) (sorted one))

/-- Two generators of one data center. -/
def twoWorkers : Fleet Bool where
  workerId one := if one then 1 else 0
  dataCenterId _ := 2
  workerId_le one := by cases one <;> decide
  dataCenterId_le _ := by decide
  apart one other same _ := by cases one <;> cases other <;> first | rfl | cases same

/-- A call without arguments that reads the clock as `now`. -/
def callAt (now : UInt64) : Request UInt64 Unit :=
  .operate (.callCb now .sessionCb (fun _ => return ()) [] 0)

theorem fleet_ids_distinct_iff_two :
    (Process.drawnIds id (.start twoWorkers.idWorkers) [(true, callAt SnowflakeIdWorker.baseEpoch),
        (false, callAt SnowflakeIdWorker.baseEpoch)]).Nodup ↔
      ∀ one first width, SnowflakeIdWorker.windowLoad
        (labelsOf one [(true, SnowflakeIdWorker.baseEpoch), (false, SnowflakeIdWorker.baseEpoch)])
          first width ≤ 4096 * width + 1 :=
  fleet_ids_distinct_iff twoWorkers id [(true, callAt SnowflakeIdWorker.baseEpoch),
      (false, callAt SnowflakeIdWorker.baseEpoch)]
    (fun one => by cases one <;> exact List.forall_mem_singleton.mpr (by decide))
    (fun one => by cases one <;> exact List.pairwise_singleton _ _)

/-! ### Frames of a fleet -/

/-- The frame that an answer hands to `sendMsg`. -/
def sentWith : Except Failure (Answer Env) → Option RpcMsg
  | .ok (.ends (.sendMsg msg _)) => some msg
  | _ => none

theorem sentWith_eq_some {answer : Except Failure (Answer Env)} {frame : RpcMsg}
    (sent : sentWith answer = some frame) :
    ∃ size, answer = .ok (.ends (.sendMsg frame size)) := by
  unfold sentWith at sent
  split at sent
  · next msg size =>
    obtain rfl := Option.some.inj sent
    exact ⟨size, rfl⟩
  · cases sent

theorem RpcBase.dispatch_ne_sendMsg {self : RpcBase Env} {msg : Option RpcMsg} {frame : RpcMsg}
    {size : UInt32} : self.dispatch msg ≠ .ok (.sendMsg frame size) := by
  intro ends
  unfold dispatch at ends
  split at ends
  · cases ends
  · split at ends
    · cases ends
    · obtain ⟨cmd, -, same⟩ := bind_eq_ok_iff.mp ends
      cases same

theorem RpcBase.testLocalCall_ne_sendMsg {self : RpcBase Env} {type : CallType}
    {args : List Packed} {frame : RpcMsg} {size : UInt32} :
    self.testLocalCall type args ≠ .ok (.sendMsg frame size) := by
  intro ends
  unfold testLocalCall at ends
  split at ends
  · cases ends
  · obtain ⟨cmd, -, same⟩ := bind_eq_ok_iff.mp ends
    cases same

/-- A request that hands a frame over draws an id, and the frame carries the low half of it. -/
theorem Request.drawn_of_sendMsg {request : Request Input Env} {client : Client Generator Env}
    {frame : RpcMsg} {size : UInt32}
    (ends : request.result client = .ok (.ends (.sendMsg frame size))) :
    ∃ reading, request.reading = some reading ∧
      frame.rpcid = (client.nextId reading).toUInt32 := by
  have inner {settled : Except Failure (Ending Env)}
      (ends : settled.map Answer.ends = .ok (.ends (.sendMsg frame size))) :
      settled = .ok (.sendMsg frame size) := by
    obtain ⟨ending, same, isEnding⟩ := map_eq_ok_iff.mp ends
    rw [same, Answer.ends.inj isEnding]
  cases request with
  | bind type binding => cases ends
  | route msg => exact absurd (inner ends) RpcBase.dispatch_ne_sendMsg
  | testLocalDataCall msg => exact absurd (inner ends) RpcBase.dispatch_ne_sendMsg
  | testLocalCall type args => exact absurd (inner ends) RpcBase.testLocalCall_ne_sendMsg
  | testRegisterCB cbId func => cases ends
  | getRpcId => cases ends
  | operate operation =>
    obtain same | ⟨_, same⟩ | ⟨_, _, same⟩ | sent | ⟨_, _, _, -, -, same⟩ :=
      Operation.result_cases (inner ends)
    · cases same
    · cases same
    · cases same
    · obtain ⟨reading, type, cb, args, timeout, send, rfl, low, same⟩ := sent
      obtain ⟨rfl, -⟩ := Ending.sendMsg.inj same
      exact ⟨reading, rfl, low⟩
    · cases same

/-- A frame, with the generator that its id was drawn from and the call that drew it. -/
structure Framed (Worker : Type) where
  worker : Worker
  call : SnowflakeIdWorker.Call
  frame : RpcMsg

section

variable [DecidableEq Object] [DecidableEq Worker]

/-- The frame that a step hands to `sendMsg`. -/
def framedBy (worker : Object → Worker)
    (entry : Process Object Worker SnowflakeIdWorker Env × (Object × Request UInt64 Env)) :
    Option (Framed Worker) :=
  match entry.2.2.reading, sentWith (entry.1.ask worker entry.2).1 with
  | some reading, some frame =>
    some ⟨worker entry.2.1, ⟨entry.1.idWorkers (worker entry.2.1), reading⟩, frame⟩
  | _, _ => none

/-- The frames of a run, in order. -/
def frames (worker : Object → Worker) (process : Process Object Worker SnowflakeIdWorker Env)
    (requests : List (Object × Request UInt64 Env)) : List (Framed Worker) :=
  (Process.past worker process requests).filterMap (framedBy worker)

theorem framedBy_frame (worker : Object → Worker)
    (entry : Process Object Worker SnowflakeIdWorker Env × (Object × Request UInt64 Env)) :
    (framedBy worker entry).map Framed.frame = sentWith (entry.1.ask worker entry.2).1 := by
  unfold framedBy
  rcases sent : sentWith (entry.1.ask worker entry.2).1 with _ | frame
  · rcases entry.2.2.reading with _ | reading <;> rfl
  · obtain ⟨size, ends⟩ := sentWith_eq_some sent
    rw [Process.ask_eq] at ends
    obtain ⟨reading, read, -⟩ := Request.drawn_of_sendMsg ends
    rw [read]
    rfl

/-- The call that drew the id of a frame is a call of its generator, over the readings that the
generator makes in the run. -/
theorem mem_calls_of_framed {worker : Object → Worker}
    {process : Process Object Worker SnowflakeIdWorker Env}
    {requests : List (Object × Request UInt64 Env)} {framed : Framed Worker}
    (member : framed ∈ frames worker process requests) :
    framed.call ∈ SnowflakeIdWorker.calls (process.idWorkers framed.worker)
        (labelsOf framed.worker (Process.drawings worker process requests)) ∧
      framed.frame.rpcid = framed.call.id.toUInt32 := by
  obtain ⟨entry, inside, framedBy⟩ := List.mem_filterMap.mp member
  unfold RpcInstance.framedBy at framedBy
  split at framedBy
  · next reading frame read sent =>
    obtain rfl := Option.some.inj framedBy
    constructor
    · have drawn : (entry.1.idWorkers, (worker entry.2.1, reading)) ∈
          history (Interleaving.step fun generator reading =>
            (IdGenerator.genId generator reading).2) process.idWorkers
              (Process.drawings worker process requests) := by
        rw [← Process.drawn_past]
        refine List.mem_filterMap.mpr ⟨entry, inside, ?_⟩
        rw [read]
        rfl
      exact mem_outputsOf _ SnowflakeIdWorker.Call.mk drawn
    · obtain ⟨size, ends⟩ := sentWith_eq_some sent
      rw [Process.ask_eq] at ends
      obtain ⟨other, read', low⟩ := Request.drawn_of_sendMsg ends
      obtain rfl := Option.some.inj (read.symm.trans read')
      exact low
  · cases framedBy

end

/-- The low half of an id: the two ids of the generator and the sequence are whole, and ten bits
of the time stamp are left. -/
theorem low_half_eq_iff {first second : SnowflakeIdWorker.Call}
    (inRange : first.before.InRange) (inRange' : second.before.InRange)
    (readable : SnowflakeIdWorker.Readable first.reading)
    (readable' : SnowflakeIdWorker.Readable second.reading) :
    first.id.toUInt32 = second.id.toUInt32 ↔
      first.before.workerId = second.before.workerId ∧
      first.before.dataCenterId = second.before.dataCenterId ∧
      first.after.sequence = second.after.sequence ∧
      first.after.lastTimeStamp % 1024 = second.after.lastTimeStamp % 1024 := by
  have value := SnowflakeIdWorker.genId_toNat first.before first.reading inRange readable
  have value' := SnowflakeIdWorker.genId_toNat second.before second.reading inRange' readable'
  obtain ⟨small, small'⟩ := (SnowflakeIdWorker.inRange_iff first.before).mp inRange
  obtain ⟨otherSmall, otherSmall'⟩ := (SnowflakeIdWorker.inRange_iff second.before).mp inRange'
  have masked := SnowflakeIdWorker.genId_sequence_lt first.before first.reading
  have masked' := SnowflakeIdWorker.genId_sequence_lt second.before second.reading
  obtain ⟨lower, -⟩ := SnowflakeIdWorker.genId_stamp_bounds first.before readable
  obtain ⟨lower', -⟩ := SnowflakeIdWorker.genId_stamp_bounds second.before readable'
  unfold SnowflakeIdWorker.fields at value value'
  rw [← UInt32.toNat_inj, UInt64.toNat_toUInt32, UInt64.toNat_toUInt32, ← UInt64.toNat_inj,
    ← UInt64.toNat_inj, ← UInt64.toNat_inj, ← UInt64.toNat_inj, UInt64.toNat_mod, UInt64.toNat_mod]
  unfold SnowflakeIdWorker.Call.id SnowflakeIdWorker.Call.after
  rw [value, value']
  show _ ↔ _ ∧ _ ∧ _ ∧ _ % 1024 = _ % 1024
  omega

/-- Every frame of a run carries the low half of an id that its generator returned, and two frames
have the same `rpcid` exactly when they come from one generator, with the same sequence and time
stamps that differ by a multiple of 1024 milliseconds. -/
theorem fleet_rpcids_eq_iff [DecidableEq Object] [DecidableEq Worker] (fleet : Fleet Worker)
    (worker : Object → Worker) (requests : List (Object × Request UInt64 Env))
    (readable : ∀ one, ∀ now ∈ fleet.readings worker requests one,
      SnowflakeIdWorker.Readable now) :
    (frames worker (.start fleet.idWorkers) requests).map Framed.frame =
        ((Simulation.outputs (Process.step worker) (some (.start fleet.idWorkers))
          requests).filterMap id).filterMap sentWith ∧
      (∀ framed ∈ frames worker (.start fleet.idWorkers) requests,
        framed.call ∈ SnowflakeIdWorker.calls (fleet.idWorkers framed.worker)
            (fleet.readings worker requests framed.worker) ∧
          framed.frame.rpcid = framed.call.id.toUInt32) ∧
      ∀ first ∈ frames worker (.start fleet.idWorkers) requests,
        ∀ second ∈ frames worker (.start fleet.idWorkers) requests,
          (first.frame.rpcid = second.frame.rpcid ↔ first.worker = second.worker ∧
            first.call.after.sequence = second.call.after.sequence ∧
            first.call.after.lastTimeStamp % 1024 = second.call.after.lastTimeStamp % 1024) := by
  refine ⟨?_, fun framed => mem_calls_of_framed, fun first member second member' => ?_⟩
  · rw [Process.step, outputs_stopping, List.filterMap_map, frames, List.map_filterMap]
    exact congrArg (fun sent => List.filterMap sent _) (funext (framedBy_frame worker))
  · obtain ⟨drawn, low⟩ := mem_calls_of_framed member
    obtain ⟨drawn', low'⟩ := mem_calls_of_framed member'
    obtain ⟨workerId, dataCenterId⟩ := SnowflakeIdWorker.calls_ids drawn
    obtain ⟨workerId', dataCenterId'⟩ := SnowflakeIdWorker.calls_ids drawn'
    rw [low, low', low_half_eq_iff
      (SnowflakeIdWorker.calls_inRange (fleet.inRange first.worker) drawn)
      (SnowflakeIdWorker.calls_inRange (fleet.inRange second.worker) drawn')
      (readable _ _ (SnowflakeIdWorker.calls_reading_mem drawn))
      (readable _ _ (SnowflakeIdWorker.calls_reading_mem drawn')), workerId, workerId',
      dataCenterId, dataCenterId']
    constructor
    · rintro ⟨sameWorker, sameDataCenter, rest⟩
      exact ⟨fleet.apart _ _ sameWorker sameDataCenter, rest⟩
    · rintro ⟨same, rest⟩
      exact ⟨congrArg fleet.workerId same, congrArg fleet.dataCenterId same, rest⟩

/-- Two calls of one generator that are 1024 milliseconds apart, and one of the other. -/
def threeCalls : List (Bool × Request UInt64 Unit) :=
  [(true, callAt SnowflakeIdWorker.baseEpoch), (false, callAt SnowflakeIdWorker.baseEpoch),
    (true, callAt (SnowflakeIdWorker.baseEpoch + 1024))]

theorem fleet_rpcids_eq_iff_three :
    (frames id (.start twoWorkers.idWorkers) threeCalls).map Framed.frame =
        ((Simulation.outputs (Process.step id) (some (.start twoWorkers.idWorkers))
          threeCalls).filterMap id).filterMap sentWith ∧
      ∀ first ∈ frames id (.start twoWorkers.idWorkers) threeCalls,
        ∀ second ∈ frames id (.start twoWorkers.idWorkers) threeCalls,
          (first.frame.rpcid = second.frame.rpcid ↔ first.worker = second.worker ∧
            first.call.after.sequence = second.call.after.sequence ∧
            first.call.after.lastTimeStamp % 1024 = second.call.after.lastTimeStamp % 1024) :=
  have three := fleet_rpcids_eq_iff twoWorkers id threeCalls fun one => by
    cases one
    · exact List.forall_mem_singleton.mpr (by decide)
    · exact List.forall_mem_cons.mpr ⟨by decide, List.forall_mem_singleton.mpr (by decide)⟩
  ⟨three.1, three.2.2⟩

end RpcInstance
