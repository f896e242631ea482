/-
This file is about the frames that calls build: whether they stay inside their
buffer, and which of them are handed to `sendMsg`.

No operation checks the length of its payload, so a frame stays inside its buffer
exactly when the caller's payload does. Of the three operations that build a
frame, only `callCb` hands it over; the frames of the two others go out of scope.
-/

import RpcInstance.Msgpack.Adaptors
import RpcInstance.Replies

namespace RpcInstance

open Runs Code Msgpack

/-! ### Frames inside their buffer -/

section

variable {Generator Input Env : Type} [IdGenerator Generator Input]

/-- A frame for a payload of some length lies in its buffer, and its size field and its total size
are not cut off. -/
def FitsBuffer (msg : RpcMsg) (length : ℕ) : Prop :=
  headerSize + length ≤ maxMsgLen ∧ msg.size.toNat = length ∧
    msg.getSize.toNat = headerSize + length

/-- An operation was given a payload of some length: it built a frame that lies in its buffer, or
it refused the call before copying. -/
def StaysInside (length : ℕ) : Except Failure (Ending Env) → Prop
  | .ok (.dropped msg) => FitsBuffer msg length
  | .ok (.sendMsg msg size) => FitsBuffer msg length ∧ size = msg.getSize
  | .ok .idle => True
  | .error (.thrown _) => True
  | _ => False

/-- The number of bytes that the arguments are packed as. -/
def packedLength (args : List Packed) : ℕ :=
  match packArgs args with
  | .ok bytes => bytes.length
  | .error _ => 0

theorem Client.Carries.fitsBuffer {msg : RpcMsg} {id : UInt64} {type : CallType}
    {payload : List UInt8} (carries : Client.Carries msg id type payload)
    (fits : payload.length ≤ dataCapacity) : FitsBuffer msg payload.length :=
  ⟨(headerSize_add_le_iff _).mpr fits, carries.size, carries.getSize⟩

/-- Building a frame stays inside the buffer exactly when the payload fits. -/
theorem staysInside_frame_iff (id : UInt64) (type : CallType)
    {payload : Except Failure (List UInt8)} {bytes : List UInt8} (had : payload = .ok bytes)
    {ending : RpcMsg → Ending Env}
    (builds : ∀ msg, FitsBuffer msg bytes.length → StaysInside bytes.length (.ok (ending msg))) :
    StaysInside bytes.length ((payload >>= Client.createMsg id type).map ending) ↔
      headerSize + bytes.length ≤ maxMsgLen := by
  subst had
  by_cases fits : bytes.length ≤ dataCapacity
  · obtain ⟨msg, built, carries⟩ := Client.frame_of_fits rfl fits id type ending
    rw [built]
    exact iff_of_true (builds msg (carries.fitsBuffer fits)) ((headerSize_add_le_iff _).mpr fits)
  · show StaysInside _ ((Client.createMsg id type bytes).map ending) ↔ _
    rw [Client.createMsg_of_not_fits id type (Nat.not_le.mp fits)]
    refine iff_of_false (fun impossible => impossible) fun short => ?_
    exact fits ((headerSize_add_le_iff _).mp short)

section

variable (client : Client Generator Env) (reading : Input) (type : CallType)

theorem callCb_staysInside_iff (cb : Callback Env) (args : List Packed) (timeout : UInt32) :
    StaysInside (packedLength args) (exec (Client.callCb reading type cb args timeout) client).1 ↔
      headerSize + packedLength args ≤ maxMsgLen := by
  rw [Client.exec_callCb]
  unfold packedLength
  rcases packed : packArgs args with thrown | bytes
  · exact iff_of_true trivial ((headerSize_add_le_iff 0).mpr (Nat.zero_le _))
  · exact staysInside_frame_iff _ type rfl fun msg fits => ⟨fits, rfl⟩

theorem callCmd_staysInside_iff (cmd : CmdPointer) (cmdSize : UInt64) :
    StaysInside cmdSize.toNat (exec (Client.callCmd reading type cmd cmdSize) client).1 ↔
      cmd = none ∨ headerSize + cmdSize.toNat ≤ maxMsgLen := by
  cases cmd with
  | none => exact iff_of_true trivial (Or.inl rfl)
  | some memory =>
    rw [Client.exec_callCmd, or_iff_right (Option.some_ne_none memory)]
    rcases had : CmdPointer.read (some memory) cmdSize with failure | bytes
    · cases had
    · rw [← read_length had]
      exact staysInside_frame_iff _ type rfl fun msg fits => fits

theorem callCbCmd_staysInside_iff (cb : Callback Env) (cmd : CmdPointer) (cmdSize : UInt64)
    (timeout : UInt32) :
    StaysInside cmdSize.toNat
        (exec (Client.callCbCmd reading type cb cmd cmdSize timeout) client).1 ↔
      (cmd ≠ none ∨ cmdSize = 0) ∧ headerSize + cmdSize.toNat ≤ maxMsgLen := by
  rw [Client.exec_callCbCmd, ← read_isOk_iff]
  rcases had : cmd.read cmdSize with failure | bytes
  · refine iff_of_false ?_ fun both => nomatch both.1.choose_spec
    cases cmd with
    | some memory => cases had
    | none =>
      rw [CmdPointer.read] at had
      split at had
      · cases had
      · obtain rfl := Except.error.inj had
        exact fun impossible => impossible
  · rw [← read_length had, and_iff_right ⟨bytes, rfl⟩]
    exact staysInside_frame_iff _ type rfl fun msg fits => fits

end

/-- The three operations stay inside their frame buffer exactly when the payload they are given
fits behind the header. A null command is refused by `callCmd` alone. -/
theorem frames_fit_iff (client : Client Generator Env) (reading : Input) (type : CallType)
    (cb : Callback Env) (args : List Packed) (cmd : CmdPointer) (cmdSize : UInt64)
    (timeout : UInt32) :
    (StaysInside (packedLength args) (exec (Client.callCb reading type cb args timeout) client).1 ↔
      headerSize + packedLength args ≤ maxMsgLen) ∧
    (StaysInside cmdSize.toNat (exec (Client.callCmd reading type cmd cmdSize) client).1 ↔
      cmd = none ∨ headerSize + cmdSize.toNat ≤ maxMsgLen) ∧
    (StaysInside cmdSize.toNat
        (exec (Client.callCbCmd reading type cb cmd cmdSize timeout) client).1 ↔
      (cmd ≠ none ∨ cmdSize = 0) ∧ headerSize + cmdSize.toNat ≤ maxMsgLen) :=
  ⟨callCb_staysInside_iff client reading type cb args timeout,
    callCmd_staysInside_iff client reading type cmd cmdSize,
    callCbCmd_staysInside_iff client reading type cb cmd cmdSize timeout⟩

end

theorem packedLength_string {value : List UInt8} (large : 256 ≤ value.length)
    (small : value.length < 65536) :
    packedLength (Tuple.packed [string] (value, ())) = value.length + 4 := by
  have packed : packArgs (Tuple.packed [string] (value, ())) =
      .ok (0x91 :: 0xda :: (BigEndian.toBytes 2 value.length ++ value ++ [])) := by
    have header : packArray 1 = [0x91] := by decide
    show packArgs [packString value] = _
    rw [packString_eq large small, packArgs_one, header]
    rfl
  rw [packedLength, packed]
  show (0x91 :: 0xda :: (BigEndian.toBytes 2 value.length ++ value ++ [])).length = _
  rw [List.append_nil, List.length_cons, List.length_cons, List.length_append,
    BigEndian.toBytes_length]
  omega

/-- A string of 65524 bytes. -/
def longText : List UInt8 := List.replicate 65524 0

/-- A string of 65524 bytes is packed as 65528 bytes, and the frame is overrun. -/
theorem frame_overrun :
    packedLength (Tuple.packed [string] (longText, ())) = 65528 ∧
      ¬ StaysInside (packedLength (Tuple.packed [string] (longText, ())))
        (exec (Client.callCb () .sessionCb (fun _ => pure ())
          (Tuple.packed [string] (longText, ())) 0) (⟨{}, {}, 0⟩ : Client IdWorker Unit)).1 := by
  have text : longText.length = 65524 := List.length_replicate
  have length : packedLength (Tuple.packed [string] (longText, ())) = 65528 := by
    rw [packedLength_string (by omega) (by omega), text]
  refine ⟨length, ?_⟩
  rw [callCb_staysInside_iff, length, headerSize_add_le_iff, dataCapacity_eq]
  omega

/-! ### Frames handed to `sendMsg` -/

section

variable {Object Generator Input Env : Type} [IdGenerator Generator Input]

/-- A remote call with a payload that fits, and with a command that is not null. -/
def Operation.Sendable : Operation Input Env → Prop
  | .callCmd _ _ cmd cmdSize => cmd ≠ none ∧ cmdSize.toNat ≤ dataCapacity
  | .callCb _ _ _ args _ => ∃ bytes, packArgs args = .ok bytes ∧ bytes.length ≤ dataCapacity
  | .callCbCmd _ _ _ cmd cmdSize _ => cmd ≠ none ∧ cmdSize.toNat ≤ dataCapacity
  | _ => False

/-- A step that is such a call. -/
def Act.Sendable : Act Object Input Env → Prop
  | .issue _ operation => operation.Sendable
  | .finish => False

/-- A step that is a `callCb`, on any object. -/
def Act.IsCallCb : Act Object Input Env → Prop
  | .issue _ (.callCb _ _ _ _ _) => True
  | _ => False

/-- What a remote call is given: its reading, its type and its payload. -/
def Operation.request :
    Operation Input Env → Option (Input × CallType × Except Failure (List UInt8))
  | .callCmd reading type cmd cmdSize => some (reading, type, cmd.read cmdSize)
  | .callCb reading type _ args _ => some (reading, type, (packArgs args).mapError .thrown)
  | .callCbCmd reading type _ cmd cmdSize _ => some (reading, type, cmd.read cmdSize)
  | _ => none

/-- The frame that a step hands to `sendMsg`, with the size it is handed over with. -/
def sentBy (entry : World Object Generator Env × Act Object Input Env) : Option (RpcMsg × UInt32) :=
  match entry.1.ending entry.2 with
  | .ok (.sendMsg msg size) => some (msg, size)
  | _ => none

/-- The frames of a history, in order. -/
def sentFrames (past : History Object Generator Env Input) : List (RpcMsg × UInt32) :=
  past.filterMap sentBy

/-- A frame is the frame of a call: it carries the id, the type and the payload of the call. -/
def FrameOf (entry : World Object Generator Env × Act Object Input Env)
    (frame : RpcMsg × UInt32) : Prop :=
  ∃ object operation reading type payload, entry.2 = .issue object operation ∧
    operation.request = some (reading, type, .ok payload) ∧
    Client.Carries frame.1 ((entry.1.client object).nextId reading) type payload ∧
    frame.2.toNat = headerSize + payload.length

variable [DecidableEq Object]

/-- Every remote call of a run is sent. -/
structure EveryCallSent (past : History Object Generator Env Input)
    (world : World Object Generator Env) : Prop where
  /-- The frames are the frames of the calls, one for each and in their order. -/
  frames : List.Forall₂ FrameOf past (sentFrames past)
  /-- A `callCbCmd` with the encoding of some arguments does what `callCb` does with them. -/
  same : ∀ (caller : World Object Generator Env) object reading type cb cmd cmdSize timeout,
    (caller, .issue object (.callCbCmd reading type cb cmd cmdSize timeout)) ∈ past →
    ∀ args bytes, packArgs args = .ok bytes → cmd.read cmdSize = .ok bytes →
      sentBy (caller, .issue object (.callCbCmd reading type cb cmd cmdSize timeout)) =
        sentBy (caller, .issue object (.callCb reading type cb args timeout)) ∧
      ∀ other, ((caller.step (.issue object
          (.callCbCmd reading type cb cmd cmdSize timeout))).objects other).callbackMap =
        ((caller.step (.issue object
          (.callCb reading type cb args timeout))).objects other).callbackMap
  /-- Every key of a callback map is the id of a call whose frame was sent. -/
  keys : ∀ object id, id ∈ (world.objects object).callbackMap →
    ∃ entry ∈ past, (sentBy entry).isSome = true ∧
      ∃ registered, entry.1.registers entry.2 = some registered ∧
        registered.object = object ∧ registered.id = id

omit [DecidableEq Object] in
theorem sentBy_eq_some_iff {entry : World Object Generator Env × Act Object Input Env}
    {frame : RpcMsg × UInt32} :
    sentBy entry = some frame ↔ entry.1.ending entry.2 = .ok (.sendMsg frame.1 frame.2) := by
  unfold sentBy
  split
  · next msg size ends =>
    rw [ends]
    constructor
    · exact fun same => by rw [← Option.some.inj same]
    · intro same
      obtain ⟨rfl, rfl⟩ := Ending.sendMsg.inj (Except.ok.inj same)
      rfl
  · next other =>
    exact iff_of_false (fun same => nomatch same) fun same => other frame.1 frame.2 same

omit [DecidableEq Object] in
/-- Only `callCb` hands a frame to `sendMsg`. -/
theorem isCallCb_of_sent {world : World Object Generator Env} {act : Act Object Input Env}
    (sent : (sentBy (world, act)).isSome = true) : act.IsCallCb := by
  obtain ⟨frame, known⟩ := Option.isSome_iff_exists.mp sent
  obtain ⟨object, reading, type, cb, args, timeout, rfl, -⟩ :=
    World.callCb_of_sendMsg (sentBy_eq_some_iff.mp known)
  trivial

omit [DecidableEq Object] in
/-- A `callCb` hands over the frame of the call. -/
theorem frameOf_of_isCallCb {world : World Object Generator Env} {act : Act Object Input Env}
    (sendable : act.Sendable) (isCallCb : act.IsCallCb) :
    ∃ frame, sentBy (world, act) = some frame ∧ FrameOf (world, act) frame := by
  cases act with
  | finish => exact isCallCb.elim
  | issue object operation =>
    cases operation with
    | callCb reading type cb args timeout =>
      obtain ⟨bytes, packed, fits⟩ := sendable
      obtain ⟨send, ends, carries⟩ :=
        Client.callCb_sends (world.client object) reading type cb timeout packed fits
      refine ⟨(send, send.getSize), sentBy_eq_some_iff.mpr ends, ?_⟩
      refine ⟨object, _, reading, type, bytes, rfl, ?_, carries, carries.getSize⟩
      rw [Operation.request, packed]
      rfl
    | _ => exact isCallCb.elim

omit [DecidableEq Object] in
theorem frames_of_isCallCb (past : History Object Generator Env Input)
    (calls : ∀ entry ∈ past, entry.2.Sendable ∧ entry.2.IsCallCb) :
    List.Forall₂ FrameOf past (sentFrames past) := by
  induction past with
  | nil => exact .nil
  | cons entry past inductionHypothesis =>
    obtain ⟨sendable, isCallCb⟩ := calls entry List.mem_cons_self
    obtain ⟨frame, sent, frameOf⟩ := @frameOf_of_isCallCb _ _ _ _ _ entry.1 _ sendable isCallCb
    have rest := inductionHypothesis fun other member => calls other (List.mem_cons_of_mem _ member)
    rw [sentFrames, List.filterMap_cons_some sent]
    exact .cons frameOf rest

/-- Every remote call of a run is sent exactly when the run has no remote calls but `callCb`. -/
theorem every_call_sent_iff (functionMap : Object → Std.HashMap CallType (Wrapper Env))
    (idWorker : Generator) (acts : List (Act Object Input Env))
    (sendable : ∀ act ∈ acts, act.Sendable) :
    EveryCallSent (history World.step (World.start functionMap idWorker) acts)
        (run World.step (World.start functionMap idWorker) acts) ↔
      ∀ act ∈ acts, act.IsCallCb := by
  have labels : ∀ entry ∈ history World.step (World.start functionMap idWorker) acts,
      entry.2 ∈ acts := fun entry => mem_labels World.step (World.start functionMap idWorker)
  constructor
  · intro sent act member
    have lengths := sent.frames.length_eq
    have all := List.filterMap_length_eq_length.mp lengths.symm
    rw [← history_labels World.step (World.start functionMap idWorker) acts] at member
    obtain ⟨entry, inside, rfl⟩ := List.mem_map.mp member
    exact isCallCb_of_sent (all entry inside)
  · intro calls
    refine ⟨?_, ?_, ?_⟩
    · exact frames_of_isCallCb _ fun entry member =>
        ⟨sendable _ (labels entry member), calls _ (labels entry member)⟩
    · intro caller object reading type cb cmd cmdSize timeout member
      exact (calls _ (labels _ member)).elim
    · intro object id key
      obtain ⟨registered, member, here, same⟩ :=
        ((tracks_history functionMap idWorker acts).mem_callbackMap object id).mp key
      obtain ⟨entry, inside, registers⟩ := mem_registrations.mp member
      obtain ⟨frame, sent, -⟩ := @frameOf_of_isCallCb _ _ _ _ _ entry.1 _
        (sendable _ (labels entry inside)) (calls _ (labels entry inside))
      exact ⟨entry, inside, Option.isSome_iff_exists.mpr ⟨frame, sent⟩, registered, registers, here,
        same⟩

end

theorem every_call_sent_one :
    EveryCallSent (history World.step (World.start (fun _ => ∅) ({} : IdWorker)) [oneCall ()])
        (run World.step (World.start (fun _ => ∅) ({} : IdWorker)) [oneCall ()]) ↔
      ∀ act ∈ [oneCall ()], act.IsCallCb :=
  every_call_sent_iff (fun _ => ∅) ({} : IdWorker) [oneCall ()]
    (List.forall_mem_singleton.mpr ⟨[0x90], rfl, by decide⟩)

/-- A command of one byte. -/
def oneCommand : Act Unit Unit Unit :=
  .issue () (.callCbCmd () .sessionData quiet.cb (some fun _ => 7) 1 0)

/-- The callback of a command waits for the reply to a frame that is never sent. -/
theorem command_not_sent :
    oneCommand.Sendable ∧
      sentFrames (history World.step (World.start (fun _ => ∅) ({} : IdWorker)) [oneCommand]) = [] ∧
      1 ∈ ((run World.step (World.start (fun _ => ∅) ({} : IdWorker))
        [oneCommand]).objects ()).callbackMap ∧
      ¬ EveryCallSent (history World.step (World.start (fun _ => ∅) ({} : IdWorker)) [oneCommand])
        (run World.step (World.start (fun _ => ∅) ({} : IdWorker)) [oneCommand]) := by
  have sendable : oneCommand.Sendable := ⟨Option.some_ne_none _, by decide⟩
  have unsent : sentFrames (history World.step (World.start (fun _ => ∅) ({} : IdWorker))
      [oneCommand]) = [] := by
    refine List.filterMap_eq_nil_iff.mpr fun entry member => ?_
    obtain rfl := List.mem_singleton.mp member
    exact Option.not_isSome_iff_eq_none.mp fun sent => isCallCb_of_sent sent
  refine ⟨sendable, unsent, ?_, fun sent => ?_⟩
  · refine ((tracks_history (fun _ => ∅) ({} : IdWorker) [oneCommand]).mem_callbackMap () 1).mpr ?_
    exact ⟨⟨(), 1, ⟨0, quiet⟩⟩, List.mem_singleton_self _, rfl, rfl⟩
  · have frames := sent.frames
    rw [unsent] at frames
    cases frames

end RpcInstance
