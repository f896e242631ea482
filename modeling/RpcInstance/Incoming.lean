/-
This file is about frames that arrive: which bytes of its buffer a frame is read
from, and which bytes of a reply its callback is handed.

The size of a frame is chosen by the other side and is not compared with the
length of the buffer, so a frame that is not ignored is read to its declared end.
The text of a reply is copied by its declared size and then handed on as a C
string, which ends at the first zero byte.
-/

import Mathlib.Data.List.TakeWhile
import RpcInstance.Base

namespace RpcInstance

open Code

variable {Env : Type}

/-! ### Frames that declare a size -/

/-- An operation reads nothing behind the buffer of its message. -/
def ReadsInside {Value : Type} : Except Failure Value → Prop
  | .error (.undefined .bufferOverread) => False
  | _ => True

/-- Copying the data of a message and going on from there stays inside of the buffer exactly when
the declared size does. -/
theorem readsInside_copyData_iff {Value : Type} (data : FixedBuffer dataCapacity) (size : UInt32)
    (next : List UInt8 → Value) :
    ReadsInside (do
      let bytes ← copyData data size
      return next bytes) ↔ headerSize + size.toNat ≤ maxMsgLen := by
  rw [headerSize_add_le_iff]
  by_cases fits : size.toNat ≤ dataCapacity
  · rw [copyData_eq_ok fits]
    exact iff_of_true trivial fits
  · rw [copyData, FixedBuffer.read, if_neg fits]
    exact iff_of_false (fun impossible => impossible) fits

namespace RpcBase

theorem dispatch_readsInside_iff (self : RpcBase Env) (msg : RpcMsg) :
    ReadsInside (self.dispatch (some msg)) ↔
      self.functionMap[CallType.mk msg.type]? = none ∨
        headerSize + msg.size.toNat ≤ maxMsgLen := by
  rw [dispatch]
  rcases self.functionMap[CallType.mk msg.type]? with _ | wrapper
  · exact iff_of_true trivial (Or.inl rfl)
  · rw [or_iff_right (Option.some_ne_none wrapper)]
    exact readsInside_copyData_iff msg.data msg.size _

theorem dealResult_readsInside_iff (self : RpcBase Env) (retMsg : RpcResultMsg) :
    ReadsInside (self.dealResult (some retMsg)) ↔
      retMsg.state = 0 ∨ self.callbackMap[retMsg.rpcid.toUInt64]? = none ∨
        headerSize + retMsg.size.toNat ≤ maxMsgLen := by
  rw [dealResult]
  by_cases failed : retMsg.state = 0
  · rw [if_pos failed]
    exact iff_of_true trivial (Or.inl failed)
  · rw [if_neg failed, or_iff_right failed]
    rcases self.callbackMap[retMsg.rpcid.toUInt64]? with _ | target
    · exact iff_of_true trivial (Or.inl rfl)
    · rw [or_iff_right (Option.some_ne_none target)]
      exact readsInside_copyData_iff retMsg.data retMsg.size _

end RpcBase

/-- The three readers stay inside of the buffer of a message exactly when they ignore the message
or the size that it declares fits behind the header. -/
theorem frames_read_inside_iff (self : RpcBase Env) (msg : RpcMsg) (retMsg : RpcResultMsg) :
    (ReadsInside (self.route (some msg)) ↔
      self.functionMap[CallType.mk msg.type]? = none ∨
        headerSize + msg.size.toNat ≤ maxMsgLen) ∧
    (ReadsInside (self.testLocalDataCall (some msg)) ↔
      self.functionMap[CallType.mk msg.type]? = none ∨
        headerSize + msg.size.toNat ≤ maxMsgLen) ∧
    (ReadsInside (self.dealResult (some retMsg)) ↔
      retMsg.state = 0 ∨ self.callbackMap[retMsg.rpcid.toUInt64]? = none ∨
        headerSize + retMsg.size.toNat ≤ maxMsgLen) :=
  ⟨self.dispatch_readsInside_iff msg, self.dispatch_readsInside_iff msg,
    self.dealResult_readsInside_iff retMsg⟩

/-- A server with one handler. -/
def oneHandler : RpcBase Unit :=
  RpcBase.bind {} CallType.sessionData (.usingCmd fun _ => return ())

/-- A frame that declares one byte more than its buffer has. -/
def longFrame : RpcMsg where
  type := CallType.sessionData.value
  size := 65525
  data := .zero dataCapacity

/-- A client that waits for one reply. -/
def oneWaiting (callback : Callback Unit) : RpcBase Unit where
  callbackMap := (∅ : Std.HashMap UInt64 (SharedPtr (RpcCB Unit))).insert 1
    ⟨0, { cb := callback, timeout := 0 }⟩

theorem oneWaiting_stored (callback : Callback Unit) :
    (oneWaiting callback).callbackMap[(1 : UInt64)]? =
      some ⟨0, { cb := callback, timeout := 0 }⟩ :=
  Std.HashMap.getElem?_insert_self

theorem frame_overread : ¬ ReadsInside (oneHandler.route (some longFrame)) ∧
    ¬ ReadsInside (oneHandler.testLocalDataCall (some longFrame)) ∧
    ¬ ReadsInside ((oneWaiting fun _ => return ()).dealResult
      (some { rpcid := 1, state := 1, size := 65525, data := .zero dataCapacity })) := by
  have bound : oneHandler.functionMap[CallType.mk longFrame.type]? =
      some (Binding.wrapper (.usingCmd fun _ => return ())) := Std.HashMap.getElem?_insert_self
  have overread : ¬ ReadsInside (oneHandler.dispatch (some longFrame)) := by
    rw [RpcBase.dispatch_readsInside_iff, bound]
    exact not_or.mpr ⟨Option.some_ne_none _, by decide⟩
  refine ⟨overread, overread, ?_⟩
  rw [RpcBase.dealResult_readsInside_iff]
  refine not_or.mpr ⟨by decide, not_or.mpr ⟨fun absent => ?_, by decide⟩⟩
  cases (oneWaiting_stored _).symm.trans absent

/-! ### Replies with data -/

/-- A C string holds all of some bytes exactly when none of them is zero. -/
theorem cStr_eq_self_iff (bytes : List UInt8) : cStr bytes = bytes ↔ 0 ∉ bytes := by
  rw [cStr, List.takeWhile_eq_self_iff]
  constructor
  · exact fun nonzero member => of_decide_eq_true (nonzero 0 member) rfl
  · exact fun absent byte member => decide_eq_true fun zero => absent (zero ▸ member)

/-- What a successful reply hands to the callback that is stored under its id. -/
theorem dealResult_of_stored {self : RpcBase Env} {msg : RpcResultMsg}
    {target : SharedPtr (RpcCB Env)} {payload : List UInt8} (success : msg.state ≠ 0)
    (stored : self.callbackMap[msg.rpcid.toUInt64]? = some target)
    (fits : 12 + payload.length ≤ maxMsgLen) (size : msg.size.toNat = payload.length)
    (content : msg.data.bytes.take payload.length = payload) :
    self.dealResult (some msg) = .ok (.callback target (cStr payload)) := by
  have copied : copyData msg.data msg.size = .ok payload := by
    rw [copyData_eq_ok (size ▸ (headerSize_add_le_iff _).mp fits), size, content]
  rw [RpcBase.dealResult, if_neg success, stored, copied]
  rfl

/-- The payload of a successful reply reaches its callback whole exactly when it holds no zero
byte. -/
theorem reply_payload_iff (self : RpcBase Env) (msg : RpcResultMsg)
    (target : SharedPtr (RpcCB Env)) (payload : List UInt8) (success : msg.state ≠ 0)
    (stored : self.callbackMap[msg.rpcid.toUInt64]? = some target)
    (fits : 12 + payload.length ≤ maxMsgLen) (size : msg.size.toNat = payload.length)
    (content : msg.data.bytes.take payload.length = payload) :
    self.dealResult (some msg) = .ok (.callback target payload) ↔ 0 ∉ payload := by
  rw [dealResult_of_stored success stored fits size content, ← cStr_eq_self_iff]
  constructor
  · exact fun same => (Ending.callback.inj (Except.ok.inj same)).2
  · exact fun whole => congrArg (fun text => Except.ok (Ending.callback target text)) whole

/-- A reply with two bytes. -/
def twoBytes (first second : UInt8) : RpcResultMsg where
  rpcid := 1
  state := 1
  size := 2
  data := ⟨first :: second :: List.replicate 65522 0, by
    rw [List.length_cons, List.length_cons, List.length_replicate]
    rfl⟩

theorem reply_payload_ok :
    (oneWaiting fun _ => return ()).dealResult (some (twoBytes 79 75)) =
      .ok (.callback ⟨0, { cb := fun _ => return (), timeout := 0 }⟩ [79, 75]) :=
  (reply_payload_iff (oneWaiting fun _ => return ()) (twoBytes 79 75) _ [79, 75] (by decide)
    (oneWaiting_stored _) (by decide) rfl rfl).mpr (by decide)

/-- The reply with the encoding of the argument `0` is handed over without its second byte. -/
theorem reply_cut_off :
    (oneWaiting fun _ => return ()).dealResult (some (twoBytes 0x91 0)) =
        .ok (.callback ⟨0, { cb := fun _ => return (), timeout := 0 }⟩ [0x91]) ∧
      (oneWaiting fun _ => return ()).dealResult (some (twoBytes 0x91 0)) ≠
        .ok (.callback ⟨0, { cb := fun _ => return (), timeout := 0 }⟩ [0x91, 0]) := by
  have handed : (oneWaiting fun _ => return ()).dealResult (some (twoBytes 0x91 0)) =
      .ok (.callback ⟨0, { cb := fun _ => return (), timeout := 0 }⟩ [0x91]) :=
    @dealResult_of_stored _ (oneWaiting fun _ => return ()) (twoBytes 0x91 0) _ [0x91, 0]
      (by decide) (oneWaiting_stored _) (by decide) rfl rfl
  refine ⟨handed, fun whole => ?_⟩
  cases (Ending.callback.inj (Except.ok.inj (handed.symm.trans whole))).2

end RpcInstance
