/-
This file models the data of the protocol: call types, the two message layouts
with the buffer each lies in, and the callbacks that wait for replies.
-/

import Std.Data.HashMap.Lemmas
import RpcInstance.Library.FixedBuffer
import RpcInstance.Outcome

namespace RpcInstance

/-- The length of the buffers that messages are built in and received in. -/
def maxMsgLen : ℕ := 1024 * 64

/-- The size of the header of both messages, three 32-bit fields with padding. -/
def headerSize : ℕ := 12

/-- The bytes of a message buffer behind the header. -/
def dataCapacity : ℕ := maxMsgLen - headerSize

theorem dataCapacity_eq : dataCapacity = 65524 := rfl

theorem headerSize_add_le_iff (size : ℕ) :
    headerSize + size ≤ maxMsgLen ↔ size ≤ dataCapacity := by
  show 12 + size ≤ 65536 ↔ size ≤ 65524
  omega

/-- The enumeration `CALL_TYPE`. A value read from a message need not be an enumerator. -/
structure CallType where
  value : UInt32
  deriving DecidableEq, Hashable, Repr

namespace CallType

/-- `CALL_SESSION`. -/
def session : CallType := ⟨1⟩

/-- `CALL_SESSION_MEM`. -/
def sessionMem : CallType := ⟨2⟩

/-- `CALL_SESSION_DATA`. -/
def sessionData : CallType := ⟨3⟩

/-- `CALL_SESSION_NO_PARAM`. -/
def sessionNoParam : CallType := ⟨4⟩

/-- `CALL_SESSION_MEM_DATA`. -/
def sessionMemData : CallType := ⟨5⟩

/-- `CALL_SESSION_CB`. -/
def sessionCb : CallType := ⟨6⟩

/-- `CALL_MAX`, which is no call. -/
def max : CallType := ⟨7⟩

end CallType

/-- A call. The data lies behind the header in a buffer of `maxMsgLen` bytes. -/
structure RpcMsg where
  rpcid : UInt32 := 0
  type : UInt32 := 0
  size : UInt32 := 0
  data : FixedBuffer dataCapacity

/-- The number of bytes that are sent, as 32 bits. -/
def RpcMsg.getSize (msg : RpcMsg) : UInt32 :=
  UInt32.ofNat headerSize + msg.size

/-- A reply. -/
structure RpcResultMsg where
  rpcid : UInt32 := 0
  /-- `0` for a call that failed. -/
  state : UInt8 := 0
  size : UInt32 := 0
  data : FixedBuffer dataCapacity

/-- The `std::string` that is made from the declared size of a message's data. -/
def copyData (data : FixedBuffer dataCapacity) (size : UInt32) : Except Failure (List UInt8) :=
  match data.read size.toNat with
  | some bytes => .ok bytes
  | none => .error (.undefined .bufferOverread)

/-- The characters of a string up to its first NUL, as `c_str` hands them over. -/
def cStr (bytes : List UInt8) : List UInt8 :=
  bytes.takeWhile (· ≠ 0)

/-- A pointer to a command, with the bytes that can be read from there on. -/
abbrev CmdPointer := Option (ℕ → UInt8)

/-- What a copy of `size` bytes from the pointer reads. One of no bytes reads nothing, from a null
pointer too. -/
def CmdPointer.read (cmd : CmdPointer) (size : UInt64) : Except Failure (List UInt8) :=
  match cmd with
  | some memory => .ok ((List.range size.toNat).map memory)
  | none => if size = 0 then .ok [] else .error (.undefined .nullPointer)

/-- A callback takes the text of the reply. -/
abbrev Callback (Env : Type) := List UInt8 → Code Env Unit

/-- A registered callback. -/
structure RpcCB (Env : Type) where
  cb : Callback Env
  timeout : UInt64

/-- A `std::shared_ptr`: the object, and the allocation that tells it from equal ones. -/
structure SharedPtr (Value : Type) where
  address : ℕ
  object : Value

/-! ### Messages -/

theorem read_length {cmd : CmdPointer} {size : UInt64} {bytes : List UInt8}
    (read : cmd.read size = .ok bytes) : bytes.length = size.toNat := by
  unfold CmdPointer.read at read
  cases cmd with
  | some memory =>
    obtain rfl := Except.ok.inj read
    rw [List.length_map, List.length_range]
  | none =>
    dsimp only at read
    split at read
    · next zero =>
      obtain rfl := Except.ok.inj read
      rw [zero]
      rfl
    · cases read

theorem read_isOk_iff {cmd : CmdPointer} {size : UInt64} :
    (∃ bytes, cmd.read size = .ok bytes) ↔ cmd ≠ none ∨ size = 0 := by
  cases cmd with
  | some memory => exact iff_of_true ⟨_, rfl⟩ (Or.inl (Option.some_ne_none memory))
  | none =>
    rw [CmdPointer.read]
    split
    · next zero => exact iff_of_true ⟨[], rfl⟩ (Or.inr zero)
    · next nonzero =>
      exact iff_of_false (fun had => nomatch had.choose_spec) fun either =>
        either.elim (fun some => some rfl) nonzero

theorem copyData_eq_ok {data : FixedBuffer dataCapacity} {size : UInt32}
    (fits : size.toNat ≤ dataCapacity) : copyData data size = .ok (data.bytes.take size.toNat) := by
  rw [copyData, FixedBuffer.read, if_pos fits]

end RpcInstance
